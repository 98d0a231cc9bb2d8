import ChannelSearch.Json.Reader
import ChannelSearch.Proofs.PageReads
import Mathlib.Tactic.Common
import Mathlib.Tactic.IntervalCases

/-!
Texts in documents: a list of texts is written in ASCII, whatever its letters are, and the list is read
back from what is written. Main statement: the channels of a search go to the store as one argument, and
a row passes the test on it when its channel is one of them.
-/

namespace ChannelSearch

theorem toNat_scalar (c : Char) : c.toNat < 0xd800 ∨ 0xe000 ≤ c.toNat ∧ c.toNat < 0x110000 := by
  have hvalid := c.valid
  unfold UInt32.isValidChar Nat.isValidChar at hvalid
  have heq : c.toNat = c.val.toNat := rfl
  omega

namespace Text

theorem isAscii_of_mem_hex {width n : Nat} {c : Char} (h : c ∈ hex width n) : c.toNat < 128 := by
  induction width generalizing n with
  | zero => cases h
  | succ width ih =>
    rcases List.mem_append.mp h with h | h
    · exact ih h
    · have hlt : n % 16 < 16 := Nat.mod_lt n (by decide)
      rw [List.mem_singleton.mp h]
      generalize n % 16 = k at hlt
      interval_cases k <;> decide

theorem hex_four (n : Nat) :
    hex 4 n = [(n / 16 / 16 / 16 % 16).digitChar, (n / 16 / 16 % 16).digitChar,
      (n / 16 % 16).digitChar, (n % 16).digitChar] := rfl

end Text

namespace Json

theorem hexValue?_digitChar {k : Nat} (h : k < 16) : hexValue? k.digitChar = some k := by
  interval_cases k <;> rfl

/-- A unit is read back from its four digits, where something follows them. -/
theorem readUnit_hex {n : Nat} (h : n < 0x10000) {rest : Text} (hrest : rest ≠ []) :
    readUnit (Text.hex 4 n ++ rest) = some (n, rest) := by
  obtain ⟨next, tail, rfl⟩ := List.exists_cons_of_ne_nil hrest
  have hdigit (m : Nat) : hexValue? (m % 16).digitChar = some (m % 16) :=
    hexValue?_digitChar (Nat.mod_lt m (by decide))
  rw [Text.hex_four]
  simp only [List.cons_append, List.nil_append, readUnit, hdigit, Option.bind_eq_bind,
    Option.bind_some, Option.pure_def, Option.some.injEq, Prod.mk.injEq, and_true]
  omega

/-- A character is read back from its unit. -/
theorem readEscape_unit {c : Char} (h : c.toNat < 0x10000) {rest : Text} (hrest : rest ≠ []) :
    ∃ hlt, readEscape (Text.hex 4 c.toNat ++ rest) = .ok (c, ⟨rest, hlt⟩) := by
  have hscalar := toNat_scalar c
  have hhigh : isHighHalf c.toNat = false := by
    simp only [isHighHalf, Bool.and_eq_false_iff, decide_eq_false_iff_not]
    omega
  have hchar : charOfUnit c.toNat = c := by
    rw [charOfUnit, if_neg, Char.ofNat_toNat]
    rw [Bool.and_eq_true, decide_eq_true_eq, decide_eq_true_eq]
    omega
  unfold readEscape
  split
  · next hread =>
    rw [readUnit_hex h hrest] at hread
    cases hread
  · next unit after hread =>
    rw [readUnit_hex h hrest] at hread
    cases hread
    rw [hhigh, if_neg Bool.false_ne_true, hchar]
    exact ⟨length_of_readUnit hread, rfl⟩

theorem readLowHalf_hex {low : Nat} (h : isLowHalf low = true) {rest : Text} (hrest : rest ≠ []) :
    readLowHalf ('\\' :: 'u' :: (Text.hex 4 low ++ rest)) = .ok (some (low, rest)) := by
  have hsize : low < 0x10000 := by
    simp only [isLowHalf, Bool.and_eq_true, decide_eq_true_eq] at h
    omega
  have hlength : 4 < (Text.hex 4 low ++ rest).length := by
    have := List.length_pos_iff.mpr hrest
    rw [Text.hex_four, List.length_append]
    simp only [List.length_cons, List.length_nil]
    omega
  rw [readLowHalf, if_pos hlength, readUnit_hex hsize hrest]
  dsimp only
  rw [if_pos h]

/-- A character beyond the units is read back from the two halves of its pair. -/
theorem readEscape_pair {c : Char} {high low : Nat} (hhigh : isHighHalf high = true)
    (hlow : isLowHalf low = true)
    (hchar : 0x10000 + (high - 0xd800) * 0x400 + (low - 0xdc00) = c.toNat) {rest : Text}
    (hrest : rest ≠ []) :
    ∃ hlt, readEscape (Text.hex 4 high ++ '\\' :: 'u' :: (Text.hex 4 low ++ rest)) =
      .ok (c, ⟨rest, hlt⟩) := by
  have hsize : high < 0x10000 := by
    simp only [isHighHalf, Bool.and_eq_true, decide_eq_true_eq] at hhigh
    omega
  have hunit := readUnit_hex hsize (List.cons_ne_nil '\\' ('u' :: (Text.hex 4 low ++ rest)))
  have hpair := readLowHalf_hex hlow hrest
  unfold readEscape
  split
  · next hread =>
    rw [hunit] at hread
    cases hread
  · next unit after hread =>
    have hlt := length_of_readUnit hread
    rw [hunit] at hread
    cases hread
    rw [if_pos hhigh]
    split
    · next hread =>
      rw [hpair] at hread
      cases hread
    · next half found hread =>
      have hlt' := length_of_readLowHalf hread
      rw [hpair] at hread
      cases hread
      rw [hchar, Char.ofNat_toNat]
      exact ⟨hlt'.trans hlt, rfl⟩
    · next hread =>
      rw [hpair] at hread
      cases hread

/-- What stands before the rest of a text is read as these characters, after those that are read
already. -/
def SpellsChar (before : Text) (c : Char) : Prop :=
  ∀ opened read after s r, after ≠ [] →
    (∃ hlt, readChars opened (c :: read) after = .ok (s, ⟨r, hlt⟩)) →
      ∃ hlt, readChars opened read (before ++ after) = .ok (s, ⟨r, hlt⟩)

theorem spellsChar_letter {c : Char} (hquote : c ≠ '"') (hmark : c ≠ '\\') (hcontrol : 0x20 ≤ c.toNat) :
    SpellsChar [c] c := by
  rintro opened read after s r - ⟨hlt, hafter⟩
  have hcontrol : ¬ c.toNat < 0x20 := Nat.not_lt.mpr hcontrol
  show ∃ hlt, readChars opened read (c :: after) = .ok (s, ⟨r, hlt⟩)
  refine ⟨Nat.lt_succ_of_lt hlt, ?_⟩
  rw [readChars]
  · rw [if_neg hcontrol, hafter]
    rfl
  all_goals simp [hquote, hmark]

theorem spellsChar_simple {c d : Char} (h : simpleEscape? c = some d) : SpellsChar ['\\', c] d := by
  rintro opened read after s r - ⟨hlt, hafter⟩
  have hunit : c ≠ 'u' := by
    rintro rfl
    cases h
  show ∃ hlt, readChars opened read ('\\' :: c :: after) = .ok (s, ⟨r, hlt⟩)
  refine ⟨Nat.lt_succ_of_lt (Nat.lt_succ_of_lt hlt), ?_⟩
  rw [readChars]
  · split
    · next hread =>
      rw [h] at hread
      cases hread
    · next hread =>
      rw [h] at hread
      cases hread
      rw [hafter]
      rfl
  · exact fun h => hunit h

theorem spellsChar_escape {c : Char} {digits : Text}
    (h : ∀ after, after ≠ [] → ∃ hlt, readEscape (digits ++ after) = .ok (c, ⟨after, hlt⟩)) :
    SpellsChar ('\\' :: 'u' :: digits) c := by
  rintro opened read after s r hne ⟨hlt, hafter⟩
  obtain ⟨hshorter, hescape⟩ := h after hne
  show ∃ hlt, readChars opened read ('\\' :: 'u' :: (digits ++ after)) = .ok (s, ⟨r, hlt⟩)
  refine ⟨Nat.lt_succ_of_lt (Nat.lt_succ_of_lt (hlt.trans hshorter)), ?_⟩
  rw [readChars, hescape]
  dsimp only [bind, Except.bind]
  rw [hafter]

theorem spellsChar_escapeUnits (c : Char) : SpellsChar (escapeUnits c.toNat) c := by
  unfold escapeUnits
  split_ifs with hunit
  · exact spellsChar_escape fun after hafter => readEscape_unit hunit hafter
  · have hscalar := toNat_scalar c
    have hhigh : isHighHalf (0xd800 + (c.toNat - 0x10000) / 0x400) = true := by
      simp only [isHighHalf, Bool.and_eq_true, decide_eq_true_eq]
      omega
    have hlow : isLowHalf (0xdc00 + (c.toNat - 0x10000) % 0x400) = true := by
      simp only [isLowHalf, Bool.and_eq_true, decide_eq_true_eq]
      omega
    show SpellsChar ('\\' :: 'u' :: (Text.hex 4 _ ++ '\\' :: 'u' :: Text.hex 4 _)) c
    apply spellsChar_escape
    intro after hafter
    rw [List.append_assoc]
    exact readEscape_pair hhigh hlow (by omega) hafter

/-- Every character is read back from its escape. -/
theorem spellsChar_escapeChar (c : Char) : SpellsChar (escapeChar c) c := by
  unfold escapeChar
  split_ifs with hmark hline hreturn htab hfeed hback hplain
  · rw [Bool.or_eq_true, decide_eq_true_eq, decide_eq_true_eq] at hmark
    rcases hmark with rfl | rfl
    · exact spellsChar_simple rfl
    · exact spellsChar_simple rfl
  · exact hline ▸ spellsChar_simple rfl
  · exact hreturn ▸ spellsChar_simple rfl
  · exact htab ▸ spellsChar_simple rfl
  · exact hfeed ▸ spellsChar_simple rfl
  · exact hback ▸ spellsChar_simple rfl
  · simp only [Bool.or_eq_true, decide_eq_true_eq, not_or] at hmark
    rw [Bool.and_eq_true, decide_eq_true_eq, decide_eq_true_eq] at hplain
    exact spellsChar_letter hmark.1 hmark.2 hplain.1
  · exact spellsChar_escapeUnits c

theorem readChars_escaped (t rest : Text) (opened : Nat) (read : Text) :
    ∃ hlt, readChars opened read (t.flatMap escapeChar ++ '"' :: rest) =
      .ok (read.reverse ++ t, ⟨rest, hlt⟩) := by
  induction t generalizing read with
  | nil =>
    show ∃ hlt, readChars opened read ('"' :: rest) = .ok (read.reverse ++ [], ⟨rest, hlt⟩)
    refine ⟨Nat.lt_succ_self _, ?_⟩
    rw [readChars, List.append_nil]
  | cons c t ih =>
    have htail := ih (c :: read)
    rw [List.reverse_cons, List.append_assoc, List.singleton_append] at htail
    rw [List.flatMap_cons, List.append_assoc]
    exact spellsChar_escapeChar c opened read _ _ rest (by simp) htail

/-- A value stands in front of the rest of a text. -/
def ReadsValue (t : Text) (v : Json) (rest : Text) : Prop := ∃ hlt, readValue t = .ok (v, ⟨rest, hlt⟩)

/-- The items of a list and its closing bracket stand in front of the rest of a text. -/
def ReadsItems (t : Text) (vs : List Json) (rest : Text) : Prop :=
  ∃ hlt, readItems t = .ok (vs, ⟨rest, hlt⟩)

theorem readsValue_text (t rest : Text) : ReadsValue (writeText t ++ rest) (.text t) rest := by
  obtain ⟨hlt, hchars⟩ := readChars_escaped t rest ((t.flatMap escapeChar ++ '"' :: rest).length + 1) []
  have hwritten : writeText t ++ rest = '"' :: (t.flatMap escapeChar ++ '"' :: rest) := by
    simp [writeText]
  rw [hwritten]
  refine ⟨Nat.lt_succ_of_lt hlt, ?_⟩
  rw [readValue, hchars]
  rfl

theorem skipSpace_cons {c : Char} (h : isSpace c = false) (t : Text) : skipSpace (c :: t) = c :: t := by
  simp [skipSpace, h]

section Steps

variable {t after rest : Text} {v : Json} {vs : List Json}

theorem readsItems_last (h : ReadsValue t v (']' :: rest)) : ReadsItems t [v] rest := by
  obtain ⟨hlt, hvalue⟩ := h
  refine ⟨Nat.lt_of_succ_lt hlt, ?_⟩
  rw [readItems, hvalue]
  dsimp only [bind, Except.bind]
  split
  · next hskip =>
    rw [skipSpace_cons (by decide)] at hskip
    cases hskip
    rfl
  · next hskip =>
    rw [skipSpace_cons (by decide)] at hskip
    cases hskip
  · next hbracket hcomma => exact absurd (skipSpace_cons (by decide) rest) (hbracket rest)

theorem readsItems_next (h : ReadsValue t v (',' :: after)) (hitems : ReadsItems (skipSpace after) vs rest) :
    ReadsItems t (v :: vs) rest := by
  obtain ⟨hlt, hvalue⟩ := h
  obtain ⟨hshorter, hitems⟩ := hitems
  have hspace := length_skipSpace_le after
  rw [List.length_cons] at hlt
  refine ⟨by omega, ?_⟩
  rw [readItems, hvalue]
  dsimp only [bind, Except.bind]
  split
  · next hskip =>
    rw [skipSpace_cons (by decide)] at hskip
    cases hskip
  · next hskip =>
    rw [skipSpace_cons (by decide)] at hskip
    cases hskip
    rw [hitems]
  · next hbracket hcomma => exact absurd (skipSpace_cons (by decide) after) (hcomma after)

theorem readsValue_array (hfirst : ∀ tail, skipSpace t ≠ ']' :: tail)
    (h : ReadsItems (skipSpace t) vs rest) : ReadsValue ('[' :: t) (.array vs) rest := by
  obtain ⟨hlt, hitems⟩ := h
  have hspace := length_skipSpace_le t
  refine ⟨by rw [List.length_cons]; omega, ?_⟩
  rw [readValue]
  split
  · next hbracket => exact absurd hbracket (hfirst _)
  · rw [hitems]
    rfl

end Steps

theorem writeItems_cons (t u : Text) (ts : List Text) :
    writeItems ((t :: u :: ts).map .text) =
      writeText t ++ ',' :: ' ' :: writeItems ((u :: ts).map .text) := by
  simp [writeItems, write]

/-- A list of texts starts with a quote, whatever space stands before it. -/
theorem writeItems_head {ts : List Text} (h : ts ≠ []) :
    ∃ tail, writeItems (ts.map .text) = '"' :: tail := by
  obtain ⟨t, us, rfl⟩ := List.exists_cons_of_ne_nil h
  cases us with
  | nil => exact ⟨_, rfl⟩
  | cons u us =>
    rw [writeItems_cons]
    exact ⟨_, rfl⟩

theorem skipSpace_writeItems {ts : List Text} (h : ts ≠ []) (rest : Text) :
    skipSpace (' ' :: (writeItems (ts.map .text) ++ rest)) = writeItems (ts.map .text) ++ rest := by
  obtain ⟨tail, htail⟩ := writeItems_head h
  rw [htail, List.cons_append]
  exact skipSpace_cons (c := '"') (by decide) (tail ++ rest)

/-- The items of a list of texts are read back, up to its closing bracket. -/
theorem readsItems_texts {ts : List Text} (hne : ts ≠ []) (rest : Text) :
    ReadsItems (writeItems (ts.map .text) ++ ']' :: rest) (ts.map .text) rest := by
  induction ts with
  | nil => exact absurd rfl hne
  | cons t ts ih =>
    cases ts with
    | nil => exact readsItems_last (readsValue_text t (']' :: rest))
    | cons u ts =>
      have hnext := ih (List.cons_ne_nil u ts)
      rw [← skipSpace_writeItems (List.cons_ne_nil u ts)] at hnext
      rw [writeItems_cons, List.append_assoc]
      exact readsItems_next (readsValue_text t _) hnext

/-- A list of texts is read back as a value. -/
theorem readsValue_texts (ts : List Text) :
    ReadsValue (write (.array (ts.map .text))) (.array (ts.map .text)) [] := by
  rw [write]
  by_cases hts : ts = []
  · subst hts
    refine ⟨by simp, ?_⟩
    rw [readValue]
    split
    · next hskip =>
      cases hskip
      rfl
    · next hbracket => exact absurd rfl (hbracket [])
  · have hitems := readsItems_texts hts []
    obtain ⟨tail, htail⟩ := writeItems_head hts
    have hskip : skipSpace (writeItems (ts.map .text) ++ [']']) = writeItems (ts.map .text) ++ [']'] := by
      rw [htail, List.cons_append]
      exact skipSpace_cons (by decide) _
    apply readsValue_array
    · rw [hskip, htail]
      simp
    · rwa [hskip]

/-- A list of texts is read back. -/
theorem read_write_texts (ts : List Text) :
    read (write (.array (ts.map .text))) = .ok (.array (ts.map .text)) := by
  have hvalue := readsValue_texts ts
  have hopening : skipSpace (write (.array (ts.map .text))) = write (.array (ts.map .text)) :=
    skipSpace_cons (c := '[') (by decide) (writeItems (ts.map .text) ++ [']'])
  rw [← hopening] at hvalue
  obtain ⟨hlt, hvalue⟩ := hvalue
  rw [read]
  · rw [hvalue]
    rfl
  · rintro tail htail
    rw [write] at htail
    cases htail

theorem isAscii_of_mem_escapeChar {c d : Char} (h : d ∈ escapeChar c) : d.toNat < 128 := by
  have hunit {n : Nat} (h : d ∈ '\\' :: 'u' :: Text.hex 4 n) : d.toNat < 128 := by
    simp only [List.mem_cons] at h
    rcases h with rfl | rfl | h
    · decide
    · decide
    · exact Text.isAscii_of_mem_hex h
  have hsimple {x : Char} (hx : x.toNat < 128) (h : d ∈ ['\\', x]) : d.toNat < 128 := by
    simp only [List.mem_cons, List.not_mem_nil, or_false] at h
    rcases h with rfl | rfl
    · decide
    · exact hx
  unfold escapeChar at h
  split_ifs at h with hmark hline hreturn htab hfeed hback hplain
  · rw [Bool.or_eq_true, decide_eq_true_eq, decide_eq_true_eq] at hmark
    rcases hmark with rfl | rfl
    · exact hsimple (by decide) h
    · exact hsimple (by decide) h
  · exact hsimple (by decide) h
  · exact hsimple (by decide) h
  · exact hsimple (by decide) h
  · exact hsimple (by decide) h
  · exact hsimple (by decide) h
  · rw [Bool.and_eq_true, decide_eq_true_eq, decide_eq_true_eq] at hplain
    rw [List.mem_singleton.mp h]
    omega
  · unfold escapeUnits at h
    split_ifs at h
    · exact hunit h
    · rcases List.mem_append.mp h with h | h
      · exact hunit h
      · exact hunit h

/-- A list of texts is written in ASCII. -/
theorem isAscii_of_mem_writeTexts {ts : List Text} {c : Char}
    (h : c ∈ write (.array (ts.map .text))) : c.toNat < 128 := by
  have htext {t : Text} (h : c ∈ writeText t) : c.toNat < 128 := by
    simp only [writeText, List.mem_cons, List.mem_append, List.mem_flatMap, List.not_mem_nil,
      or_false] at h
    rcases h with rfl | ⟨d, -, h⟩ | rfl
    · decide
    · exact isAscii_of_mem_escapeChar h
    · decide
  have hitems : ∀ ts : List Text, c ∈ writeItems (ts.map .text) → c.toNat < 128 := by
    intro ts h
    induction ts with
    | nil => cases h
    | cons t ts ih =>
      cases ts with
      | nil => exact htext h
      | cons u ts =>
        rw [writeItems_cons, List.mem_append, List.mem_cons, List.mem_cons] at h
        rcases h with h | rfl | rfl | h
        · exact htext h
        · decide
        · decide
        · exact ih h
  rw [write, List.mem_cons, List.mem_append, List.mem_singleton] at h
  rcases h with rfl | h | rfl
  · decide
  · exact hitems ts h
  · decide

/-- The items of a document that is a list; another document has none. -/
def itemsOf (document : Text) : List Json :=
  match read document with
  | .ok (.array items) => items
  | _ => []

theorem mem_itemsOf_write {ts : List Text} {t : Text} :
    .text t ∈ itemsOf (write (.array (ts.map .text))) ↔ t ∈ ts := by
  unfold itemsOf
  rw [read_write_texts]
  simp

end Json

open Sql

theorem PostQuery.select_within (q : PostQuery) (ids : List Text) :
    select (q.within .channelId ids) =
      (select q).filter (Select.inJson PostColumn.channelId.name (ids.map .text)) := by
  rw [select, PageQuery.within, PageQuery.filter, Condition.clauses_eq, List.map_append]
  rw [select, Select.filter, Condition.clauses_eq]
  rfl

/-- The ids are bound as one argument: an ASCII document whose items are the ids, in their order. A post
passes the test that a search puts on its channel when its channel is an item. -/
theorem channels_survive_their_argument {ids : List Text} (hne : ids ≠ []) :
    ∃ argument : Text,
      (∀ (q : Select) (column : Text), q.filterInJson column (ids.map .text) =
        .ok (q.filter
          ⟨column ++ " IN (SELECT value FROM json_each(?))".toList, [.text argument]⟩)) ∧
      (∀ c ∈ argument, c.toNat < 128) ∧
      Json.read argument = .ok (.array (ids.map .text)) ∧
      ∀ q : PostQuery,
        (PostQuery.select q).filterInJson PostColumn.channelId.name (ids.map .text) =
          .ok (PostQuery.select (q.within .channelId ids)) ∧
        ∀ (users : UserQuery → List Text) (p : Post),
          (Condition.holdsAll users p.values (q.within .channelId ids).conditions = true ↔
            Condition.holdsAll users p.values q.conditions = true ∧
              .text p.channelId ∈ Json.itemsOf argument) ∧
          (.text p.channelId ∈ Json.itemsOf argument ↔ p.channelId ∈ ids) := by
  have hset : (ids.map Json.text).isEmpty = false := by simpa using hne
  have hfilter (q : Select) (column : Text) : q.filterInJson column (ids.map .text) =
      .ok (q.filter (Select.inJson column (ids.map .text))) := by
    rw [Select.filterInJson, hset, if_neg Bool.false_ne_true]
  refine ⟨Json.write (.array (ids.map .text)), hfilter, ?_, Json.read_write_texts ids, ?_⟩
  · exact fun c hc => Json.isAscii_of_mem_writeTexts hc
  · intro q
    refine ⟨?_, ?_⟩
    · rw [hfilter, PostQuery.select_within]
    · intro users p
      have hchannel : p.values .channelId = .text p.channelId := rfl
      refine ⟨?_, Json.mem_itemsOf_write⟩
      rw [PageQuery.holdsAll_within hchannel, Json.mem_itemsOf_write]

/-- Quotes, backslashes, controls and characters beyond the units. -/
theorem channels_survive_their_argument_marked :
    ["C\"1\\".toList, ['\n', '\x7f', 'é'], ['😀']] ≠ [] ∧
      ∃ argument : Text,
        (∀ c ∈ argument, c.toNat < 128) ∧
        Json.read argument =
          .ok (.array [.text "C\"1\\".toList, .text ['\n', '\x7f', 'é'], .text ['😀']]) := by
  have hne : ["C\"1\\".toList, ['\n', '\x7f', 'é'], ['😀']] ≠ [] := List.cons_ne_nil _ _
  obtain ⟨argument, -, hascii, hread, -⟩ := channels_survive_their_argument hne
  exact ⟨hne, argument, hascii, hread⟩

end ChannelSearch
