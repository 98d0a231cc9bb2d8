import ChannelSearch.Proofs.LowerForms
import ChannelSearch.Proofs.SearchBoxContents
import ChannelSearch.Proofs.TextConditions

/-!
A single word in the search box, alone and after a dash: the requests that it makes, and what their
texts ask for.
-/

namespace ChannelSearch

open Text

namespace Tokens

/-- A text is searched for letter by letter, its escape marks aside. -/
theorem exists_forms (t : Text) (before : Bool) :
    ∃ forms : List Text, literal messageEscape (lowerAfter before t) = forms.flatten ∧
      List.Forall₂ IsFormOf forms (literal messageEscape t) := by
  induction t generalizing before with
  | nil => exact ⟨[], rfl, .nil⟩
  | cons c rest ih =>
    obtain ⟨form, next, hform, heq⟩ := exists_lowerAfter_cons before c rest
    obtain ⟨forms, hforms, hall⟩ := ih next
    rw [heq, literal_append, hforms]
    by_cases hc : c = messageEscape
    · have hdrop : literal messageEscape (c :: rest) = literal messageEscape rest := by
        simp [literal, hc]
      subst hc
      rw [hform.of_notLetter (by decide), hdrop]
      exact ⟨forms, rfl, hall⟩
    · have hcons : literal messageEscape (c :: rest) = c :: literal messageEscape rest := by
        simp [literal, hc]
      have hkeep : literal messageEscape form = form := by
        apply List.filter_eq_self.mpr
        intro d hd
        have hd : d ≠ messageEscape := fun h => hc (((hform.letters d hd).eq_iff (by decide)).mp h)
        simpa using hd
      rw [hcons, hkeep]
      exact ⟨form :: forms, rfl, .cons hform hall⟩

/-- A text starts as it is searched for, where it starts with no letter. -/
theorem head?_plain {x : Char} (hx : isLetterLike x = false) (t : Text) :
    (plain t).head? = some x ↔ (literal messageEscape t).head? = some x := by
  obtain ⟨forms, hforms, hall⟩ := exists_forms t false
  rw [plain, lower, hforms]
  generalize literal messageEscape t = u at hall ⊢
  cases hall with
  | nil => rfl
  | cons hform _ =>
    obtain ⟨d, ds, rfl⟩ := List.exists_cons_of_ne_nil hform.ne_nil
    simpa using (hform.letters d List.mem_cons_self).eq_iff hx

theorem isBlankToken_form {form : Text} {c : Char} (h : IsFormOf form c) :
    isBlankToken form = isBlankToken [c] := by
  match form, h with
  | [], h => exact absurd rfl h.ne_nil
  | [d], h =>
    have hd (x : Char) (hx : isLetterLike x = false) : decide (d = x) = decide (c = x) :=
      decide_eq_decide.mpr ((h.letters d List.mem_cons_self).eq_iff hx)
    simp only [isBlankToken, isMark, hd '*' (by decide), hd '#' (by decide), hd '@' (by decide)]
  | d :: e :: _, h =>
    have hc (x : Char) (hx : isLetterLike x = false) : c ≠ x := by
      intro heq
      cases h.of_notLetter (heq ▸ hx)
    simp [isBlankToken, isMark, hc '*' (by decide), hc '#' (by decide), hc '@' (by decide)]

/-- Lower case makes no text ask for something, and none ask for nothing. -/
theorem isBlankToken_plain (t : Text) :
    isBlankToken (plain t) = isBlankToken (literal messageEscape t) := by
  obtain ⟨forms, hforms, hall⟩ := exists_forms t false
  rw [plain, lower, hforms]
  generalize literal messageEscape t = u at hall ⊢
  cases hall with
  | nil => rfl
  | cons hform hrest =>
    cases hrest with
    | nil => simpa using isBlankToken_form hform
    | cons hform' _ =>
      obtain ⟨d, ds, rfl⟩ := List.exists_cons_of_ne_nil hform.ne_nil
      obtain ⟨e, es, rfl⟩ := List.exists_cons_of_ne_nil hform'.ne_nil
      cases ds <;> rfl

theorem visible_plain {t : Text} (h : ∀ c ∈ t, isBlank c = false) :
    ∀ d ∈ plain t, isBlank d = false := by
  intro d hd
  obtain ⟨c, hc, hlower⟩ := mem_lowerAfter (mem_literal.mp hd).1
  exact hlower.isBlank_eq.trans (h c hc)

theorem quote_not_mem_plain {t : Text} (h : '"' ∉ t) : '"' ∉ plain t := by
  intro hmem
  obtain ⟨c, hc, hlower⟩ := mem_lowerAfter (mem_literal.mp hmem).1
  exact h ((hlower.eq_iff (by decide)).mp rfl ▸ hc)

end Tokens

namespace Needle

/-- The store takes the pattern of the needle. -/
def Fits (n : Needle) : Prop := n.pattern.byteSize ≤ Sql.maxPatternBytes

instance (n : Needle) : Decidable n.Fits := inferInstanceAs (Decidable (_ ≤ _))

/-- A token is looked for in at most two ways, the first of which has the longest pattern. -/
theorem exists_ofTerm? {t : Text} (h : isBlankToken t = false) :
    ∃ n rest, ofTerm? t = some (n :: rest) ∧ rest.length ≤ 1 ∧ (n.Fits → ∀ m ∈ rest, m.Fits) ∧
      (isMarked t = true → n = .within t ∧ rest = [.within (t.drop 1)]) := by
  rw [ofTerm?, if_neg (by simp [h])]
  split_ifs with hmarked hstar
  · refine ⟨_, _, rfl, le_refl 1, fun hfits m hm => ?_, fun _ => ⟨rfl, rfl⟩⟩
    obtain rfl := List.mem_singleton.mp hm
    cases t with
    | nil => cases h
    | cons c u =>
      have hc : isWildcard c = false := by
        simp only [isMarked, isMark, Bool.or_eq_true, decide_eq_true_eq] at hmarked
        rcases hmarked with rfl | rfl <;> rfl
      simp only [Fits, pattern, guarded_cons_plain hc, List.drop_succ_cons, List.drop_zero,
        byteSize, List.cons_append, List.map_cons, List.foldr_cons] at hfits ⊢
      omega
  · exact ⟨_, _, rfl, Nat.zero_le 1, fun _ => List.forall_mem_nil _, fun h => absurd h hmarked⟩
  · exact ⟨_, _, rfl, Nat.zero_le 1, fun _ => List.forall_mem_nil _, fun h => absurd h hmarked⟩

/-- What a word in the search box is left out as: with and without its mark, or at the start. -/
def ofWord (w : Text) : List Needle := (ofTerm? (Tokens.plain w)).getD []

/-- What a word in the search box is looked for as. A hashtag keeps its mark. -/
def ofSearched (w : Text) : List Needle :=
  if w.head? = some '#' then [.within (Tokens.plain w)] else ofWord w

end Needle

namespace SearchRequest

/-- The texts of a request ask for one thing. -/
def Seeks (r : SearchRequest) (ns : List Needle) : Prop :=
  (Tokens.sought (MergedText.ofRequests [r])).wanted = [ns] ∧
    (Tokens.sought (MergedText.ofRequests [r])).unwanted = []

/-- The texts of a request ask for one thing to be left out. -/
def LeavesOut (r : SearchRequest) (ns : List Needle) : Prop :=
  (Tokens.sought (MergedText.ofRequests [r])).wanted = [] ∧
    (Tokens.sought (MergedText.ofRequests [r])).unwanted = [ns]

variable {r : SearchRequest} {ns : List Needle}

theorem Seeks.match_iff (h : r.Seeks ns) (text : Text) :
    (Tokens.sought (MergedText.ofRequests [r])).Match false text ↔ ∃ n ∈ ns, n.FoundIn text := by
  simp [Tokens.Match, h.1, h.2]

theorem LeavesOut.match_iff (h : r.LeavesOut ns) (text : Text) :
    (Tokens.sought (MergedText.ofRequests [r])).Match false text ↔ ∀ n ∈ ns, ¬ n.FoundIn text := by
  simp [Tokens.Match, h.1, h.2]

end SearchRequest

namespace SearchBox

/-- A single word that is neither a flag nor an exclusion, and asks for something. -/
structure IsTypedWord (w : Text) : Prop where
  visible : ∀ c ∈ w, isBlank c = false
  unquoted : '"' ∉ w
  undashed : w.head? ≠ some '-'
  unflagged : flagOf? w = none
  asks : isBlankToken (literal Tokens.messageEscape w) = false

variable {w : Text}

theorem IsTypedWord.ne_nil (hw : IsTypedWord w) : w ≠ [] := by
  rintro rfl
  cases hw.asks

theorem IsTypedWord.strip_eq (hw : IsTypedWord w) : w.strip = w :=
  (isSolid_of_visible hw.ne_nil hw.visible).strip_eq

theorem IsTypedWord.unquoted_dash (hw : IsTypedWord w) : '"' ∉ '-' :: w := by
  simpa using hw.unquoted

theorem IsTypedWord.asks_plain (hw : IsTypedWord w) : isBlankToken (Tokens.plain w) = false :=
  (Tokens.isBlankToken_plain w).trans hw.asks

theorem IsTypedWord.plain_ne_nil (hw : IsTypedWord w) : Tokens.plain w ≠ [] := by
  intro h
  have hasks := hw.asks_plain
  rw [h] at hasks
  cases hasks

/-- A name that is none of a filter is none after a dash. -/
theorem ofName?_eq_none_of_dash {name : Text} (h : Flag.ofName? name = none) :
    Flag.ofName? ('-' :: name) = none := by
  have hsame (s t : String) (ht : t.toList = '-' :: s.toList) (hs : name ≠ s.toList) :
      '-' :: name ≠ t.toList := by
    rw [ht]
    exact fun heq => hs (List.cons.inj heq).2
  have hother (s : String) (hs : s.toList.head? ≠ some '-') : '-' :: name ≠ s.toList := by
    intro heq
    rw [← heq] at hs
    exact hs rfl
  simp only [Flag.ofName?, Bool.or_eq_true, decide_eq_true_eq] at h ⊢
  split_ifs at h with hfrom _ hin
  obtain ⟨hin, hchannel⟩ := not_or.mp hin
  rw [if_neg (hother "from" (by decide)), if_neg (hsame "from" "-from" rfl hfrom),
    if_neg (not_or.mpr ⟨hother "in" (by decide), hother "channel" (by decide)⟩),
    if_neg (not_or.mpr ⟨hsame "in" "-in" rfl hin, hsame "channel" "-channel" rfl hchannel⟩),
    if_neg (hother "ext" (by decide)), if_neg (hother "on" (by decide)),
    if_neg (hother "after" (by decide)), if_neg (hother "before" (by decide))]

/-- A token without quotes is a flag by what stands before and after its colon. -/
theorem flagOf?_of_unquoted {t : Text} (ht : '"' ∉ t) :
    flagOf? t = (t.cutAt? ':').bind fun (name, value) =>
      (Flag.ofName? (Text.lower name)).bind fun flag =>
        if (Text.strip value).isEmpty then none else some (flag, Text.strip value) := by
  unfold flagOf?
  split
  · simp at ht
  · simp at ht
  · rfl

/-- What is no flag is none after a dash. -/
theorem flagOf?_dash (hw : IsTypedWord w) : flagOf? ('-' :: w) = none := by
  have hflag := hw.unflagged
  have hdash : IsCaseless '-' := ⟨by decide, by decide, by decide⟩
  rw [flagOf?_of_unquoted hw.unquoted] at hflag
  rw [flagOf?_of_unquoted hw.unquoted_dash, cutAt?,
    if_neg (by decide), Option.bind_map]
  cases hcut : w.cutAt? ':' with
  | none => rfl
  | some parts =>
    obtain ⟨name, value⟩ := parts
    rw [hcut] at hflag
    simp only [Option.bind_some, Function.comp_apply, hdash.lower_cons] at hflag ⊢
    by_cases hvalue : (Text.strip value).isEmpty = true
    · simp [hvalue]
    · rw [Option.bind_eq_none_iff] at hflag
      rw [ofName?_eq_none_of_dash]
      · rfl
      · cases hname : Flag.ofName? (Text.lower name) with
        | none => rfl
        | some flag => simpa [hvalue] using hflag flag hname

/-- A word makes a request for it, or for it as a hashtag. -/
theorem parse_word (hw : IsTypedWord w) (offset : Int) :
    parse w offset =
      [{ terms := w, isHashtag := decide (w.head? = some '#'), timeZoneOffset := offset }] := by
  rw [parse, Contents.ofText_word hw.ne_nil hw.visible hw.unquoted]
  by_cases htag : w.head? = some '#'
  · obtain ⟨rest, rfl⟩ := List.head?_eq_some_iff.mp htag
    obtain ⟨d, rest, rfl⟩ : ∃ d tail, rest = d :: tail := by
      apply List.exists_cons_of_ne_nil
      rintro rfl
      exact absurd hw.asks (by decide)
    have hadd : Contents.add {} ('#' :: d :: rest) = { hashtags := ['#' :: d :: rest] } := by
      simp only [Contents.add, hw.unflagged]
      rfl
    simp [hadd, Contents.requests, Contents.isEmpty]
  · have hblank : isBlankWord w = false := by
      rw [isBlankWord, trim_of_plain hw.unquoted]
      exact (isSolid_of_visible hw.ne_nil hw.visible).not_blank
    have hadd : Contents.add {} w = { terms := [w] } := by
      have hundashed := hw.undashed
      simp only [Contents.add, hw.unflagged]
      split
      · simp at hundashed
      · simp at htag
      · rw [hblank]
        rfl
    simp [hadd, htag, Contents.requests, Contents.isEmpty]

/-- A word after a dash makes a request to leave it out. -/
theorem parse_dash (hw : IsTypedWord w) (offset : Int) :
    parse ('-' :: w) offset = [{ excludedTerms := w, timeZoneOffset := offset }] := by
  have hvisible : ∀ c ∈ '-' :: w, isBlank c = false :=
    List.forall_mem_cons.mpr ⟨by decide, hw.visible⟩
  have hadd : Contents.add {} ('-' :: w) = { excluded := [w] } := by
    obtain ⟨c, rest, rfl⟩ := List.exists_cons_of_ne_nil hw.ne_nil
    simp only [Contents.add, flagOf?_dash hw]
    rfl
  rw [parse, Contents.ofText_word (List.cons_ne_nil _ _) hvisible hw.unquoted_dash, hadd]
  simp [Contents.requests, Contents.isEmpty]

theorem merged_word (hw : IsTypedWord w) (offset : Int) :
    MergedText.ofRequests
        [{ terms := w, isHashtag := decide (w.head? = some '#'), timeZoneOffset := offset }] =
      if w.head? = some '#' then { hashtagTerms := w } else { terms := w } := by
  have hquote : MergedText.quotePhrases [] = [] := rfl
  have hnonBlank : MergedText.nonBlank w = [w] := by
    rw [MergedText.nonBlank, (isSolid_of_visible hw.ne_nil hw.visible).not_blank, hw.strip_eq]
    rfl
  have hnone : MergedText.nonBlank [] = [] := rfl
  have hsplit : w.splitWhere (· = ' ') = [w] := by
    apply splitWhere_of_none
    intro c hc
    have hvisible := hw.visible c hc
    exact decide_eq_false fun h => by rw [h] at hvisible; cases hvisible
  split_ifs with htag
  · simp [MergedText.ofRequests, MergedText.termsOf, MergedText.excludedOf, MergedText.hashtagsOf,
      htag, hquote, hnone, hsplit, hw.ne_nil]
  · simp [MergedText.ofRequests, MergedText.termsOf, MergedText.excludedOf, MergedText.hashtagsOf,
      htag, hquote, hnone, hnonBlank]

theorem merged_dash (hw : IsTypedWord w) (offset : Int) :
    MergedText.ofRequests [{ excludedTerms := w, timeZoneOffset := offset }] =
      { excludedTerms := w } := by
  have hquote : MergedText.quotePhrases [] = [] := rfl
  have hnone : MergedText.nonBlank [] = [] := rfl
  have hnonBlank : MergedText.nonBlank w = [w] := by
    rw [MergedText.nonBlank, (isSolid_of_visible hw.ne_nil hw.visible).not_blank, hw.strip_eq]
    rfl
  simp [MergedText.ofRequests, MergedText.termsOf, MergedText.excludedOf, MergedText.hashtagsOf,
    hquote, hnone, hnonBlank]

theorem ofTerm?_plain (hw : IsTypedWord w) :
    Needle.ofTerm? (Tokens.plain w) = some (Needle.ofWord w) := by
  obtain ⟨n, rest, hterm, -⟩ := Needle.exists_ofTerm? hw.asks_plain
  rw [Needle.ofWord, hterm, Option.getD_some]

theorem read_plain (hw : IsTypedWord w) :
    extractPhrases (Tokens.plain w) = ([], Tokens.plain w) ∧
      (Tokens.plain w).words = [Tokens.plain w] :=
  ⟨extractPhrases_of_plain (Tokens.quote_not_mem_plain hw.unquoted),
    words_of_visible hw.plain_ne_nil (Tokens.visible_plain hw.visible)⟩

theorem head?_plain_of_tag (htag : w.head? = some '#') : (Tokens.plain w).head? = some '#' := by
  rw [Tokens.head?_plain (by decide)]
  obtain ⟨rest, rfl⟩ := List.head?_eq_some_iff.mp htag
  rfl

/-- The request of a word asks for the word. -/
theorem seeks_word (hw : IsTypedWord w) (offset : Int) :
    SearchRequest.Seeks
      { terms := w, isHashtag := decide (w.head? = some '#'), timeZoneOffset := offset }
      (Needle.ofSearched w) := by
  have hnil : Tokens.plain [] = [] := rfl
  have hnoTags : hashtags [] = [] := by simp [hashtags]
  obtain ⟨hphrases, hwords⟩ := read_plain hw
  unfold SearchRequest.Seeks
  rw [merged_word hw, Needle.ofSearched]
  split_ifs with htag
  · have hmark := head?_plain_of_tag htag
    have htags : hashtags (Tokens.plain w) = [Tokens.plain w] := by
      rw [hashtags, hwords, List.filter_eq_self, List.forall_mem_singleton]
      have hasks := hw.asks_plain
      generalize Tokens.plain w = word at hmark hasks
      rcases word with _ | ⟨c, _ | ⟨d, rest⟩⟩
      · cases hmark
      · obtain rfl := Option.some.inj hmark
        exact absurd hasks (by decide)
      · obtain rfl := Option.some.inj hmark
        rfl
    have hneedle : Needle.ofHashtag? (Tokens.plain w) = some [.within (Tokens.plain w)] := by
      rw [Needle.ofHashtag?, hmark, hw.asks_plain]
      rfl
    simp [Tokens.wanted, Tokens.unwanted, Tokens.sought, hnil, htags, hneedle]
  · have hneedle : Needle.ofTerm? (Tokens.plain w) = some (Needle.ofWord w) := ofTerm?_plain hw
    simp [Tokens.wanted, Tokens.unwanted, Tokens.sought, hnil, hnoTags, hphrases, hwords, hneedle]

/-- The request of a word after a dash leaves the word out, if no other dash comes first. -/
theorem leavesOut_dash (hw : IsTypedWord w)
    (hbare : (literal Tokens.messageEscape w).head? ≠ some '-') (offset : Int) :
    SearchRequest.LeavesOut { excludedTerms := w, timeZoneOffset := offset } (Needle.ofWord w) := by
  have hnil : Tokens.plain [] = [] := rfl
  have hnoTags : hashtags [] = [] := by simp [hashtags]
  obtain ⟨hphrases, hwords⟩ := read_plain hw
  have hdash : (Tokens.plain w).dropLeading '-' = Tokens.plain w := by
    have hbare := mt (Tokens.head?_plain (by decide) w).mp hbare
    generalize Tokens.plain w = word at hbare
    cases word with
    | nil => rfl
    | cons c rest => exact if_neg fun h => hbare (congrArg some h)
  have hneedle : Needle.ofTerm? (Tokens.plain w) = some (Needle.ofWord w) := ofTerm?_plain hw
  unfold SearchRequest.LeavesOut
  rw [merged_dash hw]
  simp [Tokens.wanted, Tokens.unwanted, Tokens.sought, hnil, hnoTags, hphrases, hwords, hdash, hneedle]

end SearchBox

namespace Needle

variable {w : Text}

theorem ofWord_of_tag (hw : SearchBox.IsTypedWord w) (htag : w.head? = some '#') :
    ofWord w = [.within (Tokens.plain w), .within ((Tokens.plain w).drop 1)] := by
  obtain ⟨n, rest, hterm, -, -, hmarked⟩ := exists_ofTerm? hw.asks_plain
  have hmark : isMarked (Tokens.plain w) = true := by
    obtain ⟨u, hu⟩ := List.head?_eq_some_iff.mp (SearchBox.head?_plain_of_tag htag)
    rw [hu]
    rfl
  obtain ⟨rfl, rfl⟩ := hmarked hmark
  rw [ofWord, hterm, Option.getD_some]

theorem exists_ofWord (hw : SearchBox.IsTypedWord w) :
    ∃ n rest, ofWord w = n :: rest ∧ rest.length ≤ 1 ∧ (n.Fits → ∀ m ∈ rest, m.Fits) ∧
      ((∀ m ∈ ofWord w, m.Fits) ↔ n.Fits) := by
  obtain ⟨n, rest, hterm, hlength, hfirst, -⟩ := exists_ofTerm? hw.asks_plain
  have hword : ofWord w = n :: rest := by rw [ofWord, hterm, Option.getD_some]
  refine ⟨n, rest, hword, hlength, hfirst, ?_⟩
  rw [hword, List.forall_mem_cons]
  exact ⟨fun h => h.1, fun h => ⟨h, hfirst h⟩⟩

/-- A word is looked for in the first of the ways that it is left out in, and in the others if it is no
hashtag. -/
theorem exists_ofSearched (hw : SearchBox.IsTypedWord w) :
    ∃ n rest, ofSearched w = n :: rest ∧ rest.length ≤ 1 ∧ (n.Fits → ∀ m ∈ rest, m.Fits) ∧
      ((∀ m ∈ ofWord w, m.Fits) ↔ n.Fits) := by
  obtain ⟨n, rest, hword, hlength, hfirst, hfits⟩ := exists_ofWord hw
  by_cases htag : w.head? = some '#'
  · have hmarked := ofWord_of_tag hw htag
    obtain ⟨rfl, rfl⟩ := List.cons.inj (hword.symm.trans hmarked)
    exact ⟨_, [], by rw [ofSearched, if_pos htag], Nat.zero_le 1, fun _ => nofun, hfits⟩
  · exact ⟨n, rest, by rw [ofSearched, if_neg htag, hword], hlength, hfirst, hfits⟩

end Needle

end ChannelSearch
