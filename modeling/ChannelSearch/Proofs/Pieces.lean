import ChannelSearch.Proofs.QuotePairs
import ChannelSearch.SearchBox.Contents
import Mathlib.Data.List.TakeWhile

/-!
How a search box text is cut into pieces. Main statement: a text is its pieces with white space around
them, and every text that is the same pieces with other white space around them is cut in the same way
and makes the same requests.
-/

namespace ChannelSearch.SearchBox

open Text

/-- A phrase has no quote inside, a word no white space. -/
def Token.WellFormed : Token → Prop
  | .phrase _ body => '"' ∉ body
  | .word w => w ≠ [] ∧ ∀ c ∈ w, isBlank c = false

section Reading

theorem phraseAt?_phrase {body : Text} (h : '"' ∉ body) (negated : Bool) (rest : Text) :
    phraseAt? ((Token.phrase negated body).text ++ rest) = some (.phrase negated body, rest) := by
  have hclose : closePhrase? (body ++ ['"'] ++ rest) = some (body, rest) := by
    rw [List.append_assoc, List.singleton_append]
    exact closePhrase?_append_quote h rest
  cases negated
  · exact congrArg (Option.map _) hclose
  · exact congrArg (Option.map _) hclose

theorem eq_phrase_of_phraseAt? {t after : Text} {token : Token}
    (h : phraseAt? t = some (token, after)) :
    ∃ negated body, token = .phrase negated body ∧ '"' ∉ body ∧ t = token.text ++ after := by
  unfold phraseAt? at h
  split at h
  · obtain ⟨⟨body, rest⟩, hclose, heq⟩ := Option.map_eq_some_iff.mp h
    obtain ⟨rfl, rfl⟩ := Prod.mk.inj heq
    obtain ⟨hbody, rfl⟩ := eq_of_closePhrase? hclose
    exact ⟨false, body, rfl, hbody, by simp [Token.text, inQuotes]⟩
  · obtain ⟨⟨body, rest⟩, hclose, heq⟩ := Option.map_eq_some_iff.mp h
    obtain ⟨rfl, rfl⟩ := Prod.mk.inj heq
    obtain ⟨hbody, rfl⟩ := eq_of_closePhrase? hclose
    exact ⟨true, body, rfl, hbody, by simp [Token.text, inQuotes]⟩
  · cases h

/-- No phrase starts where the quote that would open it is not closed. -/
theorem phraseAt?_eq_none_iff {t : Text} :
    phraseAt? t = none ↔ ∀ rest, t = '"' :: rest ∨ t = '-' :: '"' :: rest → '"' ∉ rest := by
  unfold phraseAt?
  split
  · simp [closePhrase?_eq_none_iff]
  · simp [closePhrase?_eq_none_iff]
  · next hquote hdash =>
    refine iff_of_true rfl fun rest h => ?_
    exact h.elim (fun h => absurd h (hquote rest)) fun h => absurd h (hdash rest)

/-- Before white space, what a word starts with decides where a phrase would be opened. -/
theorem phraseAt?_word_eq_none_iff {w rest : Text} (hne : w ≠ [])
    (hrest : ∀ c, rest.head? = some c → isBlank c = true) :
    phraseAt? (w ++ rest) = none ↔
      ∀ tail, w = '"' :: tail ∨ w = '-' :: '"' :: tail → '"' ∉ tail ++ rest := by
  rw [phraseAt?_eq_none_iff]
  constructor
  · rintro h tail (rfl | rfl)
    · exact h (tail ++ rest) (Or.inl rfl)
    · exact h (tail ++ rest) (Or.inr rfl)
  · intro h after hafter
    match w with
    | [] => exact absurd rfl hne
    | [c] =>
      rcases hafter with heq | heq
      · obtain ⟨rfl, rfl⟩ := List.cons.inj heq
        exact h [] (Or.inl rfl)
      · have hhead : rest = '"' :: after := (List.cons.inj heq).2
        exact absurd (hrest '"' (by rw [hhead]; rfl)) (by decide)
    | c :: d :: w =>
      rcases hafter with heq | heq
      · obtain ⟨rfl, rfl⟩ := List.cons.inj heq
        exact h (d :: w) (Or.inl rfl)
      · have htail : d :: (w ++ rest) = '"' :: after := (List.cons.inj heq).2
        obtain ⟨hc, -⟩ := List.cons.inj heq
        obtain ⟨rfl, rfl⟩ := List.cons.inj htail
        exact h w (Or.inr (by rw [hc]))

/-- A word that starts no phrase before one text starts none before another, where a quote comes only if
it does in the one. -/
theorem phraseAt?_word_congr {w rest after : Text} (h : phraseAt? (w ++ after) = none) (hne : w ≠ [])
    (hafter : ∀ c, after.head? = some c → isBlank c = true)
    (hrest : ∀ c, rest.head? = some c → isBlank c = true) (hquote : '"' ∈ rest → '"' ∈ after) :
    phraseAt? (w ++ rest) = none := by
  rw [phraseAt?_word_eq_none_iff hne hafter] at h
  rw [phraseAt?_word_eq_none_iff hne hrest]
  intro tail htail hmem
  refine h tail htail ?_
  rw [List.mem_append] at hmem ⊢
  exact hmem.imp_right hquote

theorem phraseAt?_of_plain {w rest : Text} (hne : w ≠ []) (hplain : '"' ∉ w)
    (hrest : ∀ c, rest.head? = some c → isBlank c = true) : phraseAt? (w ++ rest) = none := by
  rw [phraseAt?_word_eq_none_iff hne hrest]
  rintro tail (rfl | rfl) <;> simp at hplain

@[simp] theorem lex_nil : lex [] = [] := by
  rw [lex]
  rfl

theorem lex_blank {c : Char} (hc : isBlank c = true) (rest : Text) : lex (c :: rest) = lex rest := by
  have hphrase : phraseAt? (c :: rest) = none := by
    rw [phraseAt?_eq_none_iff]
    rintro tail (heq | heq)
    · exact absurd ((List.cons.inj heq).1 ▸ hc) (by decide)
    · exact absurd ((List.cons.inj heq).1 ▸ hc) (by decide)
  rw [lex]
  split
  · next h => rw [hphrase] at h; cases h
  · exact if_pos hc

theorem lex_gap_append {gap : Text} (hgap : isBlankText gap = true) (rest : Text) :
    lex (gap ++ rest) = lex rest := by
  induction gap with
  | nil => rfl
  | cons c gap ih =>
    obtain ⟨hc, hgap⟩ := List.forall_mem_cons.mp (List.all_eq_true.mp hgap)
    rw [List.cons_append, lex_blank hc, ih (List.all_eq_true.mpr hgap)]

/-- A phrase is read as it is, whatever follows it. -/
theorem lex_phrase_append {body : Text} (h : '"' ∉ body) (negated : Bool) (rest : Text) :
    lex ((Token.phrase negated body).text ++ rest) = .phrase negated body :: lex rest := by
  have hphrase := phraseAt?_phrase h negated rest
  rw [lex]
  split
  · next found after heq =>
    obtain ⟨rfl, rfl⟩ := Prod.mk.inj (Option.some.inj (hphrase.symm.trans heq))
    rfl
  · next heq => rw [hphrase] at heq; cases heq

/-- A word is read up to the next white space. -/
theorem lex_word_append {w rest : Text} (hne : w ≠ []) (hvisible : ∀ c ∈ w, isBlank c = false)
    (hrest : ∀ c, rest.head? = some c → isBlank c = true) (hphrase : phraseAt? (w ++ rest) = none) :
    lex (w ++ rest) = .word w :: lex rest := by
  obtain ⟨c, w, rfl⟩ := List.exists_cons_of_ne_nil hne
  obtain ⟨hc, hw⟩ := List.forall_mem_cons.mp hvisible
  have hvisible : ∀ d ∈ w, (!isBlank d) = true := fun d hd => by rw [hw d hd]; rfl
  have hstop : rest.takeWhile (fun d => !isBlank d) = [] ∧
      rest.dropWhile (fun d => !isBlank d) = rest := by
    cases rest with
    | nil => exact ⟨rfl, rfl⟩
    | cons d rest =>
      have hd : ¬ (!isBlank d) = true := by simp [hrest d rfl]
      exact ⟨List.takeWhile_cons_of_neg hd, List.dropWhile_cons_of_neg hd⟩
  rw [List.cons_append] at hphrase ⊢
  rw [lex]
  split
  · next heq => rw [hphrase] at heq; cases heq
  · dsimp only
    rw [if_neg (Bool.not_eq_true _ ▸ hc), List.takeWhile_append_of_pos hvisible,
      List.dropWhile_append_of_pos hvisible, hstop.1, hstop.2, List.append_nil]

/-- A word without quotes is read as it is. -/
theorem lex_plain_append {w rest : Text} (hne : w ≠ []) (hvisible : ∀ c ∈ w, isBlank c = false)
    (hplain : '"' ∉ w) (hrest : ∀ c, rest.head? = some c → isBlank c = true) :
    lex (w ++ rest) = .word w :: lex rest :=
  lex_word_append hne hvisible hrest (phraseAt?_of_plain hne hplain hrest)

theorem lex_word {t : Text} (hne : t ≠ []) (hvisible : ∀ c ∈ t, isBlank c = false)
    (hplain : '"' ∉ t) : lex t = [.word t] := by
  have hread : lex (t ++ []) = .word t :: lex [] := lex_plain_append hne hvisible hplain nofun
  rwa [List.append_nil, lex_nil] at hread

theorem visible_cons_takeWhile {c : Char} (hc : ¬ isBlank c = true) (rest : Text) :
    ∀ d ∈ c :: rest.takeWhile (fun d => !isBlank d), isBlank d = false :=
  List.forall_mem_cons.mpr ⟨by simpa using hc, fun d hd => by simpa using List.mem_takeWhile_imp hd⟩

theorem isBlank_of_head?_dropWhile {t : Text} {c : Char}
    (h : (t.dropWhile fun d => !isBlank d).head? = some c) : isBlank c = true := by
  simpa [h] using List.head?_dropWhile_not (fun d => !isBlank d) t

theorem wellFormed_of_mem_lex {t : Text} {token : Token} (h : token ∈ lex t) :
    token.WellFormed := by
  fun_induction lex t with
  | case1 t first after hphrase _ ih =>
    rcases List.mem_cons.mp h with rfl | h
    · obtain ⟨negated, body, rfl, hbody, -⟩ := eq_phrase_of_phraseAt? hphrase
      exact hbody
    · exact ih h
  | case2 => simp at h
  | case3 c rest _ hblank ih => exact ih h
  | case4 c rest _ hblank _ ih =>
    rcases List.mem_cons.mp h with rfl | h
    · exact ⟨List.cons_ne_nil _ _, visible_cons_takeWhile hblank rest⟩
    · exact ih h

end Reading

/-- A text is pieces in their order, with white space before, between and after them. White space may be
missing anywhere but behind a word. -/
inductive Spaced : List Token → Text → Prop
  | gap {gap : Text} (hgap : isBlankText gap = true) : Spaced [] gap
  | piece {gap rest : Text} {token : Token} {tokens : List Token} (hgap : isBlankText gap = true)
      (hword : ∀ w, token = .word w → ∀ c, rest.head? = some c → isBlank c = true)
      (hrest : Spaced tokens rest) : Spaced (token :: tokens) (gap ++ (token.text ++ rest))

namespace Spaced

variable {tokens : List Token} {t gap : Text} {c : Char}

theorem piece_append {token : Token} (h : Spaced tokens t)
    (hword : ∀ w, token = .word w → ∀ c, t.head? = some c → isBlank c = true) :
    Spaced (token :: tokens) (token.text ++ t) := by
  have hstart : isBlankText [] = true := rfl
  exact .piece hstart hword h

theorem gap_append (h : Spaced tokens t) (hgap : isBlankText gap = true) :
    Spaced tokens (gap ++ t) := by
  have hboth {start : Text} (hstart : isBlankText start = true) : isBlankText (gap ++ start) = true := by
    rw [isBlankText, List.all_append, Bool.and_eq_true]
    exact ⟨hgap, hstart⟩
  cases h with
  | gap hstart => exact .gap (hboth hstart)
  | piece hstart hword hrest =>
    rw [← List.append_assoc]
    exact .piece (hboth hstart) hword hrest

theorem cons_blank (h : Spaced tokens t) (hc : isBlank c = true) : Spaced tokens (c :: t) := by
  have hgap : isBlankText [c] = true := by simpa [isBlankText] using hc
  exact h.gap_append hgap

theorem append_gap (h : Spaced tokens t) (hgap : isBlankText gap = true) :
    Spaced tokens (t ++ gap) := by
  induction h with
  | gap hstart => exact (Spaced.gap hgap).gap_append hstart
  | @piece start rest token tokens hstart hword hrest ih =>
    rw [List.append_assoc, List.append_assoc]
    refine .piece hstart (fun w hw c hc => ?_) ih
    rw [List.head?_append] at hc
    cases hhead : rest.head? with
    | none =>
      rw [hhead, Option.none_or] at hc
      exact List.all_eq_true.mp hgap c (List.mem_of_mem_head? hc)
    | some d =>
      rw [hhead, Option.some_or] at hc
      exact hword w hw c (hhead.trans hc)

/-- Every visible character stands in a piece. -/
theorem mem (h : Spaced tokens t) (hc : c ∈ t) : isBlank c = true ∨ ∃ token ∈ tokens, c ∈ token.text := by
  induction h with
  | gap hgap => exact Or.inl (List.all_eq_true.mp hgap c hc)
  | @piece gap rest token tokens hgap _ _ ih =>
    rw [List.mem_append, List.mem_append] at hc
    rcases hc with hc | hc | hc
    · exact Or.inl (List.all_eq_true.mp hgap c hc)
    · exact Or.inr ⟨token, List.mem_cons_self, hc⟩
    · exact (ih hc).imp_right fun ⟨found, hfound, hmem⟩ => ⟨found, List.mem_cons_of_mem _ hfound, hmem⟩

theorem mem_of_mem (h : Spaced tokens t) {token : Token} (htoken : token ∈ tokens)
    (hc : c ∈ token.text) : c ∈ t := by
  induction h with
  | gap => cases htoken
  | piece _ _ _ ih =>
    rcases List.mem_cons.mp htoken with rfl | htoken
    · exact List.mem_append_right _ (List.mem_append_left _ hc)
    · exact List.mem_append_right _ (List.mem_append_right _ (ih htoken))

end Spaced

/-- Pieces with single spaces between them. -/
theorem spaced_join (tokens : List Token) : Spaced tokens (join [' '] (tokens.map Token.text)) := by
  induction tokens with
  | nil => exact .gap rfl
  | cons token tokens ih =>
    by_cases hlast : tokens = []
    · have hend : Spaced [token] (token.text ++ []) :=
        (Spaced.gap rfl).piece_append fun _ _ => nofun
      rw [hlast, List.map_singleton, join_singleton]
      rwa [List.append_nil] at hend
    · have hblank : isBlank ' ' = true := rfl
      rw [List.map_cons, join_cons (by simpa using hlast), List.append_assoc]
      apply (ih.cons_blank hblank).piece_append
      intro w _ c hc
      obtain rfl := Option.some.inj hc
      exact hblank

/-- A text is its pieces and white space. -/
theorem spaced_lex (t : Text) : Spaced (lex t) t := by
  fun_induction lex t with
  | case1 t first after hphrase _ ih =>
    obtain ⟨negated, body, rfl, -, rfl⟩ := eq_phrase_of_phraseAt? hphrase
    exact ih.piece_append nofun
  | case2 => exact .gap rfl
  | case3 c rest _ hblank ih => exact ih.cons_blank hblank
  | case4 c rest _ hblank _ ih =>
    have hsplit : c :: rest = (Token.word (c :: rest.takeWhile fun d => !isBlank d)).text ++
        rest.dropWhile fun d => !isBlank d := by
      rw [Token.text, List.cons_append, List.takeWhile_append_dropWhile]
    rw [hsplit]
    exact ih.piece_append fun _ _ _ => isBlank_of_head?_dropWhile

/-- A text is cut where another text with the same pieces is cut. The induction is on the cut of that
text: what is behind a word has a quote in the one text if it has in the other, so that the word does not
start a phrase in either. -/
theorem lex_of_spaced {t u : Text} (h : Spaced (lex t) u) : lex u = lex t := by
  fun_induction lex t generalizing u with
  | case1 t first after hphrase _ ih =>
    obtain ⟨negated, body, rfl, hbody, -⟩ := eq_phrase_of_phraseAt? hphrase
    cases h with
    | piece hgap _ hrest => rw [lex_gap_append hgap, lex_phrase_append hbody, ih hrest]
  | case2 =>
    cases h with
    | gap hgap => simpa using lex_gap_append hgap []
  | case3 c rest _ _ ih => exact ih h
  | case4 c rest hnone hblank _ ih =>
    cases h with
    | @piece gap after _ _ hgap hword hrest =>
      have hsplit : (c :: rest.takeWhile fun d => !isBlank d) ++ rest.dropWhile (fun d => !isBlank d) =
          c :: rest := by
        rw [List.cons_append, List.takeWhile_append_dropWhile]
      have hquote : '"' ∈ after → '"' ∈ rest.dropWhile fun d => !isBlank d := by
        intro hmem
        obtain ⟨token, htoken, hc⟩ := (hrest.mem hmem).resolve_left (by decide)
        exact (spaced_lex _).mem_of_mem htoken hc
      have hphrase := phraseAt?_word_congr (hsplit ▸ hnone) (List.cons_ne_nil _ _)
        (fun _ => isBlank_of_head?_dropWhile) (hword _ rfl) hquote
      rw [lex_gap_append hgap, Token.text, lex_word_append (List.cons_ne_nil _ _)
        (visible_cons_takeWhile hblank rest) (hword _ rfl) hphrase, ih hrest]

/-- The texts with the same pieces are those that differ in white space. -/
theorem spaced_lex_iff {t u : Text} : Spaced (lex t) u ↔ lex u = lex t :=
  ⟨lex_of_spaced, fun h => h ▸ spaced_lex u⟩

theorem lex_strip (t : Text) : lex t.strip = lex t := by
  apply apply_strip
  · exact fun c t hc => lex_blank hc t
  · intro c t hc
    have hgap : isBlankText [c] = true := by simpa [isBlankText] using hc
    exact lex_of_spaced ((spaced_lex t).append_gap hgap)

theorem parse_eq (t : Text) (offset : Int) :
    parse t offset = (Contents.ofTokens (lex t)).requests offset := by
  rw [parse, Contents.ofText, lex_strip]

/-- A text is its pieces in their order, with nothing but white space around them. Pieces with single
spaces between them are the same pieces again; and so they are with any other white space around them,
which makes the same requests. -/
theorem pieces_are_stable (t : Text) :
    Spaced (lex t) t ∧ lex (join [' '] ((lex t).map Token.text)) = lex t ∧
      (∀ u, Spaced (lex t) u ↔ lex u = lex t) ∧
      ∀ u offset, Spaced (lex t) u → parse u offset = parse t offset := by
  refine ⟨spaced_lex t, lex_of_spaced (spaced_join (lex t)), fun u => spaced_lex_iff, ?_⟩
  intro u offset hu
  rw [parse_eq, parse_eq, lex_of_spaced hu]

/-- Quotes inside words and quotes that are not closed, with other white space around the pieces. -/
theorem pieces_are_stable_quotes :
    let t := "a\"b \"c  d\"-\"e\"f \"g".toList
    let u := "\ta\"b\u3000\"c  d\" -\"e\"\nf\t \"g ".toList
    Spaced (lex t) u ∧ (lex u).length = 5 ∧ parse u 3600 = parse t 3600 := by
  have hpieces : lex "\ta\"b\u3000\"c  d\" -\"e\"\nf\t \"g ".toList =
      lex "a\"b \"c  d\"-\"e\"f \"g".toList := by
    decide +kernel
  obtain ⟨-, -, hspaced, hparse⟩ := pieces_are_stable "a\"b \"c  d\"-\"e\"f \"g".toList
  have hspaced := (hspaced _).mpr hpieces
  exact ⟨hspaced, by decide +kernel, hparse _ 3600 hspaced⟩

end ChannelSearch.SearchBox
