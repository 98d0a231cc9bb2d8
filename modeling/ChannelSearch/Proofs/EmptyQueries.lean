import ChannelSearch.Proofs.SearchBoxContents

/-!
The search box texts that ask for nothing. Main statement: they are the ones that hold only white space
and double quotes.
-/

namespace ChannelSearch.SearchBox

open Text

/-- White space or a double quote. -/
def SaysNothing (c : Char) : Prop := isBlank c = true ∨ c = '"'

section Pieces

theorem forall_mem_trim {p : Char → Bool} {t : Text} {q : Char → Prop} (hp : ∀ c, p c = true → q c) :
    (∀ c ∈ t.trim p, q c) ↔ ∀ c ∈ t, q c := by
  obtain ⟨before, after, hsplit, hbefore, hafter⟩ := exists_around_trim p t
  constructor
  · intro h c hc
    rw [hsplit, List.mem_append, List.mem_append] at hc
    rcases hc with hc | hc | hc
    · exact hp c (hbefore c hc)
    · exact h c hc
    · exact hp c (hafter c hc)
  · exact fun h c hc => h c (trim_subset p t hc)

/-- A piece that has only quotes and white space starts with a quote. -/
theorem Token.WellFormed.head_of_saysNothing {token : Token} (hwf : token.WellFormed)
    (h : ∀ c ∈ token.text, SaysNothing c) : ∃ rest, token.text = '"' :: rest := by
  obtain ⟨c, hc, hvisible⟩ := hwf.isSolid_text.head
  obtain ⟨rest, htext⟩ := List.head?_eq_some_iff.mp hc
  have hquote : c = '"' := by
    apply (h c (List.mem_of_mem_head? hc)).resolve_left
    simp [hvisible]
  rw [hquote] at htext
  exact ⟨rest, htext⟩

/-- A piece is a blank word when it has nothing but quotes and white space. -/
theorem isBlankWord_iff {token : Token} (hwf : token.WellFormed) :
    isBlankWord token.text = true ↔ ∀ c ∈ token.text, SaysNothing c := by
  have hquote : ∀ c, decide (c = '"') = true → SaysNothing c := fun c hc => Or.inr (of_decide_eq_true hc)
  rw [isBlankWord, isBlankText, List.all_eq_true]
  refine ⟨fun h => (forall_mem_trim hquote).mp fun c hc => Or.inl (h c hc), fun h => ?_⟩
  cases token with
  | phrase negated body =>
    cases negated with
    | true =>
      obtain ⟨rest, htext⟩ := hwf.head_of_saysNothing h
      exact absurd (List.cons.inj htext).1 (by decide)
    | false =>
      show ∀ c ∈ (inQuotes body).trim (· = '"'), isBlank c = true
      rw [trim_inQuotes hwf]
      intro c hc
      refine (h c (List.mem_cons_of_mem _ (List.mem_append_left _ hc))).resolve_right ?_
      rintro rfl
      exact hwf hc
  | word w =>
    have hquotes : ∀ c ∈ w, decide (c = '"') = true := by
      intro c hc
      refine decide_eq_true ((h c hc).resolve_left ?_)
      rw [hwf.2 c hc]
      exact Bool.false_ne_true
    have hnone : w.trim (· = '"') = [] := by
      rw [trim, List.dropWhile_eq_nil_iff.mpr hquotes]
      rfl
    show ∀ c ∈ w.trim (· = '"'), isBlank c = true
    simp [hnone]

end Pieces

section Sorted

theorem isEmpty_setFlag (c : Contents) {token value : Text} {flag : Flag}
    (h : flagOf? token = some (flag, value)) :
    Contents.isEmpty { c with filters := setFlag c.filters flag value } = false := by
  have hvalue := value_ne_nil_of_flagOf? h
  cases flag <;> simp [Contents.isEmpty, setFlag, SearchRequest.hasFilters, hvalue]

theorem Contents.add_of_saysNothing (c : Contents) {token : Token} (hwf : token.WellFormed)
    (h : ∀ d ∈ token.text, SaysNothing d) : c.add token.text = c := by
  have hblank := (isBlankWord_iff hwf).mpr h
  obtain ⟨rest, htext⟩ := hwf.head_of_saysNothing h
  rw [htext] at hblank ⊢
  exact if_pos hblank

theorem Contents.isEmpty_add_of_visible (c : Contents) {t : Text} (h : isBlankWord t = false) :
    (c.add t).isEmpty = false := by
  unfold add
  split
  · next hflag => exact isEmpty_setFlag c hflag
  · split
    · simp [isEmpty]
    · simp [isEmpty]
    · simp [h, isEmpty]

/-- Pieces leave nothing to search for when none of them says anything. -/
theorem Contents.isEmpty_ofTokens {tokens : List Token} (hwf : ∀ token ∈ tokens, token.WellFormed) :
    (ofTokens tokens).isEmpty = true ↔ ∀ token ∈ tokens, ∀ d ∈ token.text, SaysNothing d := by
  have hrun (c : Contents) :
      (tokens.foldl (fun c token => c.add token.text) c).isEmpty = true ↔
        c.isEmpty = true ∧ ∀ token ∈ tokens, ∀ d ∈ token.text, SaysNothing d := by
    induction tokens generalizing c with
    | nil => simp
    | cons token tokens ih =>
      obtain ⟨htoken, htokens⟩ := List.forall_mem_cons.mp hwf
      rw [List.foldl_cons, ih htokens, List.forall_mem_cons]
      by_cases hsilent : ∀ d ∈ token.text, SaysNothing d
      · rw [c.add_of_saysNothing htoken hsilent]
        exact and_congr_right fun _ => (and_iff_right hsilent).symm
      · have hvisible : isBlankWord token.text = false := by
          rw [← Bool.not_eq_true, isBlankWord_iff htoken]
          exact hsilent
        rw [c.isEmpty_add_of_visible hvisible]
        exact iff_of_false (fun h => Bool.false_ne_true h.1) fun h => hsilent h.2.1
  exact (hrun {}).trans (and_iff_right rfl)

/-- A search box text makes no request when it holds only white space and double quotes. -/
theorem parse_eq_nil_iff (t : Text) (offset : Int) :
    parse t offset = [] ↔ ∀ c ∈ t, SaysNothing c := by
  have hstrip : (∀ c ∈ t.strip, SaysNothing c) ↔ ∀ c ∈ t, SaysNothing c :=
    forall_mem_trim fun c hc => Or.inl hc
  have hspaced := spaced_lex t.strip
  rw [parse, Contents.requests_eq_nil_iff, Contents.ofText,
    Contents.isEmpty_ofTokens fun token h => wellFormed_of_mem_lex h, ← hstrip]
  refine ⟨fun h c hc => ?_, fun h token htoken c hc => h c (hspaced.mem_of_mem htoken hc)⟩
  rcases hspaced.mem hc with hblank | ⟨token, htoken, hmem⟩
  · exact Or.inl hblank
  · exact h token htoken c hmem

end Sorted

end ChannelSearch.SearchBox
