import ChannelSearch.Proofs.Escaping
import ChannelSearch.Proofs.LowerCase

/-!
The text that tokens are cut from: lower case, escaped. It is made piece by piece, so the phrases and
words of a joined text are those of its parts, where the quotes of the earlier parts pair up.
-/

namespace ChannelSearch

open Text

namespace Tokens

/-- A text in lower case with its wildcards escaped, as tokens are cut from it. -/
def prepare (t : Text) : Text := escapeWildcards t.lower [messageEscape]

theorem prepare_eq (t : Text) : prepare t = guarded messageEscape (literal messageEscape t.lower) :=
  escapeWildcards_eq (by decide) t.lower

@[simp] theorem prepare_nil : prepare [] = [] := by
  rw [prepare_eq]
  rfl

/-- The text is prepared piece by piece at white space or a quote. -/
theorem prepare_append_cons {s : Char} (hs : isBlank s = true ∨ s = '"') (a b : Text) :
    prepare (a ++ s :: b) = prepare a ++ s :: prepare b := by
  have hbreak : BreaksWords s := by
    rcases hs with hblank | rfl
    · exact breaksWords_of_isBlank hblank
    · exact breaksWords_quote
  have hplain : isWildcard s = false := by
    by_contra hw
    have hvisible := visible_of_isWildcard (by simpa using hw : isWildcard s = true)
    rcases hs with hblank | rfl
    · rw [hblank] at hvisible
      cases hvisible
    · exact hw rfl
  have hmark : s ≠ messageEscape := by
    rintro rfl
    rcases hs with hblank | hquote
    · cases hblank
    · exact absurd hquote (by decide)
  rw [prepare_eq, prepare_eq, prepare_eq, lower_append_cons hbreak, literal_append, guarded_append]
  congr 1
  rw [← guarded_cons_plain hplain]
  congr 1
  simp [literal, hmark]

theorem prepare_inQuotes (body : Text) : prepare (inQuotes body) = inQuotes (prepare body) := by
  have hopen := prepare_append_cons (s := '"') (Or.inr rfl) [] (body ++ ['"'])
  have hclose := prepare_append_cons (s := '"') (Or.inr rfl) body []
  rw [List.nil_append, prepare_nil, List.nil_append] at hopen
  rw [prepare_nil] at hclose
  rw [inQuotes, inQuotes, hopen, hclose]

/-- A character that is no letter, wildcard or escape mark stays, and none is made. -/
theorem mem_prepare {t : Text} {x : Char} (hletter : isLetterLike x = false)
    (hx : x ≠ messageEscape) : x ∈ prepare t ↔ x ∈ t := by
  rw [prepare_eq, mem_guarded hx, mem_literal]
  constructor
  · rintro ⟨hmem, -⟩
    obtain ⟨c, hc, hlower⟩ := mem_lowerAfter hmem
    exact (hlower.eq_iff hletter).mp rfl ▸ hc
  · intro hmem
    obtain ⟨d, hd, hlower⟩ := exists_mem_lowerAfter false hmem
    exact ⟨(hlower.eq_iff hletter).mpr rfl ▸ hd, hx⟩

theorem quote_mem_prepare {t : Text} : '"' ∈ prepare t ↔ '"' ∈ t :=
  mem_prepare (by decide) (by decide)

/-- What is visible in a text, escape marks aside, stays visible. -/
theorem exists_visible_prepare {t : Text} {c : Char} (hc : c ∈ t) (hmark : c ≠ messageEscape)
    (hblank : isBlank c = false) : ∃ d ∈ prepare t, isBlank d = false := by
  obtain ⟨d, hd, hlower⟩ := exists_mem_lowerAfter false hc
  have hdmark : d ≠ messageEscape := fun h => hmark ((hlower.eq_iff (by decide)).mp h)
  refine ⟨d, ?_, hlower.isBlank_eq.trans hblank⟩
  rw [prepare_eq, mem_guarded hdmark, mem_literal]
  exact ⟨hd, hdmark⟩

theorem visible_prepare {t : Text} (h : ∀ c ∈ t, isBlank c = false) :
    ∀ d ∈ prepare t, isBlank d = false := by
  intro d hd
  by_cases hmark : d = messageEscape
  · exact hmark ▸ rfl
  · rw [prepare_eq, mem_guarded hmark, mem_literal] at hd
    obtain ⟨c, hc, hlower⟩ := mem_lowerAfter hd.1
    exact hlower.isBlank_eq.trans (h c hc)

theorem count_quote_lowerAfter (t : Text) (before : Bool) :
    (lowerAfter before t).count '"' = t.count '"' := by
  induction t generalizing before with
  | nil => rfl
  | cons c rest ih =>
    obtain ⟨form, next, hform, heq⟩ := exists_lowerAfter_cons before c rest
    rw [heq, List.count_append, ih, List.count_cons, Nat.add_comm]
    congr 1
    by_cases hc : c = '"'
    · subst hc
      rw [hform.of_notLetter (by decide)]
      rfl
    · have hbeq : ¬ (c == '"') = true := by simpa using hc
      rw [if_neg hbeq, List.count_eq_zero]
      exact fun hmem => hc (((hform.letters _ hmem).eq_iff (by decide)).mp rfl)

theorem count_quote_prepare (t : Text) : (prepare t).count '"' = t.count '"' := by
  rw [prepare_eq, count_guarded (by decide), literal, List.count_filter (by decide)]
  exact count_quote_lowerAfter t false

theorem pairsUp_prepare {t : Text} : PairsUp (prepare t) ↔ PairsUp t := by
  rw [PairsUp, PairsUp, count_quote_prepare]

/-- The phrases read from texts with spaces between them. -/
def phrasesOf (ts : List Text) : List Text := (extractPhrases (prepare (join [' '] ts))).1

/-- The words read from texts with spaces between them, phrases aside. -/
def wordsOf (ts : List Text) : List Text := (extractPhrases (prepare (join [' '] ts))).2.words

@[simp] theorem phrasesOf_nil : phrasesOf [] = [] := by simp [phrasesOf]

@[simp] theorem wordsOf_nil : wordsOf [] = [] := by simp [wordsOf]

theorem count_quote_join (ts : List Text) : (join [' '] ts).count '"' = ts.flatten.count '"' := by
  induction ts with
  | nil => rfl
  | cons t ts ih =>
    by_cases hts : ts = []
    · simp [hts]
    · rw [join_cons hts, List.count_append, List.count_append, ih, List.flatten_cons,
        List.count_append]
      simp

theorem pairsUp_join {ts : List Text} : PairsUp (join [' '] ts) ↔ PairsUp ts.flatten := by
  rw [PairsUp, PairsUp, count_quote_join]

/-- Where the quotes of the first texts pair up, the others are read on their own. -/
theorem read_append {ts : List Text} (us : List Text) (h : PairsUp ts.flatten) :
    phrasesOf (ts ++ us) = phrasesOf ts ++ phrasesOf us ∧
      wordsOf (ts ++ us) = wordsOf ts ++ wordsOf us := by
  by_cases ht : ts = []
  · simp [ht]
  by_cases hu : us = []
  · simp [hu]
  have hpair : PairsUp (prepare (join [' '] ts)) := pairsUp_prepare.mpr (pairsUp_join.mpr h)
  have hsplit : prepare (join [' '] (ts ++ us)) =
      prepare (join [' '] ts) ++ ([' '] ++ prepare (join [' '] us)) := by
    rw [join_append ht hu, List.append_assoc]
    exact prepare_append_cons (Or.inl rfl) _ _
  unfold phrasesOf wordsOf
  rw [hsplit, extractPhrases_append hpair, extractPhrases_append_of_plain (by decide)]
  exact ⟨rfl, words_append_blank (by decide) _ _⟩

/-- Texts without quotes are read on their own, also after an open quote. -/
theorem read_append_plain {ts us : List Text} (h : '"' ∉ us.flatten) :
    phrasesOf (ts ++ us) = phrasesOf ts ++ phrasesOf us ∧
      wordsOf (ts ++ us) = wordsOf ts ++ wordsOf us := by
  by_cases ht : ts = []
  · simp [ht]
  by_cases hu : us = []
  · simp [hu]
  have hplain : '"' ∉ prepare (join [' '] us) := by
    rw [quote_mem_prepare, ← List.count_eq_zero, count_quote_join, List.count_eq_zero]
    exact h
  have hsplit : prepare (join [' '] (ts ++ us)) =
      prepare (join [' '] ts) ++ ' ' :: prepare (join [' '] us) := by
    rw [join_append ht hu, List.append_assoc]
    exact prepare_append_cons (Or.inl rfl) _ _
  have hlater : '"' ∉ ' ' :: prepare (join [' '] us) := by simp [hplain]
  unfold phrasesOf wordsOf
  rw [hsplit, extractPhrases_append_plain _ hlater, extractPhrases_of_plain hplain]
  exact ⟨(List.append_nil _).symm, words_append_blank (by decide) _ _⟩

/-- A quoted body is one phrase, unless it is blank, and no word. -/
theorem read_inQuotes {body : Text} (hbody : '"' ∉ body) :
    phrasesOf [inQuotes body] = phraseIn (prepare body) ∧ wordsOf [inQuotes body] = [] := by
  have hplain : '"' ∉ prepare body := fun h => hbody (quote_mem_prepare.mp h)
  have hread := extractPhrases_pair hplain []
  rw [List.append_nil, extractPhrases_nil] at hread
  unfold phrasesOf wordsOf
  rw [join_singleton, prepare_inQuotes, hread]
  exact ⟨List.append_nil _, words_append_blank (by decide) [] []⟩

/-- A quoted body with something visible in it, escape marks aside, is one phrase. -/
theorem read_phrase {body : Text} (hbody : '"' ∉ body)
    (hvisible : ∃ c ∈ body, isBlank c = false ∧ c ≠ messageEscape) :
    phrasesOf [inQuotes body] = [prepare (inQuotes body)] ∧ wordsOf [inQuotes body] = [] := by
  obtain ⟨c, hc, hblank, hmark⟩ := hvisible
  obtain ⟨d, hd, hdblank⟩ := exists_visible_prepare hc hmark hblank
  have hnot : isBlankText (prepare body) = false := by
    rw [isBlankText, List.all_eq_false]
    exact ⟨d, hd, by simp [hdblank]⟩
  obtain ⟨hphrase, hword⟩ := read_inQuotes hbody
  rw [hphrase, hword, phraseIn, hnot, prepare_inQuotes]
  exact ⟨rfl, rfl⟩

/-- A word with at most one quote is one word, unless it is made of escape marks. -/
theorem read_word {w : Text} (hquote : w.count '"' ≤ 1) (hword : ∀ c ∈ w, isBlank c = false)
    (hmark : ∃ c ∈ w, c ≠ messageEscape) :
    phrasesOf [w] = [] ∧ wordsOf [w] = [prepare w] := by
  obtain ⟨c, hc, hcmark⟩ := hmark
  obtain ⟨d, hd, -⟩ := exists_visible_prepare hc hcmark (hword c hc)
  unfold phrasesOf wordsOf
  rw [join_singleton, extractPhrases_of_count (by rwa [count_quote_prepare])]
  exact ⟨rfl, words_of_visible (List.ne_nil_of_mem hd) (visible_prepare hword)⟩

end Tokens

end ChannelSearch
