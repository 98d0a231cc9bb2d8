import ChannelSearch.Proofs.QuotePairs
import ChannelSearch.Tokens
import Mathlib.Data.List.Induction

/-!
Escaped texts: every wildcard stands right after an escape mark, and there are no other escape marks.
Escaping goes through the cuts that make tokens, so every token is the escaped form of a plain one.
-/

namespace ChannelSearch

/-- A percent sign or an underscore. -/
def isWildcard (c : Char) : Bool := c = '%' || c = '_'

namespace Text

def guardedLetter (e c : Char) : Text := if isWildcard c then [e, c] else [c]

/-- Every wildcard after an escape mark. -/
def guarded (e : Char) (s : Text) : Text := s.flatMap (guardedLetter e)

/-- A text without its escape marks: what the text stands for. -/
def literal (e : Char) (t : Text) : Text := t.filter (· ≠ e)

variable {e : Char}

@[simp] theorem guarded_nil : guarded e [] = [] := rfl

@[simp] theorem guarded_append (a b : Text) : guarded e (a ++ b) = guarded e a ++ guarded e b :=
  List.flatMap_append

theorem guarded_cons (c : Char) (s : Text) : guarded e (c :: s) = guardedLetter e c ++ guarded e s :=
  rfl

theorem guarded_cons_plain {c : Char} (hc : isWildcard c = false) (s : Text) :
    guarded e (c :: s) = c :: guarded e s := by
  simp [guarded_cons, guardedLetter, hc]

theorem guarded_cons_wildcard {c : Char} (hc : isWildcard c = true) (s : Text) :
    guarded e (c :: s) = e :: c :: guarded e s := by
  simp [guarded_cons, guardedLetter, hc]

theorem guarded_cons_ne_nil (e c : Char) (s : Text) : guarded e (c :: s) ≠ [] := by
  by_cases hc : isWildcard c = true
  · simp [guarded_cons_wildcard hc]
  · simp [guarded_cons_plain (by simpa using hc : isWildcard c = false)]

theorem mem_guarded {s : Text} {c : Char} (hc : c ≠ e) : c ∈ guarded e s ↔ c ∈ s := by
  induction s with
  | nil => simp
  | cons d s ih =>
    by_cases hd : isWildcard d = true
    · simp [guarded_cons_wildcard hd, ih, hc]
    · simp [guarded_cons_plain (by simpa using hd), ih]

theorem count_guarded {c : Char} (hc : c ≠ e) (s : Text) : (guarded e s).count c = s.count c := by
  induction s with
  | nil => rfl
  | cons d s ih =>
    by_cases hd : isWildcard d = true
    · rw [guarded_cons_wildcard hd, List.count_cons_of_ne (Ne.symm hc), List.count_cons,
        List.count_cons, ih]
    · rw [guarded_cons_plain (by simpa using hd), List.count_cons, List.count_cons, ih]

theorem mem_literal {t : Text} {c : Char} : c ∈ literal e t ↔ c ∈ t ∧ c ≠ e := by simp [literal]

@[simp] theorem literal_append (a b : Text) : literal e (a ++ b) = literal e a ++ literal e b :=
  List.filter_append a b

theorem erase_singleton (t : Text) (e : Char) : erase t [e] = literal e t := by
  induction t with
  | nil => rw [erase]; rfl
  | cons c rest ih =>
    rw [erase]
    by_cases hc : c = e
    · have hstart : [e] ≠ [] ∧ [e].isPrefixOf (c :: rest) = true := by simp [hc]
      rw [if_pos hstart]
      simpa [literal, hc] using ih
    · have hstart : ¬ ([e] ≠ [] ∧ [e].isPrefixOf (c :: rest) = true) := by simp [Ne.symm hc]
      rw [if_neg hstart, ih]
      simp [literal, hc]

theorem guardMark_guardMark (he : isWildcard e = false) (s : Text) :
    guardMark (guardMark s '%' [e]) '_' [e] = guarded e s := by
  have hune : e ≠ '_' := by rintro rfl; exact absurd he (by decide)
  unfold guardMark guarded
  rw [List.flatMap_assoc]
  congr 1
  funext c
  by_cases hp : c = '%'
  · subst hp
    simp [guardedLetter, isWildcard, hune]
  · by_cases hu : c = '_'
    · subst hu
      simp [guardedLetter, isWildcard]
    · simp [guardedLetter, isWildcard, hp, hu]

end Text

open Text

/-- Escaping deletes the escape marks of a text and guards its wildcards. -/
theorem escapeWildcards_eq {e : Char} (he : isWildcard e = false) (t : Text) :
    escapeWildcards t [e] = guarded e (literal e t) := by
  rw [escapeWildcards, erase_singleton, guardMark_guardMark he]

namespace Text

variable {e : Char}

/-- An escape mark that no cut of a text looks for. -/
structure IsMark (e : Char) : Prop where
  visible : isBlank e = false
  notQuote : e ≠ '"'

theorem isMark_messageEscape : IsMark Tokens.messageEscape := ⟨by decide, by decide⟩

theorem visible_of_isWildcard {c : Char} (h : isWildcard c = true) : isBlank c = false := by
  simp only [isWildcard, Bool.or_eq_true, decide_eq_true_eq] at h
  rcases h with rfl | rfl <;> rfl

theorem isBlankText_guarded (he : IsMark e) (s : Text) :
    isBlankText (guarded e s) = isBlankText s := by
  unfold isBlankText
  induction s with
  | nil => rfl
  | cons c s ih =>
    by_cases hc : isWildcard c = true
    · rw [guarded_cons_wildcard hc]
      simp [he.visible, visible_of_isWildcard hc]
    · rw [guarded_cons_plain (by simpa using hc), List.all_cons, List.all_cons, ih]

theorem words_guarded (he : IsMark e) (s : Text) : words (guarded e s) = (words s).map (guarded e) := by
  refine words_flatMap ?_ ?_ s
  · intro c hc
    have hw : isWildcard c = false := by
      by_contra h
      rw [visible_of_isWildcard (by simpa using h)] at hc
      exact Bool.false_ne_true hc
    simp [guardedLetter, hw]
  · intro c hc
    by_cases hw : isWildcard c = true
    · simp [guardedLetter, hw, he.visible, hc]
    · simp [guardedLetter, hw, hc]

theorem guarded_inQuotes (body : Text) :
    guarded e (inQuotes body) = inQuotes (guarded e body) := by
  have hq : isWildcard '"' = false := by decide
  simp [inQuotes, guarded_cons_plain hq]

theorem guarded_singleton_plain {c : Char} (hc : isWildcard c = false) : guarded e [c] = [c] :=
  guarded_cons_plain hc []

theorem head?_guarded {c : Char} (hc : isWildcard c = false) (hce : c ≠ e) (s : Text) :
    (guarded e s).head? = some c ↔ s.head? = some c := by
  cases s with
  | nil => rfl
  | cons d s =>
    by_cases hd : isWildcard d = true
    · rw [guarded_cons_wildcard hd]
      simp only [List.head?_cons, Option.some.injEq]
      constructor
      · exact fun h => absurd h.symm hce
      · rintro rfl
        rw [hd] at hc
        cases hc
    · rw [guarded_cons_plain (by simpa using hd)]
      rfl

theorem getLast?_guarded (s : Text) : (guarded e s).getLast? = s.getLast? := by
  induction s using List.reverseRecOn with
  | nil => rfl
  | append_singleton s c _ =>
    by_cases hc : isWildcard c = true
    · simp [guarded_cons_wildcard hc]
    · simp [guarded_singleton_plain (by simpa using hc : isWildcard c = false)]

theorem dropLast_guarded {s : Text} (h : s.getLast? = some '*') :
    (guarded e s).dropLast = guarded e s.dropLast := by
  obtain ⟨s, rfl⟩ := List.getLast?_eq_some_iff.mp h
  have hstar : isWildcard '*' = false := by decide
  rw [guarded_append, guarded_singleton_plain hstar, List.dropLast_concat, List.dropLast_concat]

theorem dropLeading_guarded {c : Char} (hc : isWildcard c = false) (hce : c ≠ e) (s : Text) :
    (guarded e s).dropLeading c = guarded e (s.dropLeading c) := by
  cases s with
  | nil => rfl
  | cons d s =>
    by_cases hd : isWildcard d = true
    · have hdc : d ≠ c := by
        rintro rfl
        rw [hd] at hc
        cases hc
      rw [guarded_cons_wildcard hd, dropLeading, if_neg (Ne.symm hce), dropLeading, if_neg hdc,
        guarded_cons_wildcard hd]
    · have hplain : isWildcard d = false := by simpa using hd
      rw [guarded_cons_plain hplain, dropLeading, dropLeading]
      split_ifs
      · rfl
      · rw [guarded_cons_plain hplain]

theorem guarded_phraseIn (he : IsMark e) (body : Text) :
    phraseIn (guarded e body) = (phraseIn body).map (guarded e) := by
  unfold phraseIn
  rw [isBlankText_guarded he]
  split_ifs
  · rfl
  · simp [guarded_inQuotes]

/-- Phrases are found in an escaped text where they are found in the plain one. -/
theorem extractPhrases_guarded (he : IsMark e) (s : Text) :
    extractPhrases (guarded e s) =
      ((extractPhrases s).1.map (guarded e), guarded e (extractPhrases s).2) := by
  have hplain {w : Text} (hw : '"' ∉ w) : '"' ∉ guarded e w := by
    rwa [mem_guarded he.notQuote.symm]
  have hq : isWildcard '"' = false := by decide
  have hspace : isWildcard ' ' = false := by decide
  induction s using phraseInduction with
  | plain w hw => rw [extractPhrases_of_plain (hplain hw), extractPhrases_of_plain hw]; rfl
  | lone w rest hw hrest =>
    rw [guarded_append, guarded_cons_plain hq, extractPhrases_append_of_plain (hplain hw),
      extractPhrases_lone_quote (hplain hrest), extractPhrases_append_of_plain hw,
      extractPhrases_lone_quote hrest]
    simp [guarded_cons_plain hq]
  | pair w body after hw hbody ih =>
    rw [guarded_append, guarded_append, guarded_inQuotes, extractPhrases_append_of_plain (hplain hw),
      extractPhrases_pair (hplain hbody), ih, extractPhrases_append_of_plain hw,
      extractPhrases_pair hbody, guarded_phraseIn he]
    simp [guarded_cons_plain hspace]

end Text

end ChannelSearch
