import ChannelSearch.Proofs.Words
import ChannelSearch.Text.Phrase
import Mathlib.Algebra.Group.Nat.Even
import Mathlib.Tactic.Common

/-!
Quotes are paired from the left. A part with an even number of quotes keeps its phrases and words
whatever follows it; a part without quotes after an open quote keeps its words.
-/

namespace ChannelSearch.Text

theorem closePhrase?_eq_none_iff {t : Text} : closePhrase? t = none ↔ '"' ∉ t := by
  induction t with
  | nil => simp [closePhrase?]
  | cons c rest ih =>
    unfold closePhrase?
    by_cases hc : c = '"'
    · simp [hc]
    · simp [hc, ih, Ne.symm hc]

theorem closePhrase?_append_quote {body : Text} (hbody : '"' ∉ body) (after : Text) :
    closePhrase? (body ++ '"' :: after) = some (body, after) := by
  induction body with
  | nil => simp [closePhrase?]
  | cons c body ih =>
    have hc : c ≠ '"' := fun h => hbody (h ▸ List.mem_cons_self)
    have htail := ih fun h => hbody (List.mem_cons_of_mem c h)
    rw [List.cons_append, closePhrase?, if_neg hc, htail]
    rfl

theorem eq_of_closePhrase? {t body after : Text} (h : closePhrase? t = some (body, after)) :
    '"' ∉ body ∧ t = body ++ '"' :: after := by
  induction t generalizing body with
  | nil => simp [closePhrase?] at h
  | cons c rest ih =>
    unfold closePhrase? at h
    split_ifs at h with hc
    · obtain ⟨rfl, rfl⟩ := Prod.mk.inj (Option.some.inj h)
      simp [hc]
    · obtain ⟨⟨b, a⟩, hrest, heq⟩ := Option.map_eq_some_iff.mp h
      obtain ⟨rfl, rfl⟩ := Prod.mk.inj heq
      obtain ⟨hb, rfl⟩ := ih hrest
      exact ⟨by simp [hb, Ne.symm hc], rfl⟩

@[simp] theorem extractPhrases_nil : extractPhrases [] = ([], []) := by rw [extractPhrases]

theorem extractPhrases_cons {c : Char} (hc : c ≠ '"') (rest : Text) :
    extractPhrases (c :: rest) = ((extractPhrases rest).1, c :: (extractPhrases rest).2) := by
  rw [extractPhrases, if_neg hc]

/-- A part without quotes stays in front of what is left. -/
theorem extractPhrases_append_of_plain {w : Text} (hw : '"' ∉ w) (rest : Text) :
    extractPhrases (w ++ rest) = ((extractPhrases rest).1, w ++ (extractPhrases rest).2) := by
  induction w with
  | nil => rfl
  | cons c w ih =>
    have hc : c ≠ '"' := fun h => hw (h ▸ List.mem_cons_self)
    rw [List.cons_append, extractPhrases_cons hc, ih fun h => hw (List.mem_cons_of_mem c h)]
    rfl

theorem extractPhrases_of_plain {w : Text} (hw : '"' ∉ w) : extractPhrases w = ([], w) := by
  simpa using extractPhrases_append_of_plain hw []

/-- A quote without a partner stays. -/
theorem extractPhrases_lone_quote {rest : Text} (hrest : '"' ∉ rest) :
    extractPhrases ('"' :: rest) = ([], '"' :: rest) := by
  rw [extractPhrases, if_pos rfl]
  split
  · next h => rw [closePhrase?_eq_none_iff.mpr hrest] at h; cases h
  · rw [extractPhrases_of_plain hrest]

theorem extractPhrases_of_count {t : Text} (h : t.count '"' ≤ 1) : extractPhrases t = ([], t) := by
  cases hopen : closePhrase? t with
  | none => exact extractPhrases_of_plain (closePhrase?_eq_none_iff.mp hopen)
  | some cut =>
    obtain ⟨w, rest⟩ := cut
    obtain ⟨hw, rfl⟩ := eq_of_closePhrase? hopen
    rw [List.count_append, List.count_cons_self] at h
    have hrest : '"' ∉ rest := List.count_eq_zero.mp (by omega)
    rw [extractPhrases_append_of_plain hw, extractPhrases_lone_quote hrest]

/-- The phrase with its quotes, unless it is blank. -/
def phraseIn (body : Text) : List Text := if isBlankText body then [] else [inQuotes body]

/-- A pair of quotes makes one phrase, and a space takes its place. -/
theorem extractPhrases_pair {body : Text} (hbody : '"' ∉ body) (after : Text) :
    extractPhrases (inQuotes body ++ after) =
      (phraseIn body ++ (extractPhrases after).1, ' ' :: (extractPhrases after).2) := by
  have hclose : closePhrase? (body ++ '"' :: after) = some (body, after) :=
    closePhrase?_append_quote hbody after
  have heq : inQuotes body ++ after = '"' :: (body ++ '"' :: after) := by simp [inQuotes]
  rw [heq, extractPhrases, if_pos rfl]
  split
  · next b a h =>
    obtain ⟨rfl, rfl⟩ := Prod.mk.inj (Option.some.inj (hclose.symm.trans h))
    unfold phraseIn
    split_ifs <;> rfl
  · next h => rw [hclose] at h; cases h

/-- A text is plain, or has one quote left over, or starts with a plain part and a quoted one. -/
@[elab_as_elim]
theorem phraseInduction {motive : Text → Prop} (plain : ∀ w, '"' ∉ w → motive w)
    (lone : ∀ w rest, '"' ∉ w → '"' ∉ rest → motive (w ++ '"' :: rest))
    (pair : ∀ w body after, '"' ∉ w → '"' ∉ body → motive after →
      motive (w ++ (inQuotes body ++ after))) (t : Text) : motive t := by
  cases hopen : closePhrase? t with
  | none => exact plain t (closePhrase?_eq_none_iff.mp hopen)
  | some cut =>
    obtain ⟨w, rest⟩ := cut
    obtain ⟨hw, rfl⟩ := eq_of_closePhrase? hopen
    cases hclose : closePhrase? rest with
    | none => exact lone w rest hw (closePhrase?_eq_none_iff.mp hclose)
    | some cut =>
      obtain ⟨body, after⟩ := cut
      obtain ⟨hbody, rfl⟩ := eq_of_closePhrase? hclose
      have heq : w ++ '"' :: (body ++ '"' :: after) = w ++ (inQuotes body ++ after) := by
        simp [inQuotes]
      exact heq ▸ pair w body after hw hbody (phraseInduction plain lone pair after)
termination_by t.length
decreasing_by
  have hrest := length_of_closePhrase? ‹closePhrase? t = some (w, rest)›
  have hafter := length_of_closePhrase? ‹closePhrase? rest = some (body, after)›
  omega

theorem dropWhile_quote {t : Text} (h : '"' ∉ t) : t.dropWhile (· = '"') = t := by
  cases t with
  | nil => rfl
  | cons c rest =>
    have hc : c ≠ '"' := fun heq => h (heq ▸ List.mem_cons_self)
    rw [List.dropWhile_cons_of_neg (by simpa using hc)]

theorem trim_of_plain {t : Text} (h : '"' ∉ t) : t.trim (· = '"') = t := by
  have hreverse : '"' ∉ t.reverse := by simpa using h
  rw [trim, dropWhile_quote h, dropWhile_quote hreverse, List.reverse_reverse]

/-- The body of a phrase is found again when its quotes are dropped. -/
theorem trim_inQuotes {body : Text} (h : '"' ∉ body) : (inQuotes body).trim (· = '"') = body := by
  have hreverse : '"' ∉ body.reverse := by simpa using h
  have hdrop : (inQuotes body).dropWhile (· = '"') = (body ++ ['"']).dropWhile (· = '"') := by
    rw [inQuotes, List.dropWhile_cons_of_pos (by simp)]
  rw [trim, hdrop]
  by_cases hbody : body = []
  · subst hbody
    rfl
  · obtain ⟨c, rest, rfl⟩ := List.exists_cons_of_ne_nil hbody
    have hc : c ≠ '"' := fun heq => h (heq ▸ List.mem_cons_self)
    rw [List.cons_append, List.dropWhile_cons_of_neg (by simpa using hc), ← List.cons_append,
      List.reverse_append, List.reverse_singleton, List.singleton_append,
      List.dropWhile_cons_of_pos (by simp), dropWhile_quote hreverse, List.reverse_reverse]

/-- Every quote of a text has a partner. -/
def PairsUp (t : Text) : Prop := Even (t.count '"')

instance : DecidablePred PairsUp := fun t => inferInstanceAs (Decidable (Even (t.count '"')))

theorem pairsUp_of_plain {t : Text} (h : '"' ∉ t) : PairsUp t := by
  simp [PairsUp, List.count_eq_zero.mpr h]

theorem count_inQuotes {body : Text} (h : '"' ∉ body) : (inQuotes body).count '"' = 2 := by
  simp [inQuotes, List.count_eq_zero.mpr h]

theorem pairsUp_inQuotes {body : Text} (h : '"' ∉ body) : PairsUp (inQuotes body) := by
  rw [PairsUp, count_inQuotes h]
  decide

theorem pairsUp_pair_iff {w body after : Text} (hw : '"' ∉ w) (hbody : '"' ∉ body) :
    PairsUp (w ++ (inQuotes body ++ after)) ↔ PairsUp after := by
  unfold PairsUp
  rw [List.count_append, List.count_append, List.count_eq_zero.mpr hw, count_inQuotes hbody,
    Nat.zero_add, Nat.even_add]
  exact ⟨fun h => h.mp (by decide), iff_of_true (by decide)⟩

theorem not_pairsUp_lone {w rest : Text} (hw : '"' ∉ w) (hrest : '"' ∉ rest) :
    ¬ PairsUp (w ++ '"' :: rest) := by
  unfold PairsUp
  rw [List.count_append, List.count_cons_self, List.count_eq_zero.mpr hw,
    List.count_eq_zero.mpr hrest]
  decide

/-- Where the quotes pair up, what follows is read on its own. -/
theorem extractPhrases_append {a : Text} (ha : PairsUp a) (b : Text) :
    extractPhrases (a ++ b) =
      ((extractPhrases a).1 ++ (extractPhrases b).1, (extractPhrases a).2 ++ (extractPhrases b).2) := by
  induction a using phraseInduction with
  | plain w hw => rw [extractPhrases_append_of_plain hw, extractPhrases_of_plain hw]; rfl
  | lone w rest hw hrest => exact absurd ha (not_pairsUp_lone hw hrest)
  | pair w body after hw hbody ih =>
    rw [List.append_assoc, List.append_assoc, extractPhrases_append_of_plain hw,
      extractPhrases_pair hbody, ih ((pairsUp_pair_iff hw hbody).mp ha),
      extractPhrases_append_of_plain hw, extractPhrases_pair hbody]
    simp

/-- A part without quotes is read on its own, also after an open quote. -/
theorem extractPhrases_append_plain (a : Text) {b : Text} (hb : '"' ∉ b) :
    extractPhrases (a ++ b) = ((extractPhrases a).1, (extractPhrases a).2 ++ b) := by
  induction a using phraseInduction with
  | plain w hw =>
    rw [extractPhrases_append_of_plain hw, extractPhrases_of_plain hw, extractPhrases_of_plain hb]
  | lone w rest hw hrest =>
    have hboth : '"' ∉ rest ++ b := by simp [hrest, hb]
    rw [List.append_assoc, List.cons_append, extractPhrases_append_of_plain hw,
      extractPhrases_lone_quote hboth, extractPhrases_append_of_plain hw,
      extractPhrases_lone_quote hrest]
    simp
  | pair w body after hw hbody ih =>
    rw [List.append_assoc, List.append_assoc, extractPhrases_append_of_plain hw,
      extractPhrases_pair hbody, ih, extractPhrases_append_of_plain hw, extractPhrases_pair hbody]
    simp

/-- At most one quote is left, the one without a partner. -/
theorem count_quote_remainder_le (t : Text) : (extractPhrases t).2.count '"' ≤ 1 := by
  induction t using phraseInduction with
  | plain w hw => simp [extractPhrases_of_plain hw, List.count_eq_zero.mpr hw]
  | lone w rest hw hrest =>
    simp [extractPhrases_append_of_plain hw, extractPhrases_lone_quote hrest,
      List.count_eq_zero.mpr hw, List.count_eq_zero.mpr hrest]
  | pair w body after hw hbody ih =>
    simpa [extractPhrases_append_of_plain hw, extractPhrases_pair hbody,
      List.count_eq_zero.mpr hw] using ih

end ChannelSearch.Text
