import ChannelSearch.Proofs.QuotePairs

/-!
Phrases and quotes. A text is cut at its quotes into segments; the segments at odd places stand between
quotes, if another quote follows. Main statement: the phrases are those of them that are not blank, the
rest are the segments at even places with spaces between them, and no character is lost but white space
and the quotes of blank phrases.
-/

namespace ChannelSearch.Text

/-- The entries at even places, counted from zero. -/
def everySecond {α : Type} : List α → List α
  | [] => []
  | [x] => [x]
  | x :: _ :: rest => x :: everySecond rest

theorem getElem?_everySecond {α : Type} (xs : List α) (i : Nat) :
    (everySecond xs)[i]? = xs[2 * i]? := by
  fun_induction everySecond xs generalizing i with
  | case1 => rfl
  | case2 x => cases i <;> simp
  | case3 x y rest ih =>
    cases i with
    | zero => rfl
    | succ i => rw [List.getElem?_cons_succ, ih, Nat.mul_succ]; rfl

theorem everySecond_cons {α : Type} (x : α) (xs : List α) :
    everySecond (x :: xs) = x :: everySecond (xs.drop 1) := by
  cases xs <;> rfl

/-- The parts of a text before, between and after its quotes. -/
def segments (t : Text) : List Text := t.splitWhere (· = '"')

/-- The segments with a quote on both sides, quotes being paired from the left. -/
def quotedSegments (t : Text) : List Text := everySecond ((segments t).dropLast.drop 1)

/-- The last quote with what follows it, where it has no partner. -/
def openEnd (t : Text) : Text :=
  if PairsUp t then [] else '"' :: (segments t).getLastD []

theorem segments_ne_nil (t : Text) : segments t ≠ [] := splitWhere_ne_nil _ t

/-- A segment stands between quotes at an odd place, when it is not the last one. -/
theorem getElem?_quotedSegments (t : Text) (i : Nat) :
    (quotedSegments t)[i]? =
      if 2 * i + 1 < t.count '"' then (segments t)[2 * i + 1]? else none := by
  have hlength : (segments t).length - 1 = t.count '"' := by
    rw [segments, length_splitWhere, Nat.add_sub_cancel]
  rw [quotedSegments, getElem?_everySecond, List.getElem?_drop, List.getElem?_dropLast, hlength,
    Nat.add_comm 1]

section Cuts

variable {w rest body : Text}

theorem segments_of_plain (hw : '"' ∉ w) : segments w = [w] :=
  splitWhere_of_none fun _ hc => decide_eq_false fun h => hw (h ▸ hc)

theorem segments_append_quote (hw : '"' ∉ w) (rest : Text) :
    segments (w ++ '"' :: rest) = w :: segments rest := by
  rw [segments, splitWhere_append_cons (by simp)]
  exact congrArg (· ++ segments rest) (segments_of_plain hw)

theorem segments_append_pair (hw : '"' ∉ w) (hbody : '"' ∉ body) (after : Text) :
    segments (w ++ (inQuotes body ++ after)) = w :: body :: segments after := by
  have hsplit : w ++ (inQuotes body ++ after) = w ++ '"' :: (body ++ '"' :: after) := by
    simp [inQuotes]
  rw [hsplit, segments_append_quote hw, segments_append_quote hbody]

theorem quotedSegments_of_plain (hw : '"' ∉ w) : quotedSegments w = [] := by
  rw [quotedSegments, segments_of_plain hw]
  rfl

theorem quotedSegments_lone (hw : '"' ∉ w) (hrest : '"' ∉ rest) :
    quotedSegments (w ++ '"' :: rest) = [] := by
  rw [quotedSegments, segments_append_quote hw, segments_of_plain hrest]
  rfl

theorem quotedSegments_pair (hw : '"' ∉ w) (hbody : '"' ∉ body) (after : Text) :
    quotedSegments (w ++ (inQuotes body ++ after)) = body :: quotedSegments after := by
  have hdrop : (w :: body :: segments after).dropLast.drop 1 = body :: (segments after).dropLast := by
    rw [List.dropLast_cons_of_ne_nil (List.cons_ne_nil _ _),
      List.dropLast_cons_of_ne_nil (segments_ne_nil after)]
    rfl
  rw [quotedSegments, segments_append_pair hw hbody, hdrop, everySecond_cons]
  rfl

theorem openEnd_of_plain (hw : '"' ∉ w) : openEnd w = [] := if_pos (pairsUp_of_plain hw)

theorem openEnd_lone (hw : '"' ∉ w) (hrest : '"' ∉ rest) :
    openEnd (w ++ '"' :: rest) = '"' :: rest := by
  rw [openEnd, if_neg (not_pairsUp_lone hw hrest), segments_append_quote hw, segments_of_plain hrest]
  rfl

theorem openEnd_pair (hw : '"' ∉ w) (hbody : '"' ∉ body) (after : Text) :
    openEnd (w ++ (inQuotes body ++ after)) = openEnd after := by
  obtain ⟨first, others, hsegments⟩ := List.exists_cons_of_ne_nil (segments_ne_nil after)
  simp only [openEnd, pairsUp_pair_iff hw hbody, segments_append_pair hw hbody, hsegments]
  rfl

end Cuts

/-- Phrases are the quoted segments that are not blank. -/
theorem phrases_eq (t : Text) :
    (extractPhrases t).1 = ((quotedSegments t).filter (!·.isBlankText)).map inQuotes := by
  induction t using phraseInduction with
  | plain w hw => rw [extractPhrases_of_plain hw, quotedSegments_of_plain hw]; rfl
  | lone w rest hw hrest =>
    rw [extractPhrases_append_of_plain hw, extractPhrases_lone_quote hrest,
      quotedSegments_lone hw hrest]
    rfl
  | pair w body after hw hbody ih =>
    rw [extractPhrases_append_of_plain hw, extractPhrases_pair hbody, quotedSegments_pair hw hbody]
    dsimp only
    rw [ih, phraseIn, List.filter_cons]
    cases isBlankText body <;> rfl

/-- What is left are the segments outside of quotes, a space for every pair of quotes between them, and
the end that is open. -/
theorem remainder_eq (t : Text) :
    (extractPhrases t).2 = join [' '] (everySecond (segments t)) ++ openEnd t := by
  induction t using phraseInduction with
  | plain w hw =>
    rw [extractPhrases_of_plain hw, segments_of_plain hw, openEnd_of_plain hw]
    simp [everySecond]
  | lone w rest hw hrest =>
    rw [extractPhrases_append_of_plain hw, extractPhrases_lone_quote hrest,
      segments_append_quote hw, segments_of_plain hrest, openEnd_lone hw hrest]
    simp [everySecond]
  | pair w body after hw hbody ih =>
    have hne : everySecond (segments after) ≠ [] := by
      obtain ⟨first, others, hsegments⟩ := List.exists_cons_of_ne_nil (segments_ne_nil after)
      rw [hsegments, everySecond_cons]
      exact List.cons_ne_nil _ _
    rw [extractPhrases_append_of_plain hw, extractPhrases_pair hbody, segments_append_pair hw hbody,
      openEnd_pair hw hbody, everySecond, join_cons hne]
    simp [ih]

theorem count_of_blank {c : Char} (hc : isBlank c = false) {t : Text} (ht : t.isBlankText = true) :
    t.count c = 0 := by
  refine List.count_eq_zero.mpr fun hmem => ?_
  rw [List.all_eq_true.mp ht c hmem] at hc
  cases hc

/-- Outside of white space, the phrases and the rest have every character as often as the text, the quotes
of blank phrases aside. -/
theorem count_extractPhrases {c : Char} (hc : isBlank c = false) (t : Text) :
    (extractPhrases t).1.flatten.count c + (extractPhrases t).2.count c +
      (if c = '"' then 2 * (quotedSegments t).countP isBlankText else 0) = t.count c := by
  have hspace : ' ' ≠ c := by
    rintro rfl
    cases hc
  induction t using phraseInduction with
  | plain w hw =>
    rw [extractPhrases_of_plain hw, quotedSegments_of_plain hw]
    simp
  | lone w rest hw hrest =>
    rw [extractPhrases_append_of_plain hw, extractPhrases_lone_quote hrest,
      quotedSegments_lone hw hrest]
    simp
  | pair w body after hw hbody ih =>
    have hquotes : (inQuotes body).count c = body.count c + if c = '"' then 2 else 0 := by
      by_cases hquote : c = '"'
      · simp [inQuotes, hquote]
      · simp [inQuotes, hquote, Ne.symm hquote]
    rw [extractPhrases_append_of_plain hw, extractPhrases_pair hbody, quotedSegments_pair hw hbody]
    simp only [List.flatten_append, List.count_append, List.countP_cons,
      List.count_cons_of_ne hspace, hquotes, ← ih, phraseIn]
    by_cases hblank : isBlankText body = true
    · simp only [hblank, if_true, List.flatten_nil, List.count_nil, count_of_blank hc hblank]
      split_ifs <;> omega
    · simp only [hblank, Bool.false_eq_true, if_false, List.flatten_singleton, hquotes, Nat.add_zero]
      omega

/-- Quotes are paired from the left. A text is the segments between its quotes; the phrases are those at
odd places that a further quote closes and that are not blank, and the rest are those at even places
with spaces between them, and a last quote without a partner with its segment. So no character is lost
or doubled but white space and the quotes of blank phrases. -/
theorem quotes_pair_from_the_left (t : Text) :
    (join ['"'] (segments t) = t ∧ (segments t).length = t.count '"' + 1) ∧
    (∀ i, (quotedSegments t)[i]? =
      if 2 * i + 1 < t.count '"' then (segments t)[2 * i + 1]? else none) ∧
    (extractPhrases t).1 = ((quotedSegments t).filter (!·.isBlankText)).map inQuotes ∧
    (extractPhrases t).2 = join [' '] (everySecond (segments t)) ++ openEnd t ∧
    ∀ c, isBlank c = false →
      (extractPhrases t).1.flatten.count c + (extractPhrases t).2.count c +
        (if c = '"' then 2 * (quotedSegments t).countP isBlankText else 0) = t.count c :=
  ⟨⟨join_splitWhere '"' t, length_splitWhere '"' t⟩, getElem?_quotedSegments t, phrases_eq t,
    remainder_eq t, fun _ hc => count_extractPhrases hc t⟩

/-- Of the four quotes of a text with a phrase and a blank phrase, two are left. -/
theorem quotes_pair_from_the_left_build :
    let t := "\"build failed\" deploy \" \" now".toList
    isBlank '"' = false ∧ (extractPhrases t).1 = ["\"build failed\"".toList] ∧
      (extractPhrases t).1.flatten.count '"' + (extractPhrases t).2.count '"' +
        (if '"' = '"' then 2 * (quotedSegments t).countP isBlankText else 0) = t.count '"' := by
  have hquotes := quotes_pair_from_the_left "\"build failed\" deploy \" \" now".toList
  exact ⟨rfl, hquotes.2.2.1.trans (by decide +kernel), hquotes.2.2.2.2 '"' rfl⟩

/-- A pair of quotes with nothing between them is neither a phrase nor left in the rest. -/
theorem quotes_of_a_blank_phrase_are_lost :
    ¬ ∀ (t : Text) (c : Char), isBlank c = false →
      (extractPhrases t).1.flatten.count c + (extractPhrases t).2.count c = t.count c := by
  intro h
  exact absurd (h "\"\"".toList '"' rfl) (by decide +kernel)

end ChannelSearch.Text
