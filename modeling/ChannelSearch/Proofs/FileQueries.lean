import ChannelSearch.Proofs.Statements
import ChannelSearch.Proofs.TextConditions
import ChannelSearch.Search.Files

/-!
The condition of search texts on files: it passes the checks of statements, and requests that are all
empty give none.
-/

namespace ChannelSearch

open Text

namespace Condition

variable {C : Type} {name : C → Text} {columns : List C}

/-- The conditions of the tokens of a text on files. -/
def fileConditions (columns : List C) (terms : Text) : List (Condition C) :=
  (fileTokens terms).filterMap (containsAny? columns)

/-- The conditions that keep the tokens of a text out of files. -/
def fileExclusions (columns : List C) (excludedTerms : Text) : List (Condition C) :=
  (fileTokens excludedTerms).filterMap fun token =>
    (containsAny? columns (token.dropLeading '-')).map .not

theorem ofFileTexts?_eq (terms excludedTerms : Text) (orTerms : Bool) :
    ofFileTexts? columns terms excludedTerms orTerms =
      group? .all
        ((group? (if orTerms then .any else .all) (fileConditions columns terms)).toList ++
          (group? .all (fileExclusions columns excludedTerms)).toList) := by
  have hlist (op : Connective) (xs : List (Condition C)) :
      (if xs.isEmpty then [] else [group op xs]) = (group? op xs).toList := by
    unfold group?
    split_ifs <;> rfl
  rw [← hlist, ← hlist]
  rfl

/-- The condition of texts on files has what its tests have, if brackets keep it and so does a negation
of brackets. -/
theorem forall_ofFileTexts? {P : Condition C → Prop} {terms excludedTerms : Text} {orTerms : Bool}
    {x : Condition C} (hlike : ∀ c pattern, P (.test (.like (.lower c) fileEscape pattern)))
    (hcolumns : columns ≠ []) (hgroup : ∀ op xs, xs ≠ [] → (∀ y ∈ xs, P y) → P (.group op xs))
    (hnot : ∀ op xs, P (.group op xs) → P (.not (.group op xs)))
    (h : ofFileTexts? columns terms excludedTerms orTerms = some x) : P x := by
  have hany {token : Text} {y : Condition C} (hy : containsAny? columns token = some y) :
      ∃ xs, y = .group .any xs ∧ P (.group .any xs) := by
    unfold containsAny? at hy
    dsimp only at hy
    split_ifs at hy
    refine ⟨_, (Option.some.inj hy).symm, hgroup .any _ (by simpa using hcolumns) fun z hz => ?_⟩
    obtain ⟨c, -, rfl⟩ := List.mem_map.mp hz
    exact hlike c _
  have hgroup? {op : Connective} {xs : List (Condition C)} (hxs : ∀ y ∈ xs, P y) :
      ∀ y ∈ group? op xs, P y := by
    intro y hy
    obtain ⟨hne, rfl⟩ := Tokens.group?_eq_some.mp hy
    exact hgroup op xs hne hxs
  have hincluded : ∀ y ∈ fileConditions columns terms, P y := by
    intro y hy
    obtain ⟨token, -, hy⟩ := List.mem_filterMap.mp hy
    obtain ⟨xs, rfl, hxs⟩ := hany hy
    exact hxs
  have hexcluded : ∀ y ∈ fileExclusions columns excludedTerms, P y := by
    intro y hy
    obtain ⟨token, -, hy⟩ := List.mem_filterMap.mp hy
    obtain ⟨z, hz, rfl⟩ := Option.map_eq_some_iff.mp hy
    obtain ⟨xs, rfl, hxs⟩ := hany hz
    exact hnot .any xs hxs
  rw [ofFileTexts?_eq] at h
  refine hgroup? (fun y hy => ?_) x h
  rcases List.mem_append.mp hy with hy | hy
  · exact hgroup? hincluded y (Option.mem_toList.mp hy)
  · exact hgroup? hexcluded y (Option.mem_toList.mp hy)

theorem bindable_ofFileTexts? (hname : ∀ c, '?' ∉ name c) (hcolumns : columns ≠ [])
    {terms excludedTerms : Text} {orTerms : Bool} {x : Condition C}
    (h : ofFileTexts? columns terms excludedTerms orTerms = some x) : (x.clause name).Bindable := by
  have hescape : fileEscape ≠ '?' := by decide
  refine forall_ofFileTexts? (P := fun x => (x.clause name).Bindable) (fun _ _ => ?_) hcolumns
    (fun _ _ _ => group_bindable) (fun _ _ => not_bindable) h
  exact test_bindable hname hescape

/-- No select is part of the condition, and it is one operand. -/
theorem nesting_ofFileTexts? (hcolumns : columns ≠ []) {terms excludedTerms : Text} {orTerms : Bool}
    {x : Condition C} (h : ofFileTexts? columns terms excludedTerms orTerms = some x) :
    x.nesting = 0 ∧ x.operandHeights.length ≤ 1 := by
  refine forall_ofFileTexts? (P := fun x => x.nesting = 0 ∧ x.operandHeights.length ≤ 1)
    (fun _ _ => ?_) hcolumns (fun op xs _ hxs => ?_) (fun op xs hxs => ?_) h
  · simp [nesting, testNesting, operandHeights]
  · exact ⟨nesting_group fun y hy => (hxs y hy).1, by simp [operandHeights]⟩
  · exact ⟨by rw [nesting, hxs.1], by simp [operandHeights]⟩

/-- Texts of white space ask nothing of a file. -/
theorem ofFileTexts?_of_blank {terms : Text} (h : isBlankText terms = true) (orTerms : Bool) :
    ofFileTexts? columns terms [] orTerms = none := by
  have htokens {t : Text} (ht : isBlankText t = true) : fileTokens t = [] := by
    have hblank : ∀ c ∈ t, isBlank c = true := List.all_eq_true.mp ht
    have hplain : '"' ∉ t := fun hquote => by
      cases hblank '"' hquote
    unfold fileTokens
    rw [extractPhrases_of_plain hplain]
    exact words_of_blank hblank
  rw [ofFileTexts?_eq, fileConditions, fileExclusions, htokens h, htokens rfl]
  rfl

end Condition

namespace FileQuery

theorem not_mem_text (column : FileColumn) : '?' ∉ column.text := by cases column <;> decide

/-- Requests that are all empty ask nothing of a file. -/
theorem textCondition?_of_isEmpty {requests : List SearchRequest}
    (h : requests.all (·.isEmpty) = true) (orTerms : Bool) :
    textCondition? requests orTerms = none := by
  obtain ⟨hterms, hexcluded, htags⟩ := MergedText.ofRequests_of_isEmpty h
  have hblank : isBlankText (join [' '] ([(MergedText.ofRequests requests).terms,
      (MergedText.ofRequests requests).hashtagTerms].filter (· ≠ []))) = true := by
    refine List.all_eq_true.mpr fun c hc => ?_
    rcases mem_join hc with hspace | ⟨t, ht, hc⟩
    · obtain rfl := List.mem_singleton.mp hspace
      rfl
    · rcases List.mem_pair.mp (List.mem_filter.mp ht).1 with rfl | rfl
      · rw [hterms] at hc
        cases hc
      · exact List.all_eq_true.mp htags c hc
  unfold textCondition?
  dsimp only
  rw [hexcluded]
  exact Condition.ofFileTexts?_of_blank hblank orTerms

end FileQuery

end ChannelSearch
