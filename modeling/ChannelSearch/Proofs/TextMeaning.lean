import ChannelSearch.Proofs.ClauseMeaning
import ChannelSearch.Proofs.PostQueries

/-!
What the texts of searches say. Main statement: the text of the condition of tokens is read as any or all
of its inclusions and the negation of each of its exclusions, the same for files, and the text after
`WHERE` of a query as the conjunction of its conditions.
-/

namespace ChannelSearch

open Sql

namespace Condition

variable {C : Type} {e : Interpretation} {name : C → Text} {row : C → Value} {column : C}
  {users : UserQuery → List Text} {tokens : Tokens} {orTerms : Bool} {x : Condition C}

/-- What the tokens look for. -/
def inclusions (tokens : Tokens) (column : C) : List (Condition C) :=
  ofHashtags (.lower column) tokens.hashtags ++ ofPhrases (.lower column) tokens.phrases ++
    ofTerms (.lower column) tokens.terms

/-- What the excluded tokens would look for, each without a leading dash. -/
def opposites (tokens : Tokens) (column : C) : List (Condition C) :=
  ofTerms (.lower column) (tokens.excludedTerms.map fun term => term.dropLeading '-') ++
    ofPhrases (.lower column) tokens.excludedPhrases

/-- The text of a condition says that all of some conditions are true, or any of them, if there are any,
and that some others are false. -/
def Says (e : Interpretation) (name : C → Text) (orTerms : Bool)
    (included opposed : List (Condition C)) (x : Condition C) : Prop :=
  ∃ b, e.isTrue? (x.clause name) = some b ∧
    (b = true ↔
      (included ≠ [] → if orTerms then ∃ y ∈ included, e.isTrue? (y.clause name) = some true
        else ∀ y ∈ included, e.isTrue? (y.clause name) = some true) ∧
      ∀ y ∈ opposed, e.isTrue? (y.clause name) = some false)

/-- What can be read back without knowing what selects yield. -/
def IsPlainText (x : Condition C) : Prop := Readable x ∧ x.nesting = 0

theorem isPlainText_group (op : Connective) (xs : List (Condition C)) (hne : xs ≠ [])
    (h : ∀ x ∈ xs, IsPlainText x) : IsPlainText (.group op xs) :=
  ⟨.group hne fun x hx => (h x hx).1, nesting_group fun x hx => (h x hx).2⟩

theorem isPlainText_like (c : C) (term : Text) (alwaysMiddle : Bool) :
    IsPlainText (like (.lower c) term alwaysMiddle) := by
  have hescape : Tokens.messageEscape ≠ '\'' := by decide
  exact ⟨.test hescape, by simp [like, nesting, testNesting]⟩

theorem isPlainText_ofTokens? (h : ofTokens? tokens column orTerms = some x) : IsPlainText x := by
  have hescape : Tokens.messageEscape ≠ '\'' := by decide
  refine Tokens.forall_ofTokens? (isPlainText_like column) (fun term middle => ?_) isPlainText_group
    (fun op xs ys hxs hys => ?_) h
  · exact ⟨.test hescape, by simp [unlike, nesting, testNesting]⟩
  · exact ⟨.both hxs.1 hys.1, by rw [nesting, hxs.2, hys.2]; rfl⟩

theorem isPlainText_inclusions (tokens : Tokens) (column : C) :
    ∀ y ∈ inclusions tokens column, IsPlainText y :=
  List.forall_mem_append.mpr ⟨List.forall_mem_append.mpr
    ⟨Tokens.forall_ofHashtags (isPlainText_like column) _,
      Tokens.forall_ofPhrases (isPlainText_like column) _⟩,
    Tokens.forall_ofTerms (isPlainText_like column) isPlainText_group _⟩

theorem isPlainText_opposites (tokens : Tokens) (column : C) :
    ∀ y ∈ opposites tokens column, IsPlainText y :=
  List.forall_mem_append.mpr
    ⟨Tokens.forall_ofTerms (isPlainText_like column) isPlainText_group _,
      Tokens.forall_ofPhrases (isPlainText_like column) _⟩

theorem IsPlainText.isTrue?_clause (hx : IsPlainText x) (hname : ∀ c, IsName (name c))
    (hcolumn : ∀ c, e.column (name c) = some (row c)) :
    e.isTrue? (x.clause name) = some (x.holds users row) :=
  hx.1.isTrue?_clause hname ⟨hcolumn, absurd hx.2, absurd hx.2⟩

/-- What a condition says of rows, its text says when it is read. -/
theorem says_of_holds (users : UserQuery → List Text) {included opposed : List (Condition C)}
    (hname : ∀ c, IsName (name c)) (hcolumn : ∀ c, e.column (name c) = some (row c))
    (hx : IsPlainText x) (hincluded : ∀ y ∈ included, IsPlainText y)
    (hopposed : ∀ y ∈ opposed, IsPlainText y)
    (h : x.holds users row = true ↔
      (included ≠ [] → if orTerms then ∃ y ∈ included, y.holds users row = true
        else ∀ y ∈ included, y.holds users row = true) ∧
      ∀ y ∈ opposed, y.holds users row = false) :
    Says e name orTerms included opposed x := by
  have hread {y : Condition C} (hy : IsPlainText y) (b : Bool) :
      e.isTrue? (y.clause name) = some b ↔ y.holds users row = b := by
    have heq : e.isTrue? (y.clause name) = some (y.holds users row) := hy.isTrue?_clause hname hcolumn
    rw [heq, Option.some.injEq]
  refine ⟨x.holds users row, (hread hx _).mpr rfl, h.trans ?_⟩
  refine and_congr (imp_congr_right fun _ => ?_)
    (forall₂_congr fun y hy => (hread (hopposed y hy) _).symm)
  cases orTerms with
  | true =>
    rw [if_pos rfl, if_pos rfl]
    exact exists_congr fun y => and_congr_right fun hy => (hread (hincluded y hy) _).symm
  | false =>
    rw [if_neg Bool.false_ne_true, if_neg Bool.false_ne_true]
    exact forall₂_congr fun y hy => (hread (hincluded y hy) _).symm

/-- One condition is true where the other is false. -/
def Opposes (x y : Condition C) : Prop :=
  ∀ (users : UserQuery → List Text) (row : C → Value), x.holds users row = !y.holds users row

theorem opposes_unlike (x : Sql.Operand C) (term : Text) (alwaysMiddle : Bool) :
    Opposes (unlike x term alwaysMiddle) (like x term alwaysMiddle) := by
  intro users row
  rw [unlike, like, holds_test, holds_test]
  rfl

/-- Lists that are made member by member are related when their members are. -/
theorem forall₂_filterMap {α β γ : Type} {R : β → γ → Prop} {f : α → Option β} {g : α → Option γ}
    (h : ∀ a, f a = none ∧ g a = none ∨ ∃ b c, f a = some b ∧ g a = some c ∧ R b c) (l : List α) :
    List.Forall₂ R (l.filterMap f) (l.filterMap g) := by
  induction l with
  | nil => exact .nil
  | cons a l ih =>
    obtain ⟨hf, hg⟩ | ⟨b, c, hf, hg, hR⟩ := h a
    · rw [List.filterMap_cons_none hf, List.filterMap_cons_none hg]
      exact ih
    · rw [List.filterMap_cons_some hf, List.filterMap_cons_some hg]
      exact .cons hR ih

theorem opposes_ofExcludedTerms (x : Sql.Operand C) (terms : List Text) :
    List.Forall₂ Opposes (ofExcludedTerms x terms)
      (ofTerms x (terms.map fun term => term.dropLeading '-')) := by
  unfold ofExcludedTerms ofTerms
  rw [List.filterMap_map]
  refine forall₂_filterMap (fun term => ?_) terms
  rw [Function.comp_apply]
  dsimp only
  split_ifs
  · exact Or.inl ⟨rfl, rfl⟩
  · refine Or.inr ⟨_, _, rfl, rfl, fun users row => ?_⟩
    have hmarked := opposes_unlike x (term.dropLeading '-') true users row
    have hbare := opposes_unlike x ((term.dropLeading '-').drop 1) true users row
    rw [holds_all, holds_any]
    simp only [List.all_cons, List.all_nil, List.any_cons, List.any_nil, hmarked, hbare,
      Bool.and_true, Bool.or_false, Bool.not_or]
  · exact Or.inr ⟨_, _, rfl, rfl, opposes_unlike x _ false⟩

theorem opposes_ofExcludedPhrases (x : Sql.Operand C) (phrases : List Text) :
    List.Forall₂ Opposes (ofExcludedPhrases x phrases) (ofPhrases x phrases) := by
  refine forall₂_filterMap (fun phrase => ?_) phrases
  dsimp only
  split_ifs
  · exact Or.inl ⟨rfl, rfl⟩
  · exact Or.inr ⟨_, _, rfl, rfl, opposes_unlike x _ true⟩

/-- The exclusions of tokens, each with what it rules out. -/
theorem opposes_opposites (tokens : Tokens) (column : C) :
    List.Forall₂ Opposes (ofExcludedTerms (.lower column) tokens.excludedTerms ++
      ofExcludedPhrases (.lower column) tokens.excludedPhrases) (opposites tokens column) :=
  List.rel_append (opposes_ofExcludedTerms _ _) (opposes_ofExcludedPhrases _ _)

/-- Exclusions hold where what they rule out does not. -/
theorem forall_holds_of_opposes {xs ys : List (Condition C)} (h : List.Forall₂ Opposes xs ys) :
    (∀ x ∈ xs, x.holds users row = true) ↔ ∀ y ∈ ys, y.holds users row = false := by
  induction h with
  | nil => simp
  | @cons x y xs ys hxy hxs ih =>
    rw [List.forall_mem_cons, List.forall_mem_cons, ih, hxy users row, Bool.not_eq_true']

theorem eq_nil_of_opposes {xs ys : List (Condition C)} (h : List.Forall₂ Opposes xs ys) :
    xs = [] ↔ ys = [] := by
  rw [← List.length_eq_zero_iff, h.length_eq, List.length_eq_zero_iff]

/-- A group that is there asks for its members, one that is left out for nothing. -/
theorem holds_inclusion? {xs : List (Condition C)} :
    (∀ y ∈ group? (if orTerms then .any else .all) xs, y.holds users row = true) ↔
      (xs ≠ [] → if orTerms then ∃ y ∈ xs, y.holds users row = true
        else ∀ y ∈ xs, y.holds users row = true) := by
  cases orTerms with
  | true =>
    rw [if_pos rfl, if_pos rfl]
    exact holds_group?_any
  | false =>
    rw [if_neg Bool.false_ne_true, if_neg Bool.false_ne_true, holds_group?_all]
    exact ⟨fun h _ => h, fun h y hy => h (List.ne_nil_of_mem hy) y hy⟩

/-- The condition of tokens by what they look for and what they rule out. -/
theorem holds_ofTokens?_iff (h : ofTokens? tokens column orTerms = some x) :
    x.holds users row = true ↔
      (inclusions tokens column ≠ [] →
        if orTerms then ∃ y ∈ inclusions tokens column, y.holds users row = true
        else ∀ y ∈ inclusions tokens column, y.holds users row = true) ∧
      ∀ y ∈ opposites tokens column, y.holds users row = false := by
  rw [← holds_inclusion?, ← forall_holds_of_opposes (opposes_opposites tokens column),
    ← holds_group?_all]
  unfold ofTokens? at h
  dsimp only at h
  rw [inclusions]
  split at h
  · next inclusion exclusion hin hex =>
    rw [hin, hex, ← Option.some.inj h, holds_both, Bool.and_eq_true]
    simp
  · next inclusion hin hex =>
    rw [hin, hex, ← Option.some.inj h]
    simp
  · next hin =>
    rw [hin, h]
    simp

/-- The phrases of a search text start with their quote, so there is no dash to remove from them. -/
theorem dropLeading_excludedPhrases {terms excludedTerms hashtagTerms escape : Text} :
    ∀ phrase ∈ (Tokens.ofTexts terms excludedTerms hashtagTerms escape).excludedPhrases,
      phrase.dropLeading '-' = phrase := by
  intro phrase hphrase
  obtain ⟨⟨body, rfl, -⟩, -⟩ := (Text.mem_extractPhrases _).1 phrase hphrase
  rw [Text.inQuotes, Text.dropLeading]
  exact if_neg (by decide)

/-- There is no condition where nothing is looked for and nothing is ruled out. -/
theorem ofTokens?_eq_none_iff :
    ofTokens? tokens column orTerms = none ↔
      inclusions tokens column = [] ∧ opposites tokens column = [] := by
  rw [← eq_nil_of_opposes (opposes_opposites tokens column)]
  unfold ofTokens? inclusions
  dsimp only
  by_cases hin : ofHashtags (.lower column) tokens.hashtags ++
      ofPhrases (.lower column) tokens.phrases ++ ofTerms (.lower column) tokens.terms = []
  · by_cases hex : ofExcludedTerms (.lower column) tokens.excludedTerms ++
      ofExcludedPhrases (.lower column) tokens.excludedPhrases = []
    · rw [hin, hex]
      simp [group?]
    · rw [hin, Tokens.group?_eq_some.mpr ⟨hex, rfl⟩]
      simp [group?, hex]
  · rw [Tokens.group?_eq_some.mpr ⟨hin, rfl⟩]
    refine iff_of_false ?_ fun h => hin h.1
    split
    · simp
    · simp
    · next h => cases h

/-- What tokens of files look for, or rule out, each without a leading dash. -/
def fileOpposites (columns : List C) (excludedTerms : Text) : List (Condition C) :=
  (fileTokens excludedTerms).filterMap fun token => containsAny? columns (token.dropLeading '-')

theorem fileExclusions_eq_map (columns : List C) (excludedTerms : Text) :
    fileExclusions columns excludedTerms = (fileOpposites columns excludedTerms).map .not := by
  rw [fileExclusions, fileOpposites, List.map_filterMap]

variable {columns : List C} {terms excludedTerms : Text}

theorem isPlainText_fileLike (c : C) (pattern : Text) :
    IsPlainText (.test (.like (.lower c) fileEscape pattern)) := by
  have hescape : fileEscape ≠ '\'' := by decide
  exact ⟨.test hescape, by simp [nesting, testNesting]⟩

theorem isPlainText_containsAny? (hcolumns : columns ≠ []) {token : Text}
    (h : containsAny? columns token = some x) : IsPlainText x := by
  unfold containsAny? at h
  dsimp only at h
  split_ifs at h
  rw [← Option.some.inj h]
  refine isPlainText_group .any _ (by simpa using hcolumns) fun y hy => ?_
  obtain ⟨c, -, rfl⟩ := List.mem_map.mp hy
  exact isPlainText_fileLike c _

theorem isPlainText_fileConditions (hcolumns : columns ≠ []) :
    ∀ y ∈ fileConditions columns terms, IsPlainText y := by
  intro y hy
  obtain ⟨token, -, hy⟩ := List.mem_filterMap.mp hy
  exact isPlainText_containsAny? hcolumns hy

theorem isPlainText_fileOpposites (hcolumns : columns ≠ []) :
    ∀ y ∈ fileOpposites columns excludedTerms, IsPlainText y := by
  intro y hy
  obtain ⟨token, -, hy⟩ := List.mem_filterMap.mp hy
  exact isPlainText_containsAny? hcolumns hy

theorem isPlainText_ofFileTexts? (hcolumns : columns ≠ [])
    (h : ofFileTexts? columns terms excludedTerms orTerms = some x) : IsPlainText x :=
  forall_ofFileTexts? isPlainText_fileLike hcolumns isPlainText_group
    (fun _ _ hxs => ⟨.not hxs.1, by rw [nesting, hxs.2]⟩) h

/-- The condition of texts on files by what they look for and what they rule out. -/
theorem holds_ofFileTexts?_iff (h : ofFileTexts? columns terms excludedTerms orTerms = some x) :
    x.holds users row = true ↔
      (fileConditions columns terms ≠ [] →
        if orTerms then ∃ y ∈ fileConditions columns terms, y.holds users row = true
        else ∀ y ∈ fileConditions columns terms, y.holds users row = true) ∧
      ∀ y ∈ fileOpposites columns excludedTerms, y.holds users row = false := by
  have hexcluded : (∀ y ∈ fileExclusions columns excludedTerms, y.holds users row = true) ↔
      ∀ y ∈ fileOpposites columns excludedTerms, y.holds users row = false := by
    rw [fileExclusions_eq_map, List.forall_mem_map]
    simp only [holds_not, Bool.not_eq_true']
  rw [← holds_inclusion?, ← hexcluded, ← holds_group?_all]
  rw [ofFileTexts?_eq] at h
  rw [(Tokens.group?_eq_some.mp h).2, holds_all, List.all_eq_true]
  simp only [List.forall_mem_append, Option.mem_toList]
  rfl

theorem ofFileTexts?_eq_none_iff :
    ofFileTexts? columns terms excludedTerms orTerms = none ↔
      fileConditions columns terms = [] ∧ fileOpposites columns excludedTerms = [] := by
  rw [ofFileTexts?_eq, Tokens.group?_eq_none, List.append_eq_nil_iff, Option.toList_eq_nil_iff,
    Option.toList_eq_nil_iff, Tokens.group?_eq_none, Tokens.group?_eq_none, fileExclusions_eq_map,
    List.map_eq_nil_iff]

end Condition

/-- The text after `WHERE` says what the clauses say one by one, and of a row, what the conditions
say. -/
structure WhereSays {C : Type} (s : Select) (name : C → Text) (xs : List (Condition C)) : Prop where
  text : ∃ start rest : Clause, s.clause =
    start ++ (⟨" WHERE ".toList, []⟩ ++ Clause.join " AND " s.wheres) ++ rest
  conjunction : ∀ e : Interpretation, e.isTrue? (Clause.join " AND " s.wheres) =
    (s.wheres.mapM e.isTrue?).map fun bs => bs.all id
  holds : ∀ (e : Interpretation) (users : UserQuery → List Text) (row : C → Value),
    (∀ x ∈ xs, Condition.Represents e name users row x) →
      e.isTrue? (Clause.join " AND " s.wheres) = some (xs.all (Condition.holds users row))

theorem whereSays {C : Type} {s : Select} {name : C → Text} {xs : List (Condition C)}
    (hname : ∀ c, IsName (name c)) (hs : s.wheres = Condition.clauses name xs) (hne : xs ≠ [])
    (hxs : ∀ x ∈ xs, Condition.Readable x) : WhereSays s name xs := by
  have hwheres : s.wheres ≠ [] := by
    rw [hs, Condition.clauses_eq]
    simpa using hne
  have hreads (e : Interpretation) : ∀ c ∈ s.wheres, Reads e c := by
    rw [hs, Condition.clauses_eq]
    exact List.forall_mem_map.mpr fun x hx => (hxs x hx).reads hname
  refine ⟨?_, fun e => isTrue?_join (hreads e) hwheres, fun e users row hrow => ?_⟩
  · have hcondition : (if s.wheres.isEmpty then (⟨[], []⟩ : Clause)
        else ⟨" WHERE ".toList, []⟩ ++ Clause.join " AND " s.wheres) =
          ⟨" WHERE ".toList, []⟩ ++ Clause.join " AND " s.wheres := if_neg (by simpa using hwheres)
    unfold Select.clause
    rw [hcondition, Clause.append_assoc]
    exact ⟨_, _, rfl⟩
  · have htruth : s.wheres.mapM e.isTrue? = some (xs.map (Condition.holds users row)) := by
      rw [hs]
      clear hs hne hwheres hreads
      induction xs with
      | nil => rw [Condition.clauses]; rfl
      | cons x xs ih =>
        obtain ⟨hx, hxs⟩ := List.forall_mem_cons.mp hxs
        obtain ⟨hrowx, hrow⟩ := List.forall_mem_cons.mp hrow
        rw [Condition.clauses, List.mapM_cons, hx.isTrue?_clause hname hrowx, ih hxs hrow]
        rfl
    rw [isTrue?_join (hreads e) hwheres, htruth]
    simp

section Built

theorem PostColumn.isName_name (c : PostColumn) : IsName c.name := by
  cases c <;> exact ⟨by decide, by decide, by decide⟩

theorem FileColumn.isName_text (c : FileColumn) : IsName c.text := by
  cases c <;> exact ⟨by decide, by decide, by decide⟩

theorem ScopeQuery.Column.isName_text (c : ScopeQuery.Column) : IsName c.text := by
  cases c <;> exact ⟨by decide, by decide, by decide⟩

theorem UserQuery.quotable_tests {team : Text} {r : SearchRequest} {byUsername : Bool} {q : UserQuery}
    (h : build? team r.fromUsers r.excludedUsers byUsername = some q) : ∀ t ∈ q.tests, t.Quotable := by
  rw [eq_of_build? h]
  simp only [List.forall_mem_append]
  refine ⟨⟨?_, ?_⟩, ?_⟩
  · split_ifs
    · simp
    · exact List.forall_mem_cons.mpr ⟨trivial, List.forall_mem_singleton.mpr trivial⟩
  · split_ifs
    · simp
    all_goals exact List.forall_mem_singleton.mpr trivial
  · split_ifs
    · simp
    all_goals exact List.forall_mem_singleton.mpr trivial

variable {C : Type} {r : SearchRequest} {now : Int} {column : C}

theorem readable_userConditions {team : Text} {byUsername : Bool} :
    ∀ x ∈ userConditions column team r byUsername, x.Readable := by
  unfold userConditions
  split
  · next q hbuild =>
    intro x hx
    rw [List.mem_singleton.mp hx]
    exact .isUserIn (UserQuery.quotable_tests hbuild)
  · simp

theorem SearchRequest.readable_dateConditions {dates : List (Condition C)}
    (h : (r.dateConditions now column).result = .ok dates) : ∀ x ∈ dates, x.Readable := by
  rcases dateConditions_bounds h with ⟨-, low, high, rfl⟩ | ⟨-, after, before, rfl⟩
  · exact List.forall_mem_singleton.mpr (.test trivial)
  · refine List.forall_mem_append.mpr ⟨?_, ?_⟩
    · split_ifs
      · simp
      · exact List.forall_mem_singleton.mpr (.test trivial)
    · split_ifs
      · simp
      · exact List.forall_mem_singleton.mpr (.test trivial)

theorem PageQuery.readable_within (q : PageQuery C) (h : ∀ x ∈ q.conditions, x.Readable)
    (ids : List Text) : ∀ x ∈ (q.within column ids).conditions, x.Readable :=
  List.forall_mem_append.mpr ⟨h, List.forall_mem_singleton.mpr (.test trivial)⟩

theorem PostQuery.readable_build? {team : Text} {requests : List SearchRequest} {page limit : Int}
    {byUsername : Bool} {q : PostQuery}
    (h : (build? team requests page limit byUsername now).result = .ok (some q)) :
    q.conditions ≠ [] ∧ ∀ x ∈ q.conditions, x.Readable := by
  have hescape : Tokens.messageEscape ≠ '\'' := by decide
  cases requests with
  | nil => cases h
  | cons first rest =>
    obtain ⟨dates, hdates, h⟩ := Traced.result_bind_eq_ok.mp h
    rw [Traced.result_mapError] at hdates
    have hdates := SearchRequest.readable_dateConditions (mapError_eq_ok.mp hdates)
    dsimp only at h
    split_ifs at h
    · cases h
    · obtain rfl : _ = q := Option.some.inj (Except.ok.inj h)
      refine ⟨List.cons_ne_nil _ _, ?_⟩
      simp only [List.forall_mem_append, List.forall_mem_cons, Option.mem_toList]
      refine ⟨⟨⟨⟨.test trivial, .test hescape, by simp⟩, readable_userConditions⟩, hdates⟩,
        fun x hx => ?_⟩
      rw [textCondition?_eq] at hx
      exact (Condition.isPlainText_ofTokens? hx).1

theorem FileQuery.readable_build? {c : SearchContext} {first : SearchRequest}
    {requests : List SearchRequest} {byUsername : Bool} {q : FileQuery}
    (h : (build? c first requests byUsername).result = .ok (some q)) :
    q.conditions ≠ [] ∧ ∀ x ∈ q.conditions, x.Readable := by
  obtain ⟨dates, hdates, h⟩ := Traced.result_bind_eq_ok.mp h
  rw [Traced.result_mapError] at hdates
  have hdates := SearchRequest.readable_dateConditions (mapError_eq_ok.mp hdates)
  dsimp only at h
  split_ifs at h
  · cases h
  · obtain rfl : _ = q := Option.some.inj (Except.ok.inj h)
    refine ⟨List.cons_ne_nil _ _, ?_⟩
    simp only [List.forall_mem_append, List.forall_mem_singleton, Option.mem_toList]
    refine ⟨⟨⟨⟨.test trivial, readable_userConditions⟩, hdates⟩, ?_⟩, fun x hx => ?_⟩
    · unfold extensionConditions
      split_ifs
      · simp
      · exact List.forall_mem_singleton.mpr (.test trivial)
    · exact (Condition.isPlainText_ofFileTexts? (by decide) hx).1

theorem ScopeQuery.readable_build (user team : Text) (r : SearchRequest) (byName : Bool) :
    ∀ x ∈ (build user team r byName).conditions, x.Readable := by
  unfold build
  simp only [List.forall_mem_append]
  refine ⟨⟨⟨⟨?_, ?_⟩, ?_⟩, ?_⟩, ?_⟩
  · split_ifs
    · simp
    · exact List.forall_mem_cons.mpr ⟨.test trivial, List.forall_mem_singleton.mpr (.test trivial)⟩
  · split_ifs
    · simp
    · exact List.forall_mem_singleton.mpr (.test trivial)
  · unfold teamConditions
    split_ifs
    · simp
    · refine List.forall_mem_singleton.mpr (.group (List.cons_ne_nil _ _) ?_)
      exact List.forall_mem_cons.mpr ⟨.test trivial, List.forall_mem_singleton.mpr (.test trivial)⟩
  · split_ifs
    · simp
    all_goals exact List.forall_mem_singleton.mpr (.test trivial)
  · split_ifs
    · simp
    all_goals exact List.forall_mem_singleton.mpr (.test trivial)

end Built

section Meaning

variable {C : Type} {e : Interpretation} {name : C → Text} {row : C → Value}

theorem Condition.says_ofTokens? {column : C} {tokens : Tokens} {orTerms : Bool} {x : Condition C}
    (hname : ∀ c, IsName (name c)) (hcolumn : ∀ c, e.column (name c) = some (row c))
    (h : ofTokens? tokens column orTerms = some x) :
    Says e name orTerms (inclusions tokens column) (opposites tokens column) x :=
  says_of_holds (fun _ => []) hname hcolumn (isPlainText_ofTokens? h)
    (isPlainText_inclusions _ _) (isPlainText_opposites _ _) (holds_ofTokens?_iff h)

theorem Condition.says_ofFileTexts? {columns : List C} {terms excludedTerms : Text} {orTerms : Bool}
    {x : Condition C} (hname : ∀ c, IsName (name c)) (hcolumn : ∀ c, e.column (name c) = some (row c))
    (hcolumns : columns ≠ []) (h : ofFileTexts? columns terms excludedTerms orTerms = some x) :
    Says e name orTerms (fileConditions columns terms) (fileOpposites columns excludedTerms) x :=
  says_of_holds (fun _ => []) hname hcolumn (isPlainText_ofFileTexts? hcolumns h)
    (isPlainText_fileConditions hcolumns) (isPlainText_fileOpposites hcolumns)
    (holds_ofFileTexts?_iff h)

theorem PageQuery.within_ne_nil (q : PageQuery C) (column : C) (ids : List Text) :
    (q.within column ids).conditions ≠ [] :=
  List.append_ne_nil_of_right_ne_nil _ (List.cons_ne_nil _ _)

/-- The texts of searches mean what their tokens ask for. The clause of tokens says that their inclusions
hold, all or any of them, and that none of what they rule out does; it is left out when no token asks
for anything. An excluded phrase rules itself out: made from a search text it has no dash in front. The
clause of texts on files does the same. The text after `WHERE` of every query is read as the conjunction
of its clauses. -/
theorem clauses_mean_tokens :
    (∀ {C : Type} (e : Interpretation) (name : C → Text) (row : C → Value) (column : C)
      (tokens : Tokens) (orTerms : Bool),
      (∀ c, IsName (name c)) → (∀ c, e.column (name c) = some (row c)) →
        (Condition.ofTokens? tokens column orTerms = none ↔
          Condition.inclusions tokens column = [] ∧ Condition.opposites tokens column = []) ∧
        ∀ x ∈ Condition.ofTokens? tokens column orTerms,
          Condition.Says e name orTerms (Condition.inclusions tokens column)
            (Condition.opposites tokens column) x) ∧
    (∀ terms excludedTerms hashtagTerms : Text,
      ∀ phrase ∈ (Tokens.ofTexts terms excludedTerms hashtagTerms).excludedPhrases,
        phrase.dropLeading '-' = phrase) ∧
    (∀ {C : Type} (e : Interpretation) (name : C → Text) (row : C → Value) (columns : List C)
      (terms excludedTerms : Text) (orTerms : Bool),
      (∀ c, IsName (name c)) → (∀ c, e.column (name c) = some (row c)) → columns ≠ [] →
        (Condition.ofFileTexts? columns terms excludedTerms orTerms = none ↔
          Condition.fileConditions columns terms = [] ∧
            Condition.fileOpposites columns excludedTerms = []) ∧
        ∀ x ∈ Condition.ofFileTexts? columns terms excludedTerms orTerms,
          Condition.Says e name orTerms (Condition.fileConditions columns terms)
            (Condition.fileOpposites columns excludedTerms) x) ∧
    (∀ (team : Text) (requests : List SearchRequest) (page limit now : Int) (byUsername : Bool)
      (q : PostQuery), (PostQuery.build? team requests page limit byUsername now).result =
        .ok (some q) →
      WhereSays (PostQuery.select q) PostColumn.name q.conditions ∧
        ∀ ids, WhereSays (PostQuery.select (q.within .channelId ids)) PostColumn.name
          (q.within .channelId ids).conditions) ∧
    (∀ (c : SearchContext) (first : SearchRequest) (requests : List SearchRequest) (byUsername : Bool)
      (q : FileQuery), (FileQuery.build? c first requests byUsername).result = .ok (some q) →
      WhereSays (FileQuery.select q) FileColumn.text q.conditions ∧
        ∀ ids, WhereSays (FileQuery.select (q.within .channelId ids)) FileColumn.text
          (q.within .channelId ids).conditions) ∧
    ∀ (user team : Text) (r : SearchRequest) (byName : Bool),
      (ScopeQuery.build user team r byName).conditions ≠ [] →
        WhereSays (ScopeQuery.build user team r byName).select ScopeQuery.Column.text
          (ScopeQuery.build user team r byName).conditions := by
  refine ⟨fun e name row column tokens orTerms hname hcolumn => ?_,
    fun _ _ _ => Condition.dropLeading_excludedPhrases,
    fun e name row columns terms excludedTerms orTerms hname hcolumn hcolumns => ?_,
    fun team requests page limit now byUsername q h => ?_,
    fun c first requests byUsername q h => ?_,
    fun user team r byName hne => ?_⟩
  · exact ⟨Condition.ofTokens?_eq_none_iff, fun x hx => Condition.says_ofTokens? hname hcolumn hx⟩
  · exact ⟨Condition.ofFileTexts?_eq_none_iff,
      fun x hx => Condition.says_ofFileTexts? hname hcolumn hcolumns hx⟩
  · obtain ⟨hne, hreadable⟩ := PostQuery.readable_build? h
    exact ⟨whereSays PostColumn.isName_name rfl hne hreadable, fun ids =>
      whereSays PostColumn.isName_name rfl (q.within_ne_nil _ ids) (q.readable_within hreadable ids)⟩
  · obtain ⟨hne, hreadable⟩ := FileQuery.readable_build? h
    exact ⟨whereSays FileColumn.isName_text rfl hne hreadable, fun ids =>
      whereSays FileColumn.isName_text rfl (q.within_ne_nil _ ids) (q.readable_within hreadable ids)⟩
  · exact whereSays ScopeQuery.Column.isName_text rfl hne (ScopeQuery.readable_build user team r byName)

/-- A message that has a wanted word and not the mention that is ruled out. -/
theorem clauses_mean_tokens_mention :
    ∃ x ∈ Condition.ofTokens?
        { terms := ["hello".toList], excludedTerms := ["-@bob".toList] } PostColumn.message false,
      Condition.Says
        ⟨fun w => some (if w = PostColumn.message.name then .text "Hello all".toList else .int 0),
          fun _ => none⟩
        PostColumn.name false
        (Condition.inclusions
          { terms := ["hello".toList], excludedTerms := ["-@bob".toList] } PostColumn.message)
        (Condition.opposites
          { terms := ["hello".toList], excludedTerms := ["-@bob".toList] } PostColumn.message) x := by
  have hmeaning := (clauses_mean_tokens.1
    ⟨fun w => some (if w = PostColumn.message.name then .text "Hello all".toList else .int 0),
      fun _ => none⟩
    PostColumn.name (fun c => if c = .message then .text "Hello all".toList else .int 0) .message
    { terms := ["hello".toList], excludedTerms := ["-@bob".toList] } false PostColumn.isName_name
    (fun c => by cases c <;> decide)).2
  exact ⟨_, rfl, hmeaning _ rfl⟩

end Meaning

end ChannelSearch
