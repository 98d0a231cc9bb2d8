import ChannelSearch.Proofs.Authors
import ChannelSearch.Proofs.DateWindows
import ChannelSearch.Proofs.PageReads
import ChannelSearch.Proofs.TextConditions

/-!
The query of a search of posts. Main statements: inside the limits of the calendar and of the store it
is made and accepted, and its conditions ask of a post what the search asks of it.
-/

namespace ChannelSearch

open Condition (maxHeight)

/-- What a search asks of a post, its channel aside. Without a list of authors anyone may have written
it. -/
@[mk_iff isWanted_iff]
structure Post.IsWanted (p : Post) (s : Store) (c : SearchContext) (byUsername : Bool)
    (first : SearchRequest) (rest : List SearchRequest) : Prop where
  live : p.deleteAt = 0
  notSystem : ¬ "system_".toList <+: p.kind.folded
  author : first.fromUsers ≠ [] ∨ first.excludedUsers ≠ [] →
    ∃ u : User, u.IsWanted s c.teamId first byUsername ∧ u.id = p.userId
  dates : first.InDates c.now p.createAt
  text : (Tokens.sought (MergedText.ofRequests (first :: rest))).Match first.orTerms p.message.lower

instance (p : Post) (s : Store) (c : SearchContext) (byUsername : Bool) (first : SearchRequest)
    (rest : List SearchRequest) : Decidable (p.IsWanted s c byUsername first rest) :=
  have : Decidable (∃ u : User, u.IsWanted s c.teamId first byUsername ∧ u.id = p.userId) :=
    decidable_of_iff (∃ u ∈ s.users, u.IsWanted s c.teamId first byUsername ∧ u.id = p.userId)
      ⟨fun ⟨u, _, h⟩ => ⟨u, h⟩, fun ⟨u, h⟩ => ⟨u, h.1.stored, h⟩⟩
  decidable_of_iff' _ (Post.isWanted_iff ..)

/-- The search is not cancelled, its page and its dates are not out of range, and the condition on
messages leaves room for the other conditions of the query and has no pattern that is too long. -/
@[mk_iff inLimits_iff]
structure SearchContext.InLimits (c : SearchContext) (first : SearchRequest)
    (rest : List SearchRequest) : Prop where
  uncancelled : c.cancellation = .never
  offset : c.pageNumber * c.limit < 2 ^ 63
  dates : first.InCalendar c.now
  height : ∀ x ∈ PostQuery.textCondition? (first :: rest) first.orTerms, x.height + 8 ≤ maxHeight
  patterns : ∀ x ∈ PostQuery.textCondition? (first :: rest) first.orTerms,
    ∀ t ∈ x.tests, Condition.isOverlong t = false

instance (c : SearchContext) (first : SearchRequest) (rest : List SearchRequest) :
    Decidable (c.InLimits first rest) := decidable_of_iff' _ (SearchContext.inLimits_iff ..)

/-- The same limits, but that the offset of the time zone counts only where there is a date. -/
@[mk_iff inPostLimits_iff]
structure SearchContext.InPostLimits (c : SearchContext) (first : SearchRequest)
    (rest : List SearchRequest) : Prop where
  uncancelled : c.cancellation = .never
  offset : c.pageNumber * c.limit < 2 ^ 63
  dates : first.DatesFit c.now
  height : ∀ x ∈ PostQuery.textCondition? (first :: rest) first.orTerms, x.height + 8 ≤ maxHeight
  patterns : ∀ x ∈ PostQuery.textCondition? (first :: rest) first.orTerms,
    ∀ t ∈ x.tests, Condition.isOverlong t = false

instance (c : SearchContext) (first : SearchRequest) (rest : List SearchRequest) :
    Decidable (c.InPostLimits first rest) := decidable_of_iff' _ (SearchContext.inPostLimits_iff ..)

theorem SearchContext.InLimits.inPostLimits {c : SearchContext} {first : SearchRequest}
    {rest : List SearchRequest} (h : c.InLimits first rest) : c.InPostLimits first rest :=
  ⟨h.uncancelled, h.offset, h.dates.datesFit, h.height, h.patterns⟩

namespace Tokens

variable {C : Type} {tokens : Tokens} {column : C} {orTerms : Bool} {x : Condition C}

theorem bindable_ofTokens? {name : C → Text} (hname : ∀ c, '?' ∉ name c)
    (h : Condition.ofTokens? tokens column orTerms = some x) : (x.clause name).Bindable := by
  have hescape : messageEscape ≠ '?' := by decide
  refine forall_ofTokens? (P := fun x => (x.clause name).Bindable) (fun _ _ => ?_) (fun _ _ => ?_)
    (fun _ _ _ => Condition.group_bindable) (fun _ _ _ => Condition.both_bindable) h
  · exact Condition.test_bindable hname hescape
  · exact Condition.test_bindable hname hescape

/-- No select of users is part of the condition of tokens, and it is one operand or two. -/
theorem nesting_ofTokens? (h : Condition.ofTokens? tokens column orTerms = some x) :
    x.nesting = 0 ∧ x.operandHeights.length ≤ 2 := by
  refine forall_ofTokens? (P := fun x => x.nesting = 0 ∧ x.operandHeights.length ≤ 2)
    (fun _ _ => ?_) (fun _ _ => ?_) (fun op xs _ hxs => ?_) (fun op xs ys hxs hys => ?_) h
  · simp [Condition.like, Condition.nesting, Condition.testNesting, Condition.operandHeights]
  · simp [Condition.unlike, Condition.nesting, Condition.testNesting, Condition.operandHeights]
  · exact ⟨Condition.nesting_group fun y hy => (hxs y hy).1, by simp [Condition.operandHeights]⟩
  · exact ⟨by rw [Condition.nesting, hxs.1, hys.1, Nat.max_self],
      by simp [Condition.operandHeights]⟩

end Tokens

namespace PostQuery

theorem not_mem_name (column : PostColumn) : '?' ∉ column.name := by cases column <;> decide

/-- The kinds of posts that the system writes start with its name. -/
theorem likeText_systemKind (kind : Text) :
    Sql.likeText Tokens.messageEscape systemKindPattern kind = true ↔
      "system_".toList <+: kind.folded := by
  have hpattern : systemKindPattern =
      Text.guarded Tokens.messageEscape "system_".toList ++ ['%'] := by decide
  have hfold : Text.folded "system_".toList = "system_".toList := by decide
  rw [hpattern, Sql.likeText_leading (by decide) (by decide), hfold]

/-- A message satisfies the condition of the texts when its lower case matches their tokens. -/
theorem holds_textCondition? {users : UserQuery → List Text} {p : Post}
    {requests : List SearchRequest} {orTerms : Bool} :
    (∀ x ∈ textCondition? requests orTerms, x.holds users p.values = true) ↔
      (Tokens.sought (MergedText.ofRequests requests)).Match orTerms p.message.lower := by
  rw [textCondition?_eq]
  cases h : Condition.ofTokens? (Tokens.sought (MergedText.ofRequests requests)).escaped
      PostColumn.message orTerms with
  | none =>
    obtain ⟨hwanted, hunwanted⟩ := Tokens.ofTokens?_eq_none.mp h
    simp [Tokens.Match, hwanted, hunwanted]
  | some x =>
    have hholds : x.holds users p.values = true ↔
        (Tokens.sought (MergedText.ofRequests requests)).Match orTerms p.message.lower :=
      Tokens.holds_ofTokens? h
    simpa using hholds

/-- The conditions of a search on a post, its channel aside. -/
def wantedConditions (c : SearchContext) (byUsername : Bool) (first : SearchRequest)
    (rest : List SearchRequest) : List (Condition PostColumn) :=
  [.test (.isZero .deleteAt), .test (.unlike (.column .kind) Tokens.messageEscape systemKindPattern)] ++
    userConditions .userId c.teamId first byUsername ++
      (first.dateTests c.now .createAt).map .test ++
        (textCondition? (first :: rest) first.orTerms).toList

/-- The query of a search that asks for something, before the channels that it reads are known. -/
def wanted (c : SearchContext) (byUsername : Bool) (first : SearchRequest)
    (rest : List SearchRequest) : PostQuery :=
  { conditions := wantedConditions c byUsername first rest
    limit := c.limit
    offset := pageOffset c.pageNumber c.limit }

/-- There is no query where the texts ask for nothing and no filter is set. -/
def wanted? (c : SearchContext) (byUsername : Bool) (first : SearchRequest)
    (rest : List SearchRequest) : Option PostQuery :=
  if (Tokens.sought (MergedText.ofRequests (first :: rest))).AskNothing ∧ first.hasFilters = false
  then none else some (wanted c byUsername first rest)

variable {s : Store} {c : SearchContext} {byUsername : Bool} {first : SearchRequest}
  {rest : List SearchRequest}

theorem build?_ok (h : first.DatesFit c.now) (byUsername : Bool) (rest : List SearchRequest) :
    (build? c.teamId (first :: rest) c.pageNumber c.limit byUsername c.now).result =
      .ok (wanted? c byUsername first rest) := by
  have hnone : ((textCondition? (first :: rest) first.orTerms).isNone && !first.hasFilters) = true ↔
      (Tokens.sought (MergedText.ofRequests (first :: rest))).AskNothing ∧
        first.hasFilters = false := by
    rw [Bool.and_eq_true, Option.isNone_iff_eq_none, textCondition?_eq, Tokens.ofTokens?_eq_none,
      Bool.not_eq_true']
  unfold build? wanted?
  simp only [Traced.result_bind, Traced.result_mapError, h.dateConditions_ok.1,
    Except.mapError, ok_bind, hnone]
  split_ifs <;> rfl

theorem holds_wantedConditions {p : Post} :
    (∀ x ∈ wantedConditions c byUsername first rest, x.holds s.userIds p.values = true) ↔
      p.IsWanted s c byUsername first rest := by
  have hlive : (Condition.test (Sql.Test.isZero PostColumn.deleteAt)).holds s.userIds p.values = true ↔
      p.deleteAt = 0 := by
    simp [Sql.Test.holds, Post.values]
  have hkind : (Condition.test (Sql.Test.unlike (.column PostColumn.kind) Tokens.messageEscape
      systemKindPattern)).holds s.userIds p.values = true ↔ ¬ "system_".toList <+: p.kind.folded := by
    rw [← likeText_systemKind, Condition.holds_test, Sql.Test.holds, Bool.not_eq_true',
      Bool.not_eq_true]
    rfl
  have hdates : (∀ x ∈ (first.dateTests c.now PostColumn.createAt).map Condition.test,
      x.holds s.userIds p.values = true) ↔ first.InDates c.now p.createAt := by
    rw [List.forall_mem_map]
    simp only [Condition.holds_test]
    exact SearchRequest.holds_dateTests rfl
  have hauthor : p.values .userId = .text p.userId := rfl
  rw [wantedConditions]
  simp only [List.forall_mem_append, List.forall_mem_cons, Option.mem_toList, hlive, hkind, hdates,
    holds_userConditions hauthor]
  constructor
  · rintro ⟨⟨⟨⟨hlive, hkind, -⟩, hauthor⟩, hdates⟩, htext⟩
    exact ⟨hlive, hkind, hauthor, hdates, holds_textCondition?.mp htext⟩
  · intro h
    exact ⟨⟨⟨⟨h.live, h.notSystem, by simp⟩, h.author⟩, h.dates⟩, holds_textCondition?.mpr h.text⟩

theorem isOverlong_wantedConditions (h : c.InPostLimits first rest) :
    ∀ x ∈ wantedConditions c byUsername first rest, ∀ t ∈ x.tests, Condition.isOverlong t = false := by
  have htest (t : Sql.Test PostColumn) (ht : Condition.isOverlong t = false) :
      ∀ u ∈ (Condition.test t).tests, Condition.isOverlong u = false := by
    rw [Condition.tests]
    exact List.forall_mem_singleton.mpr ht
  rw [wantedConditions]
  simp only [List.forall_mem_append, List.forall_mem_cons, Option.mem_toList, List.forall_mem_map]
  refine ⟨⟨⟨⟨htest _ rfl, htest _ (by decide), by simp⟩, fun x hx t ht => ?_⟩, fun t ht => ?_⟩,
    h.patterns⟩
  · rw [tests_userConditions x hx] at ht
    cases ht
  · apply htest
    rw [Condition.isOverlong, SearchRequest.pattern_dateTests t ht]

/-- There is room for the condition on channels, and for the selects inside the conditions. -/
theorem spans_wantedConditions (h : ∀ x ∈ textCondition? (first :: rest) first.orTerms,
    x.height + 8 ≤ maxHeight) :
    Condition.Spans (wantedConditions c byUsername first rest) 7 (maxHeight - 7) := by
  have hstored : Condition.Spans [.test (.isZero PostColumn.deleteAt)] 1 3 :=
    Condition.spans_test (le_refl 3)
  have hkind : Condition.Spans [.test (.unlike (.column PostColumn.kind) Tokens.messageEscape
      systemKindPattern)] 1 4 := Condition.spans_test (le_refl 4)
  have htext : Condition.Spans (textCondition? (first :: rest) first.orTerms).toList 2
      (maxHeight - 8) := by
    cases htext : textCondition? (first :: rest) first.orTerms with
    | none => exact Condition.spans_nil ..
    | some x =>
      have hheight := h x htext
      rw [textCondition?_eq] at htext
      constructor
      · rw [Option.toList_some, Condition.heights_singleton]
        exact (Tokens.nesting_ofTokens? htext).2
      · rw [Option.toList_some, Condition.heights_singleton, ← Condition.height]
        omega
  exact (((hstored.append hkind).append spans_userConditions).append
    SearchRequest.spans_dateTests).append htext

/-- The only select inside the conditions is that of the authors. -/
theorem nesting_wantedConditions :
    ∀ x ∈ wantedConditions c byUsername first rest, x.nesting ≤ 6 := by
  rw [wantedConditions]
  simp only [List.forall_mem_append, List.forall_mem_cons, Option.mem_toList]
  refine ⟨⟨⟨⟨?_, ?_, by simp⟩, nesting_userConditions⟩, SearchRequest.nesting_dateTests⟩, fun x hx => ?_⟩
  · exact Nat.zero_le _
  · exact Nat.zero_le _
  · rw [textCondition?_eq] at hx
    rw [(Tokens.nesting_ofTokens? hx).1]
    exact Nat.zero_le _

end PostQuery

end ChannelSearch
