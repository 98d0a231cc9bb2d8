import ChannelSearch.Proofs.FileQueries
import ChannelSearch.Proofs.PostQueries

/-!
The queries that searches build. Main statements: a query is built exactly when a text or a filter
asks for something, and what is built is sent to the reader as it stands, whatever its dates are.
-/

namespace ChannelSearch

open Sql

/-- The statement of a select that passes its checks. -/
def Sql.Select.sent (q : Select) : Statement := ⟨q.clause.text, q.clause.args⟩

/-- A select with as many marks as arguments in each condition is sent as it stands. -/
theorem Sql.Select.statement_of_balanced {q : Select} (hcolumns : q.columns ≠ [])
    (hsource : q.source ≠ []) (hhead : ∀ t ∈ q.source :: q.columns, '?' ∉ t)
    (hwheres : ∀ c ∈ q.wheres, c.Balanced) (horder : '?' ∉ q.orderBy)
    (hlimit : q.limit.isSome = true ∨ q.offset = none) :
    q.statement = .ok q.sent ∧ q.clause.Balanced :=
  ⟨statement_ok hcolumns hsource hwheres hlimit, clause_balanced hhead hwheres horder⟩

namespace ScopeQuery

theorem bindable_build (user team : Text) (r : SearchRequest) (byName : Bool) :
    ∀ x ∈ (build user team r byName).conditions, (x.clause Column.text).Bindable := by
  have hname (column : Column) : '?' ∉ column.text := by cases column <;> decide
  have hone (t : Sql.Test Column) (ht : t.Binds) :
      ∀ x ∈ [Condition.test t], (x.clause Column.text).Bindable :=
    List.forall_mem_singleton.mpr (Condition.test_bindable hname ht)
  have htwo (t u : Sql.Test Column) (ht : t.Binds) (hu : u.Binds) :
      ∀ x ∈ [Condition.test t, .test u], (x.clause Column.text).Bindable :=
    List.forall_mem_cons.mpr ⟨Condition.test_bindable hname ht, hone u hu⟩
  have hnil : ∀ x ∈ ([] : List (Condition Column)), (x.clause Column.text).Bindable := by simp
  rw [build]
  simp only [List.forall_mem_append]
  refine ⟨⟨⟨⟨?_, ?_⟩, ?_⟩, ?_⟩, ?_⟩
  · split
    · exact hnil
    · exact htwo _ _ trivial trivial
  · split
    · exact hnil
    · exact hone _ trivial
  · unfold teamConditions
    split
    · exact hnil
    · exact List.forall_mem_singleton.mpr (Condition.group_bindable (htwo _ _ trivial trivial))
  · split
    · exact hnil
    · exact hone _ trivial
  · split
    · exact hnil
    · exact hone _ trivial

/-- The channels in scope are asked for, whatever the lists of channels hold. -/
theorem statement_build (user team : Text) (r : SearchRequest) (byName : Bool) :
    (build user team r byName).select.statement = .ok (build user team r byName).select.sent ∧
      (build user team r byName).select.clause.Balanced := by
  generalize hq : build user team r byName = q
  have hconditions : ∀ x ∈ q.conditions, (x.clause Column.text).Balanced :=
    fun x hx => (bindable_build user team r byName x (hq ▸ hx)).balanced
  have hsource : q.select.source ≠ [] ∧ '?' ∉ q.select.source := by
    unfold select
    dsimp only
    split_ifs <;> decide
  have hcolumns : ∀ t ∈ q.select.columns, '?' ∉ t := List.forall_mem_singleton.mpr (by decide)
  exact Select.statement_of_balanced (List.cons_ne_nil _ _) hsource.1
    (List.forall_mem_cons.mpr ⟨hsource.2, hcolumns⟩) (Condition.forall_mem_clauses hconditions)
    List.not_mem_nil (Or.inr rfl)

end ScopeQuery

namespace SearchRequest

variable {C : Type} {column : C} {now : Int} {r : SearchRequest}

/-- The conditions on dates are bounds: of one day, or after a day and before a day. -/
theorem dateConditions_bounds {dates : List (Condition C)}
    (h : (r.dateConditions now column).result = .ok dates) :
    (r.onDate ≠ [] ∧ ∃ low high, dates = [.test (.between column low high)]) ∨
      r.onDate = [] ∧ ∃ after before : Int,
        dates = (if r.afterDate = [] then [] else [.test (.atLeast column after)]) ++
          if r.beforeDate = [] then [] else [.test (.atMost column before)] := by
  have hbound {date : Text} {test : Int → Sql.Test C} {millis : Traced DateError Int}
      {bounds : List (Condition C)} (h : (boundConditions date test millis).result = .ok bounds) :
      ∃ n, bounds = if date = [] then [] else [.test (test n)] := by
    unfold boundConditions at h
    split_ifs at h with hdate
    · refine ⟨0, ?_⟩
      rw [if_pos (List.isEmpty_iff.mp hdate)]
      exact (Except.ok.inj h).symm
    · obtain ⟨n, -, h⟩ := Traced.result_bind_eq_ok.mp h
      refine ⟨n, ?_⟩
      rw [if_neg (by simpa using hdate)]
      exact (Except.ok.inj h).symm
  by_cases hon : r.onDate = []
  · rw [dateConditions_of_not_on hon] at h
    obtain ⟨after, hafter, h⟩ := Traced.result_bind_eq_ok.mp h
    obtain ⟨before, hbefore, h⟩ := Traced.result_bind_eq_ok.mp h
    obtain ⟨n, rfl⟩ := hbound hafter
    obtain ⟨m, rfl⟩ := hbound hbefore
    exact Or.inr ⟨hon, n, m, (Except.ok.inj h).symm⟩
  · rw [dateConditions_of_on hon] at h
    obtain ⟨⟨low, high⟩, -, h⟩ := Traced.result_bind_eq_ok.mp h
    exact Or.inl ⟨hon, low, high, (Except.ok.inj h).symm⟩

theorem balanced_dateConditions {name : C → Text} (hname : ∀ c, '?' ∉ name c)
    {dates : List (Condition C)} (h : (r.dateConditions now column).result = .ok dates) :
    ∀ x ∈ dates, (x.clause name).Balanced := by
  rcases dateConditions_bounds h with ⟨-, low, high, rfl⟩ | ⟨-, after, before, rfl⟩
  · exact List.forall_mem_singleton.mpr (Condition.test_balanced hname trivial)
  · refine List.forall_mem_append.mpr ⟨?_, ?_⟩
    · split_ifs
      · simp
      · exact List.forall_mem_singleton.mpr (Condition.test_balanced hname trivial)
    · split_ifs
      · simp
      · exact List.forall_mem_singleton.mpr (Condition.test_balanced hname trivial)

/-- Without a filter there is no date. -/
theorem dateConditions_of_not_hasFilters (h : r.hasFilters = false) :
    r.dateConditions now column = pure [] := by
  obtain ⟨hon, hafter, hbefore⟩ := dates_of_not_hasFilters h
  unfold dateConditions
  rw [hon, hafter, hbefore]
  rfl

/-- What is made of the conditions on dates is made where their days lie in the calendar. -/
theorem map_dateConditions (h : -86400 < r.timeZoneOffset ∧ r.timeZoneOffset < 86400) {α : Type}
    (f : List (Condition C) → α) :
    ((r.dateConditions now column).result.mapError SearchError.date).map f =
      if r.HasBounds now then .ok (f ((r.dateTests now column).map .test))
      else .error (.date .outOfRange) := by
  rw [dateConditions_eq h]
  split_ifs <;> rfl

end SearchRequest

namespace SearchContext

theorem limit_bounds (c : SearchContext) : 0 < c.limit ∧ c.limit ≤ 60 := by
  unfold limit clampPerPage maxPerPage
  split_ifs with h
  · decide
  · simp only [Bool.or_eq_true, decide_eq_true_eq, not_or] at h
    omega

theorem pageNumber_nonneg (c : SearchContext) : 0 ≤ c.pageNumber := le_max_right c.page 0

/-- The first page starts at the first row, as the others at theirs. -/
theorem getD_pageOffset (c : SearchContext) :
    (pageOffset c.pageNumber c.limit).getD 0 = c.pageNumber * c.limit := by
  unfold pageOffset
  split_ifs with h
  · rfl
  · have hzero : c.pageNumber = 0 := le_antisymm (not_lt.mp h) c.pageNumber_nonneg
    rw [hzero, Int.zero_mul]
    rfl

theorem fitsStore_limit (c : SearchContext) : fitsStore c.limit = true := by
  obtain ⟨hpos, hle⟩ := c.limit_bounds
  exact fitsStore_iff.mpr (by omega)

/-- The first row of the page is counted beyond the integers of the store. -/
def BeyondStore (c : SearchContext) : Prop := 2 ^ 63 ≤ c.pageNumber * c.limit

instance (c : SearchContext) : Decidable c.BeyondStore := inferInstanceAs (Decidable (_ ≤ _))

theorem exists_unfit_pageOffset (c : SearchContext) :
    (∃ n ∈ pageOffset c.pageNumber c.limit, fitsStore n = false) ↔ c.BeyondStore := by
  have hfirst := Int.mul_nonneg c.pageNumber_nonneg c.limit_bounds.1.le
  have hunfit : fitsStore (c.pageNumber * c.limit) = false ↔ c.BeyondStore := by
    rw [← Bool.not_eq_true, fitsStore_iff, BeyondStore]
    omega
  unfold pageOffset
  split_ifs with hpage
  · simpa using hunfit
  · have hzero : c.pageNumber = 0 := le_antisymm (not_lt.mp hpage) c.pageNumber_nonneg
    simp [BeyondStore, hzero]

theorem fitsStore_pageOffset {c : SearchContext} (h : c.pageNumber * c.limit < 2 ^ 63) :
    ∀ n ∈ pageOffset c.pageNumber c.limit, fitsStore n = true := by
  intro n hn
  by_contra hfits
  have hbeyond := c.exists_unfit_pageOffset.mp ⟨n, hn, Bool.not_eq_true _ ▸ hfits⟩
  exact absurd h (not_lt.mpr hbeyond)

end SearchContext

namespace PageQuery

variable {C : Type} {name : C → Text} {q : PageQuery C} {column : C} {ids : List Text}

theorem balanced_within (hname : ∀ c, '?' ∉ name c)
    (h : ∀ x ∈ q.conditions, (x.clause name).Balanced) :
    ∀ x ∈ (q.within column ids).conditions, (x.clause name).Balanced :=
  List.forall_mem_append.mpr
    ⟨h, List.forall_mem_singleton.mpr (Condition.test_balanced hname trivial)⟩

theorem bindable_within (hname : ∀ c, '?' ∉ name c)
    (h : ∀ x ∈ q.conditions, (x.clause name).Bindable) :
    ∀ x ∈ (q.within column ids).conditions, (x.clause name).Bindable :=
  List.forall_mem_append.mpr
    ⟨h, List.forall_mem_singleton.mpr (Condition.test_bindable hname trivial)⟩

end PageQuery

variable {c : SearchContext} {byUsername : Bool} {first : SearchRequest} {rest : List SearchRequest}
  {ids : List Text}

namespace PostQuery

/-- A search of posts asks for something: by the texts of all requests or by a filter of the first. -/
def Asks (requests : List SearchRequest) : Prop :=
  ∃ first ∈ requests.head?,
    (textCondition? requests first.orTerms).isSome = true ∨ first.hasFilters = true

instance (requests : List SearchRequest) : Decidable (Asks requests) := by
  unfold Asks
  cases requests <;> simp only [List.head?_nil, List.head?_cons] <;> infer_instance

theorem asks_cons : Asks (first :: rest) ↔
    (textCondition? (first :: rest) first.orTerms).isSome = true ∨ first.hasFilters = true := by
  simp [Asks]

theorem not_asks_of_isEmpty {requests : List SearchRequest} (h : requests.all (·.isEmpty) = true) :
    ¬ Asks requests := by
  rintro ⟨first, hfirst, hask⟩
  have hempty := List.all_eq_true.mp h first (List.mem_of_mem_head? hfirst)
  simp only [SearchRequest.isEmpty, Bool.not_or, Bool.and_eq_true, Bool.not_eq_true'] at hempty
  rw [textCondition?_eq, Tokens.ofTokens?_eq_none.mpr (askNothing_of_isEmpty h), hempty.2] at hask
  simp at hask

/-- The query of a search with its conditions on dates, before the channels are known. -/
def ofDates (c : SearchContext) (byUsername : Bool) (first : SearchRequest)
    (rest : List SearchRequest) (dates : List (Condition PostColumn)) : PostQuery :=
  { conditions :=
      [.test (.isZero .deleteAt),
          .test (.unlike (.column .kind) Tokens.messageEscape systemKindPattern)] ++
        userConditions .userId c.teamId first byUsername ++ dates ++
          (textCondition? (first :: rest) first.orTerms).toList
    limit := c.limit
    offset := pageOffset c.pageNumber c.limit }

/-- A query is built once the dates are, if the search asks for something. -/
theorem build?_result :
    (build? c.teamId (first :: rest) c.pageNumber c.limit byUsername c.now).result =
      ((first.dateConditions c.now .createAt).result.mapError .date).map fun dates =>
        if Asks (first :: rest) then some (ofDates c byUsername first rest dates) else none := by
  unfold build?
  simp only [Traced.result_bind, Traced.result_mapError]
  cases (first.dateConditions c.now PostColumn.createAt).result with
  | error e => rfl
  | ok dates =>
    have hnone : ((textCondition? (first :: rest) first.orTerms).isNone && !first.hasFilters) = true ↔
        ¬ Asks (first :: rest) := by
      rw [asks_cons, Bool.and_eq_true, Bool.not_eq_true', not_or, Option.isNone_iff_eq_none,
        Option.not_isSome_iff_eq_none, Bool.not_eq_true]
    show Traced.result _ = Except.ok (if Asks (first :: rest) then _ else _)
    by_cases hask : Asks (first :: rest)
    · rw [if_neg (hnone.not.mpr (not_not.mpr hask)), if_pos hask]
      rfl
    · rw [if_pos (hnone.mpr hask), if_neg hask]
      rfl

/-- Inside the calendar it has the tests of the dates. -/
theorem build?_eq (h : -86400 < first.timeZoneOffset ∧ first.timeZoneOffset < 86400)
    (c : SearchContext) (byUsername : Bool) (rest : List SearchRequest) :
    (build? c.teamId (first :: rest) c.pageNumber c.limit byUsername c.now).result =
      if first.HasBounds c.now then
        .ok (if Asks (first :: rest) then some (wanted c byUsername first rest) else none)
      else .error (.date .outOfRange) :=
  build?_result.trans (SearchRequest.map_dateConditions h _)

theorem build?_of_not_asks (h : ¬ Asks (first :: rest)) :
    (build? c.teamId (first :: rest) c.pageNumber c.limit byUsername c.now).result = .ok none := by
  have hfilters : first.hasFilters = false := by
    rw [asks_cons, not_or, Bool.not_eq_true, Bool.not_eq_true] at h
    exact h.2
  rw [build?_result, SearchRequest.dateConditions_of_not_hasFilters hfilters]
  exact congrArg Except.ok (if_neg h)

theorem build?_of_asks (h : first.DatesFit c.now) (hask : Asks (first :: rest)) (byUsername : Bool) :
    (build? c.teamId (first :: rest) c.pageNumber c.limit byUsername c.now).result =
      .ok (some (wanted c byUsername first rest)) := by
  have hdates : (first.dateConditions c.now PostColumn.createAt).result =
      .ok ((first.dateTests c.now .createAt).map .test) := h.dateConditions_ok.1
  rw [build?_result, hdates]
  exact congrArg Except.ok (if_pos hask)

theorem datesFit_of_build? {q? : Option PostQuery}
    (h : (build? c.teamId (first :: rest) c.pageNumber c.limit byUsername c.now).result = .ok q?) :
    first.DatesFit c.now := by
  rw [build?_result] at h
  obtain ⟨dates, hdates, -⟩ := map_eq_ok.mp h
  exact SearchRequest.datesFit_of_dateConditions (mapError_eq_ok.mp hdates)

theorem eq_of_build? {q : PostQuery}
    (h : (build? c.teamId (first :: rest) c.pageNumber c.limit byUsername c.now).result =
      .ok (some q)) :
    ∃ dates, (first.dateConditions c.now PostColumn.createAt).result = .ok dates ∧
      q = ofDates c byUsername first rest dates := by
  rw [build?_result] at h
  obtain ⟨dates, hdates, h⟩ := map_eq_ok.mp h
  split_ifs at h
  exact ⟨dates, mapError_eq_ok.mp hdates, (Option.some.inj h).symm⟩

/-- What holds of bindable clauses and of the conditions on dates holds of the conditions of a query. -/
theorem forall_ofDates {p : Clause → Prop} (hp : ∀ w : Clause, w.Bindable → p w)
    {dates : List (Condition PostColumn)} (hdates : ∀ x ∈ dates, p (x.clause PostColumn.name)) :
    ∀ x ∈ (ofDates c byUsername first rest dates).conditions, p (x.clause PostColumn.name) := by
  unfold ofDates
  simp only [List.forall_mem_append, List.forall_mem_cons, Option.mem_toList]
  refine ⟨⟨⟨⟨?_, ?_, by simp⟩, fun x hx => ?_⟩, hdates⟩, fun x hx => ?_⟩
  · exact hp _ (Condition.test_bindable not_mem_name trivial)
  · exact hp _ (Condition.test_bindable not_mem_name (by decide : Tokens.messageEscape ≠ '?'))
  · exact hp _ (bindable_userConditions not_mem_name x hx)
  · rw [textCondition?_eq] at hx
    exact hp _ (Tokens.bindable_ofTokens? not_mem_name hx)

theorem balanced_ofDates {dates : List (Condition PostColumn)}
    (h : (first.dateConditions c.now PostColumn.createAt).result = .ok dates) :
    ∀ x ∈ (ofDates c byUsername first rest dates).conditions, (x.clause PostColumn.name).Balanced :=
  forall_ofDates (fun _ hw => hw.balanced) (SearchRequest.balanced_dateConditions not_mem_name h)

theorem bindable_wanted (hoffset : -86400 < first.timeZoneOffset ∧ first.timeZoneOffset < 86400)
    (hbounds : first.HasBounds c.now) :
    ∀ x ∈ (wanted c byUsername first rest).conditions, (x.clause PostColumn.name).Bindable := by
  refine forall_ofDates (fun _ hw => hw) (List.forall_mem_map.mpr fun t ht => ?_)
  exact Condition.test_bindable not_mem_name (SearchRequest.binds_dateTests hoffset hbounds t ht)

theorem not_mem_replyCountColumn : '?' ∉ replyCountColumn := by
  unfold replyCountColumn
  simp only [String.toList_append, List.mem_append, not_or]
  refine ⟨⟨?_, ?_⟩, ?_⟩ <;> decide

theorem not_mem_head (q : PostQuery) : ∀ t ∈ (select q).source :: (select q).columns, '?' ∉ t := by
  have hcolumns : ∀ t ∈ ["q2.*".toList, replyCountColumn], '?' ∉ t :=
    List.forall_mem_cons.mpr ⟨by decide, List.forall_mem_singleton.mpr not_mem_replyCountColumn⟩
  refine List.forall_mem_cons.mpr ⟨?_, hcolumns⟩
  rw [select]
  exact (by decide : '?' ∉ "posts q2".toList)

theorem not_mem_orderBy (q : PostQuery) : '?' ∉ (select q).orderBy := by
  rw [select]
  exact (by decide : '?' ∉ "q2.create_at DESC".toList)

theorem statement_select {q : PostQuery}
    (h : ∀ x ∈ q.conditions, (x.clause PostColumn.name).Balanced) :
    (select q).statement = .ok (select q).sent ∧ (select q).clause.Balanced :=
  Select.statement_of_balanced (List.cons_ne_nil _ _) (List.cons_ne_nil _ _) (not_mem_head q)
    (Condition.forall_mem_clauses h) (not_mem_orderBy q) (Or.inl rfl)

theorem bindable_select {q : PostQuery}
    (h : ∀ x ∈ q.conditions, (x.clause PostColumn.name).Bindable)
    (hlimit : fitsStore q.limit = true) (hoffset : ∀ n ∈ q.offset, fitsStore n = true) :
    (select q).clause.Bindable := by
  have hlimit : ∀ n ∈ (select q).limit, fitsStore n = true :=
    fun n hn => Option.some.inj hn ▸ hlimit
  exact Select.clause_bindable (not_mem_head q) (Condition.forall_mem_clauses h)
    (not_mem_orderBy q) hlimit hoffset

/-- A query that is built is sent, within whatever channels. -/
theorem statement_within {q : PostQuery}
    (h : (build? c.teamId (first :: rest) c.pageNumber c.limit byUsername c.now).result =
      .ok (some q)) (ids : List Text) :
    (select (q.within .channelId ids)).statement = .ok (select (q.within .channelId ids)).sent ∧
      (select (q.within .channelId ids)).clause.Balanced := by
  obtain ⟨dates, hdates, rfl⟩ := eq_of_build? h
  exact statement_select (PageQuery.balanced_within not_mem_name (balanced_ofDates hdates))

end PostQuery

namespace FileQuery

/-- A search of files asks for something: by the texts of all requests, or by a filter or the
extensions of the first. -/
def Asks (requests : List SearchRequest) : Prop :=
  ∃ first ∈ requests.head?, (textCondition? requests first.orTerms).isSome = true ∨
    first.hasFilters = true ∨ first.extensions ≠ []

instance (requests : List SearchRequest) : Decidable (Asks requests) := by
  unfold Asks
  cases requests <;> simp only [List.head?_nil, List.head?_cons] <;> infer_instance

theorem asks_cons : Asks (first :: rest) ↔
    (textCondition? (first :: rest) first.orTerms).isSome = true ∨
      first.hasFilters = true ∨ first.extensions ≠ [] := by
  simp [Asks]

theorem not_asks_of_isEmpty {requests : List SearchRequest}
    (h : requests.all (fun r => r.isEmpty && r.extensions.isEmpty) = true) : ¬ Asks requests := by
  have hboth (r : SearchRequest) (hr : r ∈ requests) : r.isEmpty = true ∧ r.extensions = [] := by
    have hempty := List.all_eq_true.mp h r hr
    rwa [Bool.and_eq_true, List.isEmpty_iff] at hempty
  have hrequests : requests.all (·.isEmpty) = true :=
    List.all_eq_true.mpr fun r hr => (hboth r hr).1
  rintro ⟨first, hfirst, hask⟩
  obtain ⟨hempty, hextensions⟩ := hboth first (List.mem_of_mem_head? hfirst)
  simp only [SearchRequest.isEmpty, Bool.not_or, Bool.and_eq_true, Bool.not_eq_true'] at hempty
  rw [textCondition?_of_isEmpty hrequests, hempty.2, hextensions] at hask
  simp at hask

/-- The query of a search with its conditions on dates, before the channels are known. -/
def ofDates (c : SearchContext) (byUsername : Bool) (first : SearchRequest)
    (rest : List SearchRequest) (dates : List (Condition FileColumn)) : FileQuery :=
  { conditions :=
      [.test (.isZero .deleteAt)] ++ userConditions .creatorId c.teamId first byUsername ++ dates ++
        extensionConditions first ++ (textCondition? (first :: rest) first.orTerms).toList
    limit := c.limit
    offset := pageOffset c.pageNumber c.limit }

/-- The query of a search that asks for something, before the channels that it reads are known. -/
def wanted (c : SearchContext) (byUsername : Bool) (first : SearchRequest)
    (rest : List SearchRequest) : FileQuery :=
  ofDates c byUsername first rest ((first.dateTests c.now .createAt).map .test)

/-- A query is built once the dates are, if the search asks for something. -/
theorem build?_result :
    (build? c first (first :: rest) byUsername).result =
      ((first.dateConditions c.now .createAt).result.mapError .date).map fun dates =>
        if Asks (first :: rest) then some (ofDates c byUsername first rest dates) else none := by
  unfold build?
  simp only [Traced.result_bind, Traced.result_mapError]
  cases (first.dateConditions c.now FileColumn.createAt).result with
  | error e => rfl
  | ok dates =>
    have hnone : ((textCondition? (first :: rest) first.orTerms).isNone && !first.hasFilters &&
        first.extensions.isEmpty) = true ↔ ¬ Asks (first :: rest) := by
      rw [asks_cons, Bool.and_eq_true, Bool.and_eq_true, Bool.not_eq_true', not_or, not_or, not_not,
        Option.isNone_iff_eq_none, Option.not_isSome_iff_eq_none, Bool.not_eq_true,
        List.isEmpty_iff, and_assoc]
    show Traced.result _ = Except.ok (if Asks (first :: rest) then _ else _)
    by_cases hask : Asks (first :: rest)
    · rw [if_neg (hnone.not.mpr (not_not.mpr hask)), if_pos hask]
      rfl
    · rw [if_pos (hnone.mpr hask), if_neg hask]
      rfl

/-- Inside the calendar it has the tests of the dates. -/
theorem build?_eq (h : -86400 < first.timeZoneOffset ∧ first.timeZoneOffset < 86400)
    (c : SearchContext) (byUsername : Bool) (rest : List SearchRequest) :
    (build? c first (first :: rest) byUsername).result =
      if first.HasBounds c.now then
        .ok (if Asks (first :: rest) then some (wanted c byUsername first rest) else none)
      else .error (.date .outOfRange) :=
  build?_result.trans (SearchRequest.map_dateConditions h _)

theorem build?_of_not_asks (h : ¬ Asks (first :: rest)) :
    (build? c first (first :: rest) byUsername).result = .ok none := by
  have hfilters : first.hasFilters = false := by
    rw [asks_cons, not_or, not_or, Bool.not_eq_true, Bool.not_eq_true] at h
    exact h.2.1
  rw [build?_result, SearchRequest.dateConditions_of_not_hasFilters hfilters]
  exact congrArg Except.ok (if_neg h)

theorem build?_of_asks (h : first.DatesFit c.now) (hask : Asks (first :: rest)) (byUsername : Bool) :
    (build? c first (first :: rest) byUsername).result = .ok (some (wanted c byUsername first rest)) := by
  have hdates : (first.dateConditions c.now FileColumn.createAt).result =
      .ok ((first.dateTests c.now .createAt).map .test) := h.dateConditions_ok.1
  rw [build?_result, hdates]
  exact congrArg Except.ok (if_pos hask)

theorem datesFit_of_build? {q? : Option FileQuery}
    (h : (build? c first (first :: rest) byUsername).result = .ok q?) : first.DatesFit c.now := by
  rw [build?_result] at h
  obtain ⟨dates, hdates, -⟩ := map_eq_ok.mp h
  exact SearchRequest.datesFit_of_dateConditions (mapError_eq_ok.mp hdates)

theorem eq_of_build? {q : FileQuery}
    (h : (build? c first (first :: rest) byUsername).result = .ok (some q)) :
    ∃ dates, (first.dateConditions c.now FileColumn.createAt).result = .ok dates ∧
      q = ofDates c byUsername first rest dates := by
  rw [build?_result] at h
  obtain ⟨dates, hdates, h⟩ := map_eq_ok.mp h
  split_ifs at h
  exact ⟨dates, mapError_eq_ok.mp hdates, (Option.some.inj h).symm⟩

theorem forall_ofDates {p : Clause → Prop} (hp : ∀ w : Clause, w.Bindable → p w)
    {dates : List (Condition FileColumn)} (hdates : ∀ x ∈ dates, p (x.clause FileColumn.text)) :
    ∀ x ∈ (ofDates c byUsername first rest dates).conditions, p (x.clause FileColumn.text) := by
  unfold ofDates
  simp only [List.forall_mem_append, List.forall_mem_singleton, Option.mem_toList]
  refine ⟨⟨⟨⟨?_, fun x hx => ?_⟩, hdates⟩, ?_⟩, fun x hx => ?_⟩
  · exact hp _ (Condition.test_bindable not_mem_text trivial)
  · exact hp _ (bindable_userConditions not_mem_text x hx)
  · unfold extensionConditions
    split_ifs
    · simp
    · exact List.forall_mem_singleton.mpr (hp _ (Condition.test_bindable not_mem_text trivial))
  · exact hp _ (Condition.bindable_ofFileTexts? not_mem_text (by decide) hx)

theorem balanced_ofDates {dates : List (Condition FileColumn)}
    (h : (first.dateConditions c.now FileColumn.createAt).result = .ok dates) :
    ∀ x ∈ (ofDates c byUsername first rest dates).conditions, (x.clause FileColumn.text).Balanced :=
  forall_ofDates (fun _ hw => hw.balanced) (SearchRequest.balanced_dateConditions not_mem_text h)

theorem bindable_wanted (hoffset : -86400 < first.timeZoneOffset ∧ first.timeZoneOffset < 86400)
    (hbounds : first.HasBounds c.now) :
    ∀ x ∈ (wanted c byUsername first rest).conditions, (x.clause FileColumn.text).Bindable := by
  refine forall_ofDates (fun _ hw => hw) (List.forall_mem_map.mpr fun t ht => ?_)
  exact Condition.test_bindable not_mem_text (SearchRequest.binds_dateTests hoffset hbounds t ht)

theorem not_mem_head (q : FileQuery) : ∀ t ∈ (select q).source :: (select q).columns, '?' ∉ t := by
  have hcolumns : ∀ t ∈ ["f.*".toList], '?' ∉ t := List.forall_mem_singleton.mpr (by decide)
  refine List.forall_mem_cons.mpr ⟨?_, hcolumns⟩
  rw [select]
  exact (by decide : '?' ∉ "file_infos f".toList)

theorem not_mem_orderBy (q : FileQuery) : '?' ∉ (select q).orderBy := by
  rw [select]
  exact (by decide : '?' ∉ "f.create_at DESC".toList)

theorem statement_select {q : FileQuery}
    (h : ∀ x ∈ q.conditions, (x.clause FileColumn.text).Balanced) :
    (select q).statement = .ok (select q).sent ∧ (select q).clause.Balanced :=
  Select.statement_of_balanced (List.cons_ne_nil _ _) (List.cons_ne_nil _ _) (not_mem_head q)
    (Condition.forall_mem_clauses h) (not_mem_orderBy q) (Or.inl rfl)

theorem bindable_select {q : FileQuery}
    (h : ∀ x ∈ q.conditions, (x.clause FileColumn.text).Bindable)
    (hlimit : fitsStore q.limit = true) (hoffset : ∀ n ∈ q.offset, fitsStore n = true) :
    (select q).clause.Bindable := by
  have hlimit : ∀ n ∈ (select q).limit, fitsStore n = true :=
    fun n hn => Option.some.inj hn ▸ hlimit
  exact Select.clause_bindable (not_mem_head q) (Condition.forall_mem_clauses h)
    (not_mem_orderBy q) hlimit hoffset

/-- A query that is built is sent, within whatever channels. -/
theorem statement_within {q : FileQuery}
    (h : (build? c first (first :: rest) byUsername).result = .ok (some q)) (ids : List Text) :
    (select (q.within .channelId ids)).statement = .ok (select (q.within .channelId ids)).sent ∧
      (select (q.within .channelId ids)).clause.Balanced := by
  obtain ⟨dates, hdates, rfl⟩ := eq_of_build? h
  exact statement_select (PageQuery.balanced_within not_mem_text (balanced_ofDates hdates))

end FileQuery

end ChannelSearch
