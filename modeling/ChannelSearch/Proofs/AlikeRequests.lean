import ChannelSearch.Proofs.AlikeConditions
import Mathlib.Data.List.Forall2

/-!
Requests that ask the same, with their filters in another order. Main statement: a search returns the
same page for them, of files always, and of posts when the store accepts the height of both queries or
of neither.
-/

namespace ChannelSearch

open Sql

/-- The same filters, each list in any order. -/
structure SearchRequest.SameFilters (r r' : SearchRequest) : Prop where
  inChannels : r.inChannels.Perm r'.inChannels
  excludedChannels : r.excludedChannels.Perm r'.excludedChannels
  fromUsers : r.fromUsers.Perm r'.fromUsers
  excludedUsers : r.excludedUsers.Perm r'.excludedUsers
  extensions : r.extensions.Perm r'.extensions
  onDate : r.onDate = r'.onDate
  afterDate : r.afterDate = r'.afterDate
  beforeDate : r.beforeDate = r'.beforeDate
  timeZoneOffset : r.timeZoneOffset = r'.timeZoneOffset
  orTerms : r.orTerms = r'.orTerms
  includeDeletedChannels : r.includeDeletedChannels = r'.includeDeletedChannels
  searchWithoutUserId : r.searchWithoutUserId = r'.searchWithoutUserId

namespace SearchRequest

variable {r r' r'' : SearchRequest}

theorem sameFilters_refl (r : SearchRequest) : r.SameFilters r :=
  ⟨.rfl, .rfl, .rfl, .rfl, .rfl, rfl, rfl, rfl, rfl, rfl, rfl, rfl⟩

theorem SameFilters.symm (h : r.SameFilters r') : r'.SameFilters r :=
  ⟨h.1.symm, h.2.symm, h.3.symm, h.4.symm, h.5.symm, h.6.symm, h.7.symm, h.8.symm, h.9.symm,
    h.10.symm, h.11.symm, h.12.symm⟩

theorem SameFilters.trans (h : r.SameFilters r') (h' : r'.SameFilters r'') : r.SameFilters r'' :=
  ⟨h.1.trans h'.1, h.2.trans h'.2, h.3.trans h'.3, h.4.trans h'.4, h.5.trans h'.5, h.6.trans h'.6,
    h.7.trans h'.7, h.8.trans h'.8, h.9.trans h'.9, h.10.trans h'.10, h.11.trans h'.11,
    h.12.trans h'.12⟩

theorem SameFilters.at_offset (h : r.SameFilters r') (offset : Int) :
    SameFilters { r with timeZoneOffset := offset } { r' with timeZoneOffset := offset } :=
  { h with timeZoneOffset := rfl }

theorem SameFilters.hasFilters (h : r.SameFilters r') : r.hasFilters = r'.hasFilters := by
  unfold SearchRequest.hasFilters
  rw [h.inChannels.isEmpty_eq, h.excludedChannels.isEmpty_eq, h.fromUsers.isEmpty_eq,
    h.excludedUsers.isEmpty_eq, h.onDate, h.afterDate, h.beforeDate]

theorem SameFilters.dateConditions {C : Type} (h : r.SameFilters r') (now : Int) (column : C) :
    r.dateConditions now column = r'.dateConditions now column := by
  unfold SearchRequest.dateConditions onBounds afterMillis beforeMillis
  rw [h.onDate, h.afterDate, h.beforeDate, h.timeZoneOffset]

end SearchRequest

open SearchRequest (SameFilters)

theorem eq_nil_iff_of_perm {α : Type} {xs ys : List α} (h : xs.Perm ys) : xs = [] ↔ ys = [] := by
  rw [← List.isEmpty_iff, h.isEmpty_eq, List.isEmpty_iff]

/-- What is asked of a list unless it is empty is asked of it in any order. -/
theorem forall₂_unlessEmpty {α : Type} {R : α → α → Prop} {f : List Text → α}
    (hf : ∀ vs ws, vs.Perm ws → R (f vs) (f ws)) {vs ws : List Text} (h : vs.Perm ws) :
    List.Forall₂ R (if vs.isEmpty then [] else [f vs]) (if ws.isEmpty then [] else [f ws]) := by
  rw [h.isEmpty_eq]
  split_ifs
  · exact .nil
  · exact .cons (hf vs ws h) .nil

theorem Sql.Test.holds_oneOf_perm {C : Type} (column : C) {vs ws : List Text} (h : vs.Perm ws)
    (row : C → Value) : (oneOf column vs).holds row = (oneOf column ws).holds row := h.any_eq

theorem Sql.Test.holds_noneOf_perm {C : Type} (column : C) {vs ws : List Text} (h : vs.Perm ws)
    (row : C → Value) : (noneOf column vs).holds row = (noneOf column ws).holds row :=
  congrArg (!·) h.any_eq

namespace Condition

variable {C : Type} {xs ys xs' ys' : List (Condition C)}

theorem all_unlessEmpty {users : UserQuery → List Text} {row : C → Value}
    {f : List Text → Sql.Test C} (hf : ∀ vs ws, vs.Perm ws → (f vs).holds row = (f ws).holds row)
    {vs ws : List Text} (h : vs.Perm ws) :
    (if vs.isEmpty then [] else [.test (f vs)]).all (holds users row) =
      (if ws.isEmpty then [] else [.test (f ws)]).all (holds users row) := by
  rw [h.isEmpty_eq]
  split_ifs
  · rfl
  · rw [List.all_cons, List.all_cons, holds_test, holds_test, hf vs ws h]

/-- Two lists of conditions are joined to others as high, and have selects as high inside. -/
structure AsHigh (xs ys : List (Condition C)) : Prop where
  heights : heights xs = heights ys
  nesting : nestingOfAll xs = nestingOfAll ys

theorem nestingOfAll_append (xs ys : List (Condition C)) :
    nestingOfAll (xs ++ ys) = max (nestingOfAll xs) (nestingOfAll ys) := by
  induction xs with
  | nil => simp [nestingOfAll]
  | cons x xs ih => rw [List.cons_append, nestingOfAll, ih, nestingOfAll, Nat.max_assoc]

theorem nestingOfAll_singleton (x : Condition C) : nestingOfAll [x] = nesting x := by
  rw [nestingOfAll, nestingOfAll, Nat.max_zero]

theorem asHigh_refl (xs : List (Condition C)) : AsHigh xs xs := ⟨rfl, rfl⟩

theorem AsHigh.append (h : AsHigh xs ys) (h' : AsHigh xs' ys') : AsHigh (xs ++ xs') (ys ++ ys') := by
  constructor
  · rw [heights_append, heights_append, h.heights, h'.heights]
  · rw [nestingOfAll_append, nestingOfAll_append, h.nesting, h'.nesting]

theorem asHigh_group? (op : Connective) (h : AsHigh xs ys) (hnil : xs = [] ↔ ys = []) :
    AsHigh (group? op xs).toList (group? op ys).toList := by
  unfold group?
  rw [Bool.eq_iff_iff.mpr ((List.isEmpty_iff.trans hnil).trans List.isEmpty_iff.symm)]
  split_ifs
  · exact asHigh_refl []
  · refine ⟨?_, ?_⟩
    · rw [Option.toList_some, Option.toList_some, heights_singleton, heights_singleton,
        operandHeights, operandHeights, h.heights]
    · rw [Option.toList_some, Option.toList_some, nestingOfAll_singleton, nestingOfAll_singleton,
        Condition.nesting, Condition.nesting, h.nesting]

theorem nestingOfAll_perm (h : xs.Perm ys) : nestingOfAll xs = nestingOfAll ys := by
  induction h with
  | nil => rfl
  | cons x _ ih => rw [nestingOfAll, nestingOfAll, ih]
  | swap x y zs =>
    rw [nestingOfAll, nestingOfAll, nestingOfAll, nestingOfAll]
    exact Nat.max_left_comm ..
  | trans _ _ ih ih' => exact ih.trans ih'

/-- Conditions that are all as high may stand in any order. -/
theorem asHigh_of_perm (h : xs.Perm ys) {hs : List Nat} (hall : ∀ x ∈ xs, x.operandHeights = hs) :
    AsHigh xs ys := by
  have hall' : ∀ y ∈ ys, y.operandHeights = hs := fun y hy => hall y (h.mem_iff.mpr hy)
  refine ⟨?_, nestingOfAll_perm h⟩
  rw [heights_eq, heights_eq, List.flatMap_def, List.flatMap_def, List.map_congr_left hall,
    List.map_congr_left hall', List.map_const', List.map_const', h.length_eq]

end Condition

section Parts

variable {C : Type} {s : Store} {name : C → Text} {column : C} {team : Text} {r r' : SearchRequest}
  {byUsername : Bool}

/-- Two tests hold of the same rows and are as high. -/
def Sql.Test.Matches (t u : Sql.Test C) : Prop :=
  (∀ row, t.holds row = u.holds row) ∧ Condition.testHeight t = Condition.testHeight u

theorem Sql.Test.all_holds_eq {ts us : List (Sql.Test C)} (h : List.Forall₂ Matches ts us)
    (row : C → Value) : ts.all (·.holds row) = us.all (·.holds row) := by
  induction h with
  | nil => rfl
  | cons ht _ ih => rw [List.all_cons, List.all_cons, ht.1, ih]

theorem Sql.Test.map_testHeight_eq {ts us : List (Sql.Test C)} (h : List.Forall₂ Matches ts us) :
    ts.map Condition.testHeight = us.map Condition.testHeight := by
  induction h with
  | nil => rfl
  | cons ht _ ih => rw [List.map_cons, List.map_cons, ht.2, ih]

theorem UserQuery.keys_perm {vs ws : List Text} (h : vs.Perm ws) :
    (keys byUsername vs).Perm (keys byUsername ws) := by
  cases byUsername with
  | false => exact h
  | true => exact h.map Text.mentionKey

/-- The select of the users that both requests name. -/
theorem UserQuery.tests_matches (h : r.SameFilters r') {q q' : UserQuery}
    (hq : build? team r.fromUsers r.excludedUsers byUsername = some q)
    (hq' : build? team r'.fromUsers r'.excludedUsers byUsername = some q') :
    q.joinsTeams = q'.joinsTeams ∧ List.Forall₂ Sql.Test.Matches q.tests q'.tests := by
  rw [eq_of_build? hq, eq_of_build? hq']
  refine ⟨rfl, List.rel_append (List.rel_append ?_ ?_) ?_⟩
  · exact List.forall₂_same.mpr fun t _ => ⟨fun _ => rfl, rfl⟩
  · exact forall₂_unlessEmpty (R := Sql.Test.Matches) (f := fun vs => .oneOf _ (keys byUsername vs))
      (fun vs ws hperm => ⟨Sql.Test.holds_oneOf_perm _ (keys_perm hperm), rfl⟩) h.fromUsers
  · exact forall₂_unlessEmpty (R := Sql.Test.Matches) (f := fun vs => .noneOf _ (keys byUsername vs))
      (fun vs ws hperm => ⟨Sql.Test.holds_noneOf_perm _ (keys_perm hperm), rfl⟩) h.excludedUsers

theorem UserQuery.userIds_eq {q q' : UserQuery} (hjoins : q.joinsTeams = q'.joinsTeams)
    (htests : List.Forall₂ Sql.Test.Matches q.tests q'.tests) : s.userIds q = s.userIds q' := by
  unfold Store.userIds
  simp only [hjoins, Sql.Test.all_holds_eq htests]

theorem UserQuery.selectHeight_eq {q q' : UserQuery}
    (htests : List.Forall₂ Sql.Test.Matches q.tests q'.tests) :
    Condition.selectHeight q = Condition.selectHeight q' := by
  rw [Condition.selectHeight, Condition.selectHeight, Sql.Test.map_testHeight_eq htests]

/-- The condition on authors is the same for lists in another order. -/
theorem userConditions_congr (hname : ∀ c, '?' ∉ name c) (h : r.SameFilters r') :
    Condition.Alike s.userIds name (userConditions column team r byUsername)
        (userConditions column team r' byUsername) ∧
      Condition.AsHigh (userConditions column team r byUsername)
        (userConditions column team r' byUsername) := by
  have hplain (r : SearchRequest) (x : Condition C) (hx : x ∈ userConditions column team r byUsername) :
      ¬ x.HasOverlong ∧ ¬ x.HasUnfit name := by
    refine ⟨?_, ?_⟩
    · rintro ⟨t, ht, -⟩
      rw [tests_userConditions x hx] at ht
      cases ht
    · rintro ⟨n, hn, hfits⟩
      rw [(bindable_userConditions hname x hx).fits n hn] at hfits
      cases hfits
  have hlists : UserQuery.build? team r.fromUsers r.excludedUsers byUsername = none ↔
      UserQuery.build? team r'.fromUsers r'.excludedUsers byUsername = none := by
    rw [UserQuery.build?_eq_none, UserQuery.build?_eq_none, ← List.isEmpty_iff, ← List.isEmpty_iff,
      h.fromUsers.isEmpty_eq, h.excludedUsers.isEmpty_eq, List.isEmpty_iff, List.isEmpty_iff]
  suffices hsame : (∀ row, Condition.holdsAll s.userIds row (userConditions column team r byUsername) =
      Condition.holdsAll s.userIds row (userConditions column team r' byUsername)) ∧
      Condition.AsHigh (userConditions column team r byUsername)
        (userConditions column team r' byUsername) from
    ⟨Condition.alike_of_holds hsame.1 (hplain r) (hplain r'), hsame.2⟩
  unfold userConditions
  cases hq : UserQuery.build? team r.fromUsers r.excludedUsers byUsername with
  | none =>
    rw [hlists.mp hq]
    exact ⟨fun _ => rfl, Condition.asHigh_refl []⟩
  | some q =>
    cases hq' : UserQuery.build? team r'.fromUsers r'.excludedUsers byUsername with
    | none =>
      rw [hlists.mpr hq'] at hq
      cases hq
    | some q' =>
      obtain ⟨hjoins, htests⟩ := UserQuery.tests_matches h hq hq'
      refine ⟨fun row => ?_, ?_, ?_⟩
      · rw [Condition.holdsAll_eq, Condition.holdsAll_eq]
        simp only [List.all_cons, List.all_nil, Condition.holds_isUserIn,
          UserQuery.userIds_eq hjoins htests]
      · rw [Condition.heights_singleton, Condition.heights_singleton, Condition.operandHeights,
          Condition.operandHeights, UserQuery.selectHeight_eq htests]
      · rw [Condition.nestingOfAll_singleton, Condition.nestingOfAll_singleton, Condition.nesting,
          Condition.nesting, UserQuery.selectHeight_eq htests]

/-- The condition on extensions is the same for a list in another order. -/
theorem FileQuery.extensionConditions_congr (h : r.SameFilters r') :
    Condition.Alike s.userIds FileColumn.text (extensionConditions r) (extensionConditions r') ∧
      Condition.AsHigh (extensionConditions r) (extensionConditions r') := by
  have hplain (r : SearchRequest) (x : Condition FileColumn) (hx : x ∈ extensionConditions r) :
      ¬ x.HasOverlong ∧ ¬ x.HasUnfit FileColumn.text := by
    unfold extensionConditions at hx
    split_ifs at hx
    · cases hx
    · rw [List.mem_singleton.mp hx]
      refine ⟨by simp [Condition.HasOverlong, Condition.tests, Condition.isOverlong, Sql.Test.pattern?],
        ?_⟩
      rintro ⟨n, hn, hfits⟩
      have hbinds : (Sql.Test.oneOf FileColumn.extension (r.extensions.map extensionKey)).Binds :=
        trivial
      rw [(Condition.test_bindable not_mem_text hbinds).fits n hn] at hfits
      cases hfits
  refine ⟨Condition.alike_of_holds (fun row => ?_) (hplain r) (hplain r'), ?_⟩
  · rw [Condition.holdsAll_eq, Condition.holdsAll_eq]
    exact Condition.all_unlessEmpty
      (fun _ _ h => Sql.Test.holds_oneOf_perm _ (h.map extensionKey) row) h.extensions
  · unfold extensionConditions
    rw [h.extensions.isEmpty_eq]
    split_ifs
    · exact Condition.asHigh_refl []
    · refine ⟨?_, rfl⟩
      rw [Condition.heights_singleton, Condition.heights_singleton]
      rfl

/-- The channels in scope are the same for lists of channels in another order. -/
theorem Store.channelIds_congr (s : Store) (user team : Text) (h : r.SameFilters r') (byName : Bool) :
    s.channelIds (ScopeQuery.build user team r byName) =
      s.channelIds (ScopeQuery.build user team r' byName) := by
  have hkeys {vs ws : List Text} (h : vs.Perm ws) :
      ((if byName then vs.map ScopeQuery.nameKey else vs) : List Text).Perm
        (if byName then ws.map ScopeQuery.nameKey else ws) := by
    cases byName with
    | false => exact h
    | true => exact h.map ScopeQuery.nameKey
  have hjoins : (ScopeQuery.build user team r byName).joinsMembers =
      (ScopeQuery.build user team r' byName).joinsMembers := congrArg (!·) h.searchWithoutUserId
  have hall (row : ScopeQuery.Column → Value) :
      Condition.holdsAll s.userIds row (ScopeQuery.build user team r byName).conditions =
        Condition.holdsAll s.userIds row (ScopeQuery.build user team r' byName).conditions := by
    rw [Condition.holdsAll_eq, Condition.holdsAll_eq, ScopeQuery.build, ScopeQuery.build,
      h.searchWithoutUserId, h.includeDeletedChannels]
    simp only [List.all_append]
    refine congrArg₂ (· && ·) (congrArg₂ (· && ·) rfl ?_) ?_
    · exact Condition.all_unlessEmpty (fun _ _ h => Sql.Test.holds_oneOf_perm _ (hkeys h) row)
        h.inChannels
    · exact Condition.all_unlessEmpty (fun _ _ h => Sql.Test.holds_noneOf_perm _ (hkeys h) row)
        h.excludedChannels
  unfold Store.channelIds
  simp only [hjoins, hall]

end Parts

section Outcomes

variable {α C : Type} {s : Store} {lookup : Lookup} {c : SearchContext} {deleteAt : α → Int}
  {first first' : SearchRequest}

/-- Where the rows within the channels are answered alike, the outcome is the same page. -/
theorem outcome_congr {scope scope' : Statement} {main main' : List Text → Read × Statement}
    {answer answer' : List Text → Except ReadError (List α)} (channels : Except ReadError (List Text))
    (h : ∀ ids, softened c.emptyPage ((answer ids).map (c.livePage deleteAt)) =
      softened c.emptyPage ((answer' ids).map (c.livePage deleteAt))) :
    (outcome c deleteAt scope channels main answer).2 =
      (outcome c deleteAt scope' channels main' answer').2 := by
  unfold outcome
  rcases softened [] channels with e | ids
  · split_ifs <;> rfl
  · cases ids with
    | nil => split_ifs <;> rfl
    | cons id ids =>
      split_ifs
      · rfl
      · rfl
      · exact h (id :: ids)

/-- Searches with the same dates, whose queries are answered alike, return the same page. -/
theorem scopedSearch_congr (hfilters : first.SameFilters first') {column : C}
    {dates : Except DateError (List (Condition C))} {q q' : List (Condition C) → PageQuery C}
    {build build' : Traced SearchError (Option (PageQuery C))} {select : PageQuery C → Select}
    {read : Read} {source : LogSource} {failure : String}
    {answer : PageQuery C → Except ReadError (List α)} (hreads : build.reads = [])
    (hreads' : build'.reads = [])
    (hbuild : build.result = (dates.mapError .date).map fun found => some (q found))
    (hbuild' : build'.result = (dates.mapError .date).map fun found => some (q' found))
    (hsent : ∀ found ids, dates = .ok found →
      (select ((q found).within column ids)).statement =
          .ok (select ((q found).within column ids)).sent ∧
        (select ((q' found).within column ids)).statement =
          .ok (select ((q' found).within column ids)).sent)
    (hanswer : ∀ found ids, dates = .ok found →
      softened c.emptyPage ((answer ((q found).within column ids)).map (c.livePage deleteAt)) =
        softened c.emptyPage ((answer ((q' found).within column ids)).map (c.livePage deleteAt))) :
    (scopedSearch s.reader lookup c first column build fun q =>
        readPage c (select q) read source failure deleteAt (answer q)).result =
      (scopedSearch s.reader lookup c first' column build' fun q =>
        readPage c (select q) read source failure deleteAt (answer q)).result := by
  have hchannels : s.reader.channels
      (ScopeQuery.build c.userId c.teamId first lookup.channelsByName) =
        s.reader.channels (ScopeQuery.build c.userId c.teamId first' lookup.channelsByName) :=
    congrArg Except.ok (s.channelIds_congr _ _ hfilters _)
  cases dates with
  | error e => rw [scopedSearch_of_error hbuild, scopedSearch_of_error hbuild']
  | ok found =>
    have houtcome : (scopedSearch s.reader lookup c first column build fun q =>
        readPage c (select q) read source failure deleteAt (answer q)).result = _ :=
      congrArg Prod.snd (scopedSearch_outcome hreads hbuild
        (ScopeQuery.statement_build c.userId c.teamId first lookup.channelsByName).1
        fun ids => (hsent found ids rfl).1)
    have houtcome' : (scopedSearch s.reader lookup c first' column build' fun q =>
        readPage c (select q) read source failure deleteAt (answer q)).result = _ :=
      congrArg Prod.snd (scopedSearch_outcome hreads' hbuild'
        (ScopeQuery.statement_build c.userId c.teamId first' lookup.channelsByName).1
        fun ids => (hsent found ids rfl).2)
    rw [houtcome, houtcome', hchannels]
    exact outcome_congr _ fun ids => hanswer found ids rfl

end Outcomes

variable {s : Store} {lookup : Lookup} {c : SearchContext} {byUsername : Bool}
  {first first' : SearchRequest} {rest rest' : List SearchRequest}

theorem PageQuery.isPrepared_congr {C : Type} {q q' : PageQuery C}
    (h : Condition.AsHigh q.conditions q'.conditions) : q.IsPrepared ↔ q'.IsPrepared := by
  rw [IsPrepared, IsPrepared, height, height, h.heights, h.nesting]

/-- The channels of a query do not count for its height. -/
theorem PageQuery.isPrepared_within {C : Type} (q : PageQuery C) (column : C) (ids ids' : List Text) :
    (q.within column ids).IsPrepared ↔ (q.within column ids').IsPrepared := by
  refine isPrepared_congr ((Condition.asHigh_refl q.conditions).append ⟨?_, rfl⟩)
  rw [Condition.heights_singleton, Condition.heights_singleton]
  rfl

/-- The store accepts the height of the query of a search of posts, if there is one, whatever the
channels in scope. -/
def PostQuery.FitsHeight (c : SearchContext) (byUsername : Bool) (requests : List SearchRequest) :
    Prop :=
  ∀ q ids, (build? c.teamId requests c.pageNumber c.limit byUsername c.now).result = .ok (some q) →
    PageQuery.IsPrepared (PageQuery.within q .channelId ids)

theorem PostQuery.fitsHeight_iff {q : PostQuery} {requests : List SearchRequest}
    (h : (build? c.teamId requests c.pageNumber c.limit byUsername c.now).result = .ok (some q))
    (ids : List Text) :
    FitsHeight c byUsername requests ↔ PageQuery.IsPrepared (PageQuery.within q .channelId ids) := by
  refine ⟨fun hfits => hfits q ids h, fun hprepared q' ids' h' => ?_⟩
  obtain rfl := Option.some.inj (Except.ok.inj (h.symm.trans h'))
  exact (PageQuery.isPrepared_within q .channelId ids ids').mp hprepared

theorem SearchRequest.settled_dateConditions {C : Type} {column : C} {r : SearchRequest} {now : Int}
    {dates : List (Condition C)} (h : (r.dateConditions now column).result = .ok dates) :
    ∀ x ∈ dates, x.Settled := by
  have htest (t : Sql.Test C) : ∀ x ∈ [Condition.test t], x.Settled :=
    List.forall_mem_singleton.mpr (Condition.exposed_test t).settled
  rcases dateConditions_bounds h with ⟨-, low, high, rfl⟩ | ⟨-, after, before, rfl⟩
  · exact htest _
  · refine List.forall_mem_append.mpr ⟨?_, ?_⟩
    · split_ifs
      · simp
      · exact htest _
    · split_ifs
      · simp
      · exact htest _

/-- The queries of requests with the same filters and texts that ask the same. -/
theorem PostQuery.alike_ofDates (c : SearchContext) (byUsername : Bool)
    (hfilters : first.SameFilters first')
    (htext : Condition.Alike s.userIds PostColumn.name
      (textCondition? (first :: rest) first.orTerms).toList
      (textCondition? (first' :: rest') first'.orTerms).toList)
    {dates : List (Condition PostColumn)} (hdates : ∀ x ∈ dates, x.Settled) (ids : List Text) :
    Condition.Alike s.userIds PostColumn.name
      (PageQuery.within (ofDates c byUsername first rest dates) .channelId ids).conditions
      (PageQuery.within (ofDates c byUsername first' rest' dates) .channelId ids).conditions := by
  have hsame {xs : List (Condition PostColumn)} (h : ∀ x ∈ xs, x.Settled) :
      Condition.Alike s.userIds PostColumn.name xs xs := Condition.alike_refl h
  have huser : Condition.Alike s.userIds PostColumn.name
      (userConditions .userId c.teamId first byUsername)
      (userConditions .userId c.teamId first' byUsername) :=
    (userConditions_congr not_mem_name hfilters).1
  have hlive (t u : Sql.Test PostColumn) : ∀ x ∈ [Condition.test t, .test u], x.Settled :=
    List.forall_mem_cons.mpr ⟨(Condition.exposed_test t).settled,
      List.forall_mem_singleton.mpr (Condition.exposed_test u).settled⟩
  exact ((((hsame (hlive _ _)).append huser).append (hsame hdates)).append htext).append
    (hsame (List.forall_mem_singleton.mpr (Condition.exposed_test _).settled))

/-- A search of posts returns the same page for requests with the same filters and texts that ask the
same of every post. -/
theorem searchPosts_alike (s : Store) (lookup : Lookup) (hfilters : first.SameFilters first')
    (htext : Condition.Alike s.userIds PostColumn.name
      (PostQuery.textCondition? (first :: rest) first.orTerms).toList
      (PostQuery.textCondition? (first' :: rest') first'.orTerms).toList)
    (hsome : (PostQuery.textCondition? (first :: rest) first.orTerms).isSome =
      (PostQuery.textCondition? (first' :: rest') first'.orTerms).isSome)
    (hheight : PostQuery.FitsHeight c lookup.usersByUsername (first :: rest) ↔
      PostQuery.FitsHeight c lookup.usersByUsername (first' :: rest')) :
    (searchPosts s.reader lookup c (first :: rest)).result =
      (searchPosts s.reader lookup c (first' :: rest')).result := by
  have hasks : PostQuery.Asks (first :: rest) ↔ PostQuery.Asks (first' :: rest') := by
    rw [PostQuery.asks_cons, PostQuery.asks_cons, hsome, hfilters.hasFilters]
  by_cases hask : PostQuery.Asks (first :: rest)
  · have hask' := hasks.mp hask
    have hbuild : (PostQuery.build? c.teamId (first :: rest) c.pageNumber c.limit
      lookup.usersByUsername c.now).result = _ := PostQuery.build?_result
    have hbuild' : (PostQuery.build? c.teamId (first' :: rest') c.pageNumber c.limit
      lookup.usersByUsername c.now).result = _ := PostQuery.build?_result
    simp only [hask, hask', ← hfilters.dateConditions, if_true] at hbuild hbuild'
    have hrequests := mt PostQuery.not_asks_of_isEmpty (not_not.mpr hask)
    have hrequests' := mt PostQuery.not_asks_of_isEmpty (not_not.mpr hask')
    rw [searchPosts_cons, searchPosts_cons, if_neg hrequests, if_neg hrequests', funext readPosts_eq]
    refine scopedSearch_congr hfilters (PostQuery.reads_build? first rest)
      (PostQuery.reads_build? first' rest') hbuild hbuild' (fun dates ids hdates => ?_)
      fun dates ids hdates => ?_
    · rw [hdates] at hbuild hbuild'
      exact ⟨(PostQuery.statement_within hbuild ids).1, (PostQuery.statement_within hbuild' ids).1⟩
    · rw [hdates] at hbuild hbuild'
      rw [PostQuery.fitsHeight_iff hbuild ids, PostQuery.fitsHeight_iff hbuild' ids] at hheight
      have halike := PostQuery.alike_ofDates c lookup.usersByUsername hfilters htext
        (SearchRequest.settled_dateConditions hdates) ids
      exact s.softened_readPosts halike hheight rfl rfl (c.livePage PostRow.deleteAt)
  · rw [(searchPosts_of_not_asks hask).2, (searchPosts_of_not_asks (mt hasks.mpr hask)).2]

/-- The queries of files of requests with the same filters and texts that ask the same. -/
theorem FileQuery.alike_ofDates (c : SearchContext) (byUsername : Bool)
    (hfilters : first.SameFilters first')
    (htext : Condition.Alike s.userIds FileColumn.text
      (textCondition? (first :: rest) first.orTerms).toList
      (textCondition? (first' :: rest') first'.orTerms).toList)
    (hhigh : Condition.AsHigh (textCondition? (first :: rest) first.orTerms).toList
      (textCondition? (first' :: rest') first'.orTerms).toList)
    {dates : List (Condition FileColumn)} (hdates : ∀ x ∈ dates, x.Settled) (ids : List Text) :
    Condition.Alike s.userIds FileColumn.text
        (PageQuery.within (ofDates c byUsername first rest dates) .channelId ids).conditions
        (PageQuery.within (ofDates c byUsername first' rest' dates) .channelId ids).conditions ∧
      Condition.AsHigh
        (PageQuery.within (ofDates c byUsername first rest dates) .channelId ids).conditions
        (PageQuery.within (ofDates c byUsername first' rest' dates) .channelId ids).conditions := by
  have hsame {xs : List (Condition FileColumn)} (h : ∀ x ∈ xs, x.Settled) :
      Condition.Alike s.userIds FileColumn.text xs xs := Condition.alike_refl h
  have htest (t : Sql.Test FileColumn) : ∀ x ∈ [Condition.test t], x.Settled :=
    List.forall_mem_singleton.mpr (Condition.exposed_test t).settled
  have huser : Condition.Alike s.userIds FileColumn.text
      (userConditions .creatorId c.teamId first byUsername)
      (userConditions .creatorId c.teamId first' byUsername) ∧ _ :=
    userConditions_congr not_mem_text hfilters
  have hextensions : Condition.Alike s.userIds FileColumn.text _ _ ∧ _ :=
    extensionConditions_congr hfilters
  constructor
  · exact (((((hsame (htest _)).append huser.1).append (hsame hdates)).append hextensions.1).append
      htext).append (hsame (htest _))
  · exact (((((Condition.asHigh_refl _).append huser.2).append (Condition.asHigh_refl _)).append
      hextensions.2).append hhigh).append (Condition.asHigh_refl _)

/-- A search of files returns the same page for requests with the same filters and texts that ask the
same of every file and are as high. -/
theorem searchFiles_alike (s : Store) (lookup : Lookup) (hfilters : first.SameFilters first')
    (htext : Condition.Alike s.userIds FileColumn.text
      (FileQuery.textCondition? (first :: rest) first.orTerms).toList
      (FileQuery.textCondition? (first' :: rest') first'.orTerms).toList)
    (hsome : (FileQuery.textCondition? (first :: rest) first.orTerms).isSome =
      (FileQuery.textCondition? (first' :: rest') first'.orTerms).isSome)
    (hhigh : Condition.AsHigh (FileQuery.textCondition? (first :: rest) first.orTerms).toList
      (FileQuery.textCondition? (first' :: rest') first'.orTerms).toList) :
    (searchFiles s.reader lookup c (first :: rest)).result =
      (searchFiles s.reader lookup c (first' :: rest')).result := by
  have hextensions : first.extensions ≠ [] ↔ first'.extensions ≠ [] :=
    (eq_nil_iff_of_perm hfilters.extensions).not
  have hasks : FileQuery.Asks (first :: rest) ↔ FileQuery.Asks (first' :: rest') := by
    rw [FileQuery.asks_cons, FileQuery.asks_cons, hsome, hfilters.hasFilters, hextensions]
  by_cases hask : FileQuery.Asks (first :: rest)
  · have hask' := hasks.mp hask
    have hbuild : (FileQuery.build? c first (first :: rest) lookup.usersByUsername).result = _ :=
      FileQuery.build?_result
    have hbuild' : (FileQuery.build? c first' (first' :: rest') lookup.usersByUsername).result = _ :=
      FileQuery.build?_result
    simp only [hask, hask', ← hfilters.dateConditions, if_true] at hbuild hbuild'
    have hrequests := mt FileQuery.not_asks_of_isEmpty (not_not.mpr hask)
    have hrequests' := mt FileQuery.not_asks_of_isEmpty (not_not.mpr hask')
    rw [searchFiles_cons, searchFiles_cons, if_neg hrequests, if_neg hrequests', funext readFiles_eq]
    refine scopedSearch_congr hfilters (FileQuery.reads_build? first rest)
      (FileQuery.reads_build? first' rest') hbuild hbuild' (fun dates ids hdates => ?_)
      fun dates ids hdates => ?_
    · rw [hdates] at hbuild hbuild'
      exact ⟨(FileQuery.statement_within hbuild ids).1, (FileQuery.statement_within hbuild' ids).1⟩
    · obtain ⟨halike, hhigh⟩ := FileQuery.alike_ofDates c lookup.usersByUsername hfilters htext hhigh
        (SearchRequest.settled_dateConditions hdates) ids
      exact s.softened_readFiles halike (PageQuery.isPrepared_congr hhigh) rfl rfl
        (c.livePage FileRow.deleteAt)
  · rw [(searchFiles_of_not_asks hask).2, (searchFiles_of_not_asks (mt hasks.mpr hask)).2]

end ChannelSearch
