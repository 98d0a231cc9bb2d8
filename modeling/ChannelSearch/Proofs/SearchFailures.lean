import ChannelSearch.Proofs.ReadProtocol
import ChannelSearch.Proofs.SearchBoxContents
import ChannelSearch.Proofs.VisibleChannels

/-!
How searches of a store end. Main statement: the search of a search box text returns a page, unless
its dates have no bounds in the calendar, or the store comes to take the start of a page that it
cannot hold.
-/

namespace ChannelSearch

open Sql

/-- How a search ends: by the dates of its first request, by its page, and by whether the store comes to
read what it asks for. -/
structure Traced.EndsAs {α : Type} (run : Traced SearchError (Page α)) (c : SearchContext)
    (first : SearchRequest) (isRead : Prop) : Prop where
  outOfRange : run.result = .error (.date .outOfRange) ↔ ¬ first.HasBounds c.now
  overflow : run.result = .error .integerOverflow ↔
    first.HasBounds c.now ∧ isRead ∧ c.BeyondStore
  page : (∃ rows, run.result = .ok (c.pageOf rows)) ↔
    first.HasBounds c.now ∧ ¬ (isRead ∧ c.BeyondStore)

section Endings

variable {α : Type} {c : SearchContext} {first : SearchRequest} {isRead : Prop}
  {run : Traced SearchError (Page α)} {deleteAt : α → Int}

/-- The three endings exclude each other. -/
theorem Traced.endsAs_of_result
    (hdates : ¬ first.HasBounds c.now → run.result = .error (.date .outOfRange))
    (hoverflow : first.HasBounds c.now → isRead ∧ c.BeyondStore →
      run.result = .error .integerOverflow)
    (hpage : first.HasBounds c.now → ¬ (isRead ∧ c.BeyondStore) →
      ∃ rows, run.result = .ok (c.pageOf rows)) :
    run.EndsAs c first isRead := by
  by_cases hbounds : first.HasBounds c.now
  · by_cases hread : isRead ∧ c.BeyondStore
    · have hresult := hoverflow hbounds hread
      constructor <;> simp [hresult, hbounds, hread]
    · obtain ⟨rows, hresult⟩ := hpage hbounds hread
      constructor <;> simp [hresult, hbounds, hread]
  · have hresult := hdates hbounds
    constructor <;> simp [hresult, hbounds]

/-- A failure of the store stands for the empty page, and other answers for a page of their own. -/
theorem exists_softened {answer : Except ReadError (List α)}
    (h : answer ≠ .error .integerOverflow) :
    ∃ rows, softened c.emptyPage (answer.map (c.livePage deleteAt)) = .ok (c.pageOf rows) := by
  match answer with
  | .ok rows => exact ⟨rows.filter (deleteAt · = 0), rfl⟩
  | .error (.store message) => exact ⟨[], rfl⟩
  | .error .integerOverflow => exact absurd rfl h

/-- A search that is not cancelled reads the rows within the channels, where there are channels. -/
theorem outcome_of_never (hcancel : c.cancellation = .never) {scope : Statement} {ids : List Text}
    {main : List Text → Read × Statement} {answer : List Text → Except ReadError (List α)} :
    (outcome c deleteAt scope (.ok ids) main answer).2 =
      if ids = [] then .ok c.emptyPage
      else softened c.emptyPage ((answer ids).map (c.livePage deleteAt)) := by
  have hseen (point : Checkpoint) : ¬ c.cancellation.seenAt point = true := by
    rw [hcancel]
    exact Bool.false_ne_true
  rw [outcome, if_neg (hseen _)]
  cases ids with
  | nil => rfl
  | cons id ids => simp only [softened, if_neg (hseen _), if_neg (List.cons_ne_nil id ids)]

/-- A search ends by the answer that it gets, once it asks for something within its dates. -/
theorem Traced.endsAs_of_answer (deleteAt : α → Int) {asks isPrepared : Prop} {ids : List Text}
    {answer : Except ReadError (List α)}
    (hdates : ¬ first.HasBounds c.now → run.result = .error (.date .outOfRange))
    (hnone : ¬ asks → run.result = .ok c.emptyPage)
    (hrun : first.HasBounds c.now → asks → run.result =
      if ids = [] then .ok c.emptyPage
      else softened c.emptyPage (answer.map (c.livePage deleteAt)))
    (hanswer : first.HasBounds c.now →
      (answer = .error .integerOverflow ↔ isPrepared ∧ c.BeyondStore)) :
    run.EndsAs c first (asks ∧ ids ≠ [] ∧ isPrepared) := by
  refine endsAs_of_result hdates ?_ ?_
  · rintro hbounds ⟨⟨hask, hids, hprepared⟩, hbeyond⟩
    rw [hrun hbounds hask, if_neg hids, (hanswer hbounds).mpr ⟨hprepared, hbeyond⟩]
    rfl
  · intro hbounds hread
    by_cases hask : asks
    · rw [hrun hbounds hask]
      split_ifs with hids
      · exact ⟨[], rfl⟩
      · apply exists_softened
        intro hfails
        obtain ⟨hprepared, hbeyond⟩ := (hanswer hbounds).mp hfails
        exact hread ⟨⟨hask, hids, hprepared⟩, hbeyond⟩
    · exact ⟨[], hnone hask⟩

end Endings

variable {s : Store} {lookup : Lookup} {c : SearchContext} {first : SearchRequest}
  {rest : List SearchRequest}

/-- Of a select of a page that is bindable otherwise, the store refuses an integer only for the page. -/
theorem exists_unfit_of_page {q : Select} (hwheres : ∀ w ∈ q.wheres, w.Bindable)
    (hlimit : q.limit = some c.limit) (hoffset : q.offset = pageOffset c.pageNumber c.limit) :
    (∃ n, Json.int n ∈ q.clause.args ∧ fitsStore n = false) ↔ c.BeyondStore := by
  have hfits : ∀ n ∈ q.limit, fitsStore n = true := by
    rw [hlimit]
    intro n hn
    exact Option.some.inj hn ▸ c.fitsStore_limit
  rw [Select.exists_unfit_iff hwheres hfits (by rw [hlimit, Option.isSome_some]), hoffset]
  exact c.exists_unfit_pageOffset

theorem Store.readPosts_eq_overflow (s : Store)
    (hoffset : -86400 < first.timeZoneOffset ∧ first.timeZoneOffset < 86400)
    (hbounds : first.HasBounds c.now) (byUsername : Bool) (rest : List SearchRequest)
    (ids : List Text) :
    let q : PostQuery := (PostQuery.wanted c byUsername first rest).within .channelId ids
    s.readPosts q = .error .integerOverflow ↔ q.IsPrepared ∧ c.BeyondStore := by
  intro q
  have hconditions : ∀ x ∈ q.conditions, (x.clause PostColumn.name).Bindable :=
    PageQuery.bindable_within PostQuery.not_mem_name (PostQuery.bindable_wanted hoffset hbounds)
  rw [readPosts, PageQuery.read_eq_overflow,
    exists_unfit_of_page (Condition.forall_mem_clauses hconditions) rfl rfl]

theorem Store.readFiles_eq_overflow (s : Store)
    (hoffset : -86400 < first.timeZoneOffset ∧ first.timeZoneOffset < 86400)
    (hbounds : first.HasBounds c.now) (byUsername : Bool) (rest : List SearchRequest)
    (ids : List Text) :
    let q : FileQuery := (FileQuery.wanted c byUsername first rest).within .channelId ids
    s.readFiles q = .error .integerOverflow ↔ q.IsPrepared ∧ c.BeyondStore := by
  intro q
  have hconditions : ∀ x ∈ q.conditions, (x.clause FileColumn.text).Bindable :=
    PageQuery.bindable_within FileQuery.not_mem_text (FileQuery.bindable_wanted hoffset hbounds)
  rw [readFiles, PageQuery.read_eq_overflow,
    exists_unfit_of_page (Condition.forall_mem_clauses hconditions) rfl rfl]

theorem searchPosts_endsAs (hcancel : c.cancellation = .never)
    (hoffset : -86400 < first.timeZoneOffset ∧ first.timeZoneOffset < 86400) :
    let ids := s.channelIds (ScopeQuery.build c.userId c.teamId first lookup.channelsByName)
    (searchPosts s.reader lookup c (first :: rest)).EndsAs c first (PostQuery.Asks (first :: rest) ∧
      ids ≠ [] ∧ ((PostQuery.wanted c lookup.usersByUsername first rest).within .channelId
        ids).IsPrepared) := by
  intro ids
  have hbuild := PostQuery.build?_eq hoffset c lookup.usersByUsername rest
  refine Traced.endsAs_of_answer PostRow.deleteAt (fun hbounds => ?_)
    (fun hask => (searchPosts_of_not_asks hask).2) (fun hbounds hask => ?_)
    (fun hbounds => s.readPosts_eq_overflow hoffset hbounds _ _ _)
  · have hask : PostQuery.Asks (first :: rest) := by
      rw [PostQuery.asks_cons]
      exact Or.inr (SearchRequest.hasFilters_of_not_hasBounds hbounds)
    rw [searchPosts_cons, if_neg (mt PostQuery.not_asks_of_isEmpty (not_not.mpr hask))]
    exact scopedSearch_of_error (hbuild.trans (if_neg hbounds))
  · rw [if_pos hbounds, if_pos hask] at hbuild
    exact (congrArg Prod.snd (searchPosts_outcome hask hbuild)).trans (outcome_of_never hcancel)

theorem searchFiles_endsAs (hcancel : c.cancellation = .never)
    (hoffset : -86400 < first.timeZoneOffset ∧ first.timeZoneOffset < 86400) :
    let ids := s.channelIds (ScopeQuery.build c.userId c.teamId first lookup.channelsByName)
    (searchFiles s.reader lookup c (first :: rest)).EndsAs c first (FileQuery.Asks (first :: rest) ∧
      ids ≠ [] ∧ ((FileQuery.wanted c lookup.usersByUsername first rest).within .channelId
        ids).IsPrepared) := by
  intro ids
  have hbuild := FileQuery.build?_eq hoffset c lookup.usersByUsername rest
  refine Traced.endsAs_of_answer FileRow.deleteAt (fun hbounds => ?_)
    (fun hask => (searchFiles_of_not_asks hask).2) (fun hbounds hask => ?_)
    (fun hbounds => s.readFiles_eq_overflow hoffset hbounds _ _ _)
  · have hask : FileQuery.Asks (first :: rest) := by
      rw [FileQuery.asks_cons]
      exact Or.inr (Or.inl (SearchRequest.hasFilters_of_not_hasBounds hbounds))
    rw [searchFiles_cons, if_neg (mt FileQuery.not_asks_of_isEmpty (not_not.mpr hask))]
    exact scopedSearch_of_error (hbuild.trans (if_neg hbounds))
  · rw [if_pos hbounds, if_pos hask] at hbuild
    exact (congrArg Prod.snd (searchFiles_outcome hask hbuild)).trans (outcome_of_never hcancel)

/-- The search of a search box text that is not cancelled returns a page, of posts and of files: unless
a date that it names has no bounds in the calendar, or the store, once it has prepared what is asked
for in channels that there are, has to take the start of a page that it cannot hold. -/
theorem search_box_endsAs (s : Store) (lookup : Lookup) {c : SearchContext}
    (hcancel : c.cancellation = .never) (text : Text) {offset : Int}
    (hoffset : -86400 < offset ∧ offset < 86400) :
    let requests := SearchBox.parse text offset
    let first := requests.headD {}
    let ids := s.channelIds (ScopeQuery.build c.userId c.teamId first lookup.channelsByName)
    (searchPosts s.reader lookup c requests).EndsAs c first (PostQuery.Asks requests ∧ ids ≠ [] ∧
      ((PostQuery.wanted c lookup.usersByUsername first requests.tail).within .channelId
        ids).IsPrepared) ∧
    (searchFiles s.reader lookup c requests).EndsAs c first (FileQuery.Asks requests ∧ ids ≠ [] ∧
      ((FileQuery.wanted c lookup.usersByUsername first requests.tail).within .channelId
        ids).IsPrepared) := by
  intro requests first ids
  have hoffsets (r : SearchRequest) (hr : r ∈ requests) : -86400 < r.timeZoneOffset ∧
      r.timeZoneOffset < 86400 := by
    rwa [SearchBox.timeZoneOffset_of_mem_parse hr]
  -- No request at all stands for one that asks for nothing and names no date.
  have hnone {α : Type} {run : Traced SearchError (Page α)} {asks isPrepared : Prop} (hask : ¬ asks)
      (hresult : run.result = .ok c.emptyPage) : run.EndsAs c {} (asks ∧ isPrepared) :=
    Traced.endsAs_of_result (absurd ⟨nofun, nofun, nofun⟩) (fun _ h => absurd h.1.1 hask)
      fun _ _ => ⟨[], hresult⟩
  clear_value requests
  cases requests with
  | nil => exact ⟨hnone (by decide) rfl, hnone (by decide) rfl⟩
  | cons first rest =>
    have hfirst := hoffsets first List.mem_cons_self
    exact ⟨searchPosts_endsAs hcancel hfirst, searchFiles_endsAs hcancel hfirst⟩

/-- The last page and the last day that a search reaches, and the next page, which it does not. -/
theorem search_box_endsAs_last_page :
    let c : SearchContext :=
      { userId := "u1".toList, teamId := "T1".toList, page := 153722867280912930, now := 0 }
    let c' : SearchContext := { c with page := 153722867280912931 }
    let requests := SearchBox.parse "deploy on:9999-12-30".toList 3600
    (∃ rows, (searchPosts sampleStore.reader {} c requests).result = .ok (c.pageOf rows)) ∧
      (∃ rows, (searchFiles sampleStore.reader {} c requests).result = .ok (c.pageOf rows)) ∧
      (searchPosts sampleStore.reader {} c' requests).result = .error .integerOverflow ∧
      (searchFiles sampleStore.reader {} c' requests).result = .error .integerOverflow := by
  intro c c' requests
  have hoffset : -86400 < (3600 : Int) ∧ (3600 : Int) < 86400 := by decide
  obtain ⟨hposts, hfiles⟩ := search_box_endsAs sampleStore {} (c := c) rfl
    "deploy on:9999-12-30".toList hoffset
  obtain ⟨hposts', hfiles'⟩ := search_box_endsAs sampleStore {} (c := c') rfl
    "deploy on:9999-12-30".toList hoffset
  have hbounds : (requests.headD {}).HasBounds 0 := by decide +kernel
  have hwithin : ¬ c.BeyondStore := by decide
  have hbeyond : c'.BeyondStore := by decide
  refine ⟨hposts.page.mpr ⟨hbounds, fun h => hwithin h.2⟩,
    hfiles.page.mpr ⟨hbounds, fun h => hwithin h.2⟩,
    hposts'.overflow.mpr ⟨hbounds, ?_, hbeyond⟩, hfiles'.overflow.mpr ⟨hbounds, ?_, hbeyond⟩⟩
  · decide +kernel
  · decide +kernel

/-- The ends of the calendar and a page far past the last one leave a search without a page. -/
theorem calendar_ends_and_far_page_refused :
    let c : SearchContext := { userId := "u1".toList, teamId := [], now := 0 }
    let far : SearchContext := { c with page := 4611686018427387904 }
    (∀ text ∈ ["after:9999-12-31".toList, "on:9999-12-31".toList, "before:0001-01-01".toList],
      (searchPosts sampleStore.reader {} c (SearchBox.parse text 0)).result =
          .error (.date .outOfRange) ∧
        (searchFiles sampleStore.reader {} c (SearchBox.parse text 0)).result =
          .error (.date .outOfRange)) ∧
      (searchPosts sampleStore.reader {} far (SearchBox.parse "deploy".toList 0)).result =
        .error .integerOverflow ∧
      (searchFiles sampleStore.reader {} far (SearchBox.parse "deploy".toList 0)).result =
        .error .integerOverflow := by
  decide +kernel

end ChannelSearch
