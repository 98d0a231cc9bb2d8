import ChannelSearch.Proofs.BuiltQueries

/-!
The reads that a search makes. Main statement: whatever the reader answers and whenever the search is
cancelled, it reads nothing, the channels in scope, or these and then the rows within them, and what
it returns is determined by how far it got.
-/

namespace ChannelSearch

open Sql

namespace Traced

variable {ε α β : Type}

@[simp] theorem reads_pure (a : α) : (Pure.pure a : Traced ε α).reads = [] := rfl

theorem reads_bind_of_ok {x : Traced ε α} {a : α} (h : x.result = .ok a) (f : α → Traced ε β) :
    (x >>= f).reads = x.reads ++ (f a).reads := by
  show (Traced.bind x f).reads = _
  rw [Traced.bind, h]
  exact List.filterMap_append

theorem logs_bind_of_ok {x : Traced ε α} {a : α} (h : x.result = .ok a) (f : α → Traced ε β) :
    (x >>= f).logs = x.logs ++ (f a).logs := by
  show (Traced.bind x f).logs = _
  rw [Traced.bind, h]
  exact List.filterMap_append

theorem reads_bind_of_error {x : Traced ε α} {e : ε} (h : x.result = .error e)
    (f : α → Traced ε β) : (x >>= f).reads = x.reads := by
  show (Traced.bind x f).reads = _
  rw [Traced.bind, h]
  rfl

/-- A sequence reads nothing when none of its parts does. -/
theorem reads_bind_eq_nil {x : Traced ε α} {f : α → Traced ε β} (hx : x.reads = [])
    (hf : ∀ a, (f a).reads = []) : (x >>= f).reads = [] := by
  cases h : x.result with
  | error e => rw [reads_bind_of_error h, hx]
  | ok a => rw [reads_bind_of_ok h, hx, hf a, List.append_nil]

end Traced

open Traced

namespace SearchRequest

variable {C : Type} {column : C} {now : Int} {r : SearchRequest}

theorem reads_searchDate (value : Text) (offset : Int) : (searchDate now value offset).reads = [] := by
  unfold searchDate
  split
  · rfl
  · exact reads_bind_eq_nil rfl fun _ => rfl

theorem reads_boundConditions {date : Text} {test : Int → Sql.Test C}
    {millis : Traced DateError Int} (h : millis.reads = []) :
    (boundConditions date test millis).reads = [] := by
  unfold boundConditions
  split_ifs
  · rfl
  · exact reads_bind_eq_nil h fun _ => rfl

/-- Dates are read of the request alone. -/
theorem reads_dateConditions : (r.dateConditions now column).reads = [] := by
  by_cases hon : r.onDate = []
  · rw [dateConditions_of_not_on hon]
    have hafter : (r.afterMillis now).reads = [] :=
      reads_bind_eq_nil (reads_searchDate _ _) fun _ => rfl
    have hbefore : (r.beforeMillis now).reads = [] :=
      reads_bind_eq_nil (reads_searchDate _ _) fun _ => rfl
    apply reads_bind_eq_nil (reads_boundConditions hafter)
    intro after
    exact reads_bind_eq_nil (reads_boundConditions hbefore) fun _ => rfl
  · rw [dateConditions_of_on hon]
    have hbounds : (r.onBounds now).reads = [] := by
      apply reads_bind_eq_nil (reads_searchDate _ _)
      intro day
      exact reads_bind_eq_nil rfl fun _ => reads_bind_eq_nil rfl fun _ => rfl
    exact reads_bind_eq_nil hbounds fun _ => rfl

end SearchRequest

theorem PostQuery.reads_build? {c : SearchContext} {byUsername : Bool} (first : SearchRequest)
    (rest : List SearchRequest) :
    (build? c.teamId (first :: rest) c.pageNumber c.limit byUsername c.now).reads = [] := by
  unfold build?
  apply reads_bind_eq_nil
  · exact SearchRequest.reads_dateConditions
  · intro dates
    dsimp only
    split_ifs <;> rfl

theorem FileQuery.reads_build? {c : SearchContext} {byUsername : Bool} (first : SearchRequest)
    (rest : List SearchRequest) : (build? c first (first :: rest) byUsername).reads = [] := by
  unfold build?
  apply reads_bind_eq_nil
  · exact SearchRequest.reads_dateConditions
  · intro dates
    dsimp only
    split_ifs <;> rfl

/-- What a read gives: another answer stands in for a failure of the store, but not for an argument
that the store cannot take. -/
def softened {α : Type} (instead : α) : Except ReadError α → Except SearchError α
  | .ok a => .ok a
  | .error (.store _) => .ok instead
  | .error .integerOverflow => .error .integerOverflow

section Outcomes

variable {α C : Type} {reader : Reader} {lookup : Lookup} {c : SearchContext}

theorem visibleChannels_outcome (reader : Reader) {q : ScopeQuery} {s : Statement}
    (hs : q.select.statement = .ok s) :
    (visibleChannels reader q).reads = [(.channels, s)] ∧
      (visibleChannels reader q).result = softened [] (reader.channels q) := by
  unfold visibleChannels
  rw [hs]
  cases reader.channels q with
  | ok ids => exact ⟨rfl, rfl⟩
  | error e => cases e <;> exact ⟨rfl, rfl⟩

/-- The page of the rows that are answered. -/
def SearchContext.livePage (c : SearchContext) (deleteAt : α → Int) (rows : List α) : Page α :=
  c.pageOf (rows.filter (deleteAt · = 0))

theorem readPage_outcome {select : Select} {s : Statement} (hs : select.statement = .ok s)
    (read : Read) (source : LogSource) (failure : String) (deleteAt : α → Int)
    (answer : Except ReadError (List α)) :
    let run := readPage c select read source failure deleteAt answer
    (run.reads, run.result) =
      if c.cancellation.seenAt .beforeMain then ([], .error .cancelled)
      else ([(read, s)], softened c.emptyPage (answer.map (c.livePage deleteAt))) := by
  unfold readPage SearchContext.check
  rw [hs]
  split_ifs
  · rfl
  · cases answer with
    | ok rows => rfl
    | error e => cases e <;> rfl

/-- How a search with a query goes on: by what the channels and the rows within them are answered
with, and by the moment of its cancellation. -/
def outcome (c : SearchContext) (deleteAt : α → Int) (scope : Statement)
    (channels : Except ReadError (List Text)) (main : List Text → Read × Statement)
    (answer : List Text → Except ReadError (List α)) :
    List (Read × Statement) × Except SearchError (Page α) :=
  if c.cancellation.seenAt .beforeScope then ([], .error .cancelled)
  else
    match softened [] channels with
    | .error e => ([(.channels, scope)], .error e)
    | .ok [] => ([(.channels, scope)], .ok c.emptyPage)
    | .ok ids =>
      if c.cancellation.seenAt .beforeMain then ([(.channels, scope)], .error .cancelled)
      else
        ([(.channels, scope), main ids],
          softened c.emptyPage ((answer ids).map (c.livePage deleteAt)))

theorem scopedSearch_outcome {first : SearchRequest} {column : C} {q : PageQuery C}
    {build : Traced SearchError (Option (PageQuery C))} {select : PageQuery C → Select} {read : Read}
    {source : LogSource} {failure : String} {deleteAt : α → Int} {s : Statement}
    {t : List Text → Statement} {answer : PageQuery C → Except ReadError (List α)}
    (hreads : build.reads = []) (hbuild : build.result = .ok (some q))
    (hs : (ScopeQuery.build c.userId c.teamId first lookup.channelsByName).select.statement = .ok s)
    (ht : ∀ ids, (select (q.within column ids)).statement = .ok (t ids)) :
    let run := scopedSearch reader lookup c first column build fun q =>
      readPage c (select q) read source failure deleteAt (answer q)
    (run.reads, run.result) =
      outcome c deleteAt s
        (reader.channels (ScopeQuery.build c.userId c.teamId first lookup.channelsByName))
        (fun ids => (read, t ids)) fun ids => answer (q.within column ids) := by
  obtain ⟨hscopeReads, hscopeResult⟩ := visibleChannels_outcome reader hs
  dsimp only
  unfold scopedSearch outcome
  rw [reads_bind_of_ok hbuild, hreads, List.nil_append, result_bind, hbuild, ok_bind]
  dsimp only
  cases hbefore : c.cancellation.seenAt .beforeScope with
  | true =>
    rw [SearchContext.check, hbefore]
    rfl
  | false =>
    rw [SearchContext.check, hbefore, if_neg Bool.false_ne_true, if_neg Bool.false_ne_true,
      pure_bind]
    cases hids : softened [] (reader.channels
        (ScopeQuery.build c.userId c.teamId first lookup.channelsByName)) with
    | error e =>
      rw [hids] at hscopeResult
      rw [reads_bind_of_error hscopeResult, hscopeReads, result_bind, hscopeResult]
      rfl
    | ok ids =>
      rw [hids] at hscopeResult
      rw [reads_bind_of_ok hscopeResult, hscopeReads, result_bind, hscopeResult, ok_bind]
      cases ids with
      | nil => rfl
      | cons id ids =>
        have hmain := readPage_outcome (c := c) (ht (id :: ids)) read source failure deleteAt
          (answer (q.within column (id :: ids)))
        dsimp only at hmain ⊢
        rw [List.isEmpty_cons, if_neg Bool.false_ne_true]
        cases hseen : c.cancellation.seenAt .beforeMain with
        | true =>
          rw [hseen, if_pos rfl, Prod.mk.injEq] at hmain
          rw [hmain.1, hmain.2]
          rfl
        | false =>
          rw [hseen, if_neg Bool.false_ne_true, Prod.mk.injEq] at hmain
          rw [hmain.1, hmain.2]
          rfl

end Outcomes

/-- Failures of a reader are those of its store. -/
structure Reader.FailsSoftly (reader : Reader) : Prop where
  channels : ∀ q, reader.channels q ≠ .error .integerOverflow
  posts : ∀ q, reader.posts q ≠ .error .integerOverflow
  files : ∀ q, reader.files q ≠ .error .integerOverflow

/-- The rows that are answered within the channels that are; none where either read failed. -/
def rowsWithin {α : Type} (channels : Except ReadError (List Text))
    (answer : List Text → Except ReadError (List α)) : List α :=
  (channels.toOption.bind fun ids => (answer ids).toOption).getD []

/-- What a run of a search reads and returns, by whether it asks for something, by the answers to its
reads, and by the moment of its cancellation. -/
structure Traced.KeepsProtocol {α : Type} (run : Traced SearchError (Page α)) (c : SearchContext)
    (asks : Prop) (main : Read) (channels : Except ReadError (List Text))
    (answer : List Text → Except ReadError (List α)) (deleteAt : α → Int) : Prop where
  reads_mem : run.reads.map Prod.fst ∈ [[], [.channels], [.channels, main]]
  reads_nothing : run.reads = [] ↔ ¬ asks ∨ c.cancellation.seenAt .beforeScope = true
  reads_main : main ∈ run.reads.map Prod.fst ↔
    Read.channels ∈ run.reads.map Prod.fst ∧ (∃ ids, channels = .ok ids ∧ ids ≠ []) ∧
      c.cancellation.seenAt .beforeMain = false
  cancelled : run.result = .error .cancelled ↔
    asks ∧ (c.cancellation.seenAt .beforeScope = true ∨
      (∃ ids, channels = .ok ids ∧ ids ≠ []) ∧ c.cancellation.seenAt .beforeMain = true)
  page : run.result ≠ .error .cancelled → ∃ page, run.result = .ok page ∧
    page.page = max c.page 0 ∧ page.perPage = clampPerPage c.perPage ∧
      page.rows = if main ∈ run.reads.map Prod.fst
        then (rowsWithin channels answer).filter (deleteAt · = 0) else []

section Protocol

variable {α : Type} {c : SearchContext} {asks : Prop} {main : Read}
  {channels : Except ReadError (List Text)} {answer : List Text → Except ReadError (List α)}
  {deleteAt : α → Int} {run : Traced SearchError (Page α)}

theorem exists_page {rows expected : List α} (hresult : run.result = .ok (c.pageOf rows))
    (hrows : rows = expected) :
    ∃ page, run.result = .ok page ∧ page.page = max c.page 0 ∧
      page.perPage = clampPerPage c.perPage ∧ page.rows = expected :=
  ⟨c.pageOf rows, hresult, rfl, rfl, hrows⟩

theorem keepsProtocol_of_not_asks (h : ¬ asks) (hreads : run.reads = [])
    (hresult : run.result = .ok c.emptyPage) :
    run.KeepsProtocol c asks main channels answer deleteAt := by
  refine ⟨by simp [hreads], by simp [hreads, h], by simp [hreads], by simp [hresult, h], fun _ => ?_⟩
  exact exists_page hresult (by simp [hreads])

theorem keepsProtocol_of_cancelled (h : asks)
    (hbefore : c.cancellation.seenAt .beforeScope = true) (hreads : run.reads = [])
    (hresult : run.result = .error .cancelled) :
    run.KeepsProtocol c asks main channels answer deleteAt := by
  constructor <;> simp [hreads, hresult, hbefore, h]

section Scoped

variable {s : Statement}

/-- Without channels, for whatever reason, a search ends after its first read. -/
theorem keepsProtocol_of_no_channels (h : asks) (hmain : main ≠ .channels)
    (hbefore : c.cancellation.seenAt .beforeScope = false)
    (hnone : ¬ ∃ ids, channels = .ok ids ∧ ids ≠ []) (hreads : run.reads = [(.channels, s)])
    (hresult : run.result = .ok c.emptyPage) :
    run.KeepsProtocol c asks main channels answer deleteAt := by
  refine ⟨by simp [hreads], by simp [hreads, hbefore, h], by simp [hreads, hmain, hnone],
    by simp [hresult, hbefore, hnone], fun _ => exists_page hresult ?_⟩
  simp [hreads, hmain]

theorem keepsProtocol_of_cancelled_before_main (h : asks) (hmain : main ≠ .channels)
    (hbefore : c.cancellation.seenAt .beforeScope = false)
    (hsome : ∃ ids, channels = .ok ids ∧ ids ≠ [])
    (hseen : c.cancellation.seenAt .beforeMain = true) (hreads : run.reads = [(.channels, s)])
    (hresult : run.result = .error .cancelled) :
    run.KeepsProtocol c asks main channels answer deleteAt := by
  constructor <;> simp [hreads, hresult, hbefore, hseen, hsome, h, hmain]

/-- With channels a search reads within them, and its page has what it is answered. -/
theorem keepsProtocol_of_rows (h : asks) (hbefore : c.cancellation.seenAt .beforeScope = false)
    (hsome : ∃ ids, channels = .ok ids ∧ ids ≠ [])
    (hseen : c.cancellation.seenAt .beforeMain = false) {u : Statement}
    (hreads : run.reads = [(.channels, s), (main, u)]) (rows : List α)
    (hrows : rows = rowsWithin channels answer)
    (hresult : run.result = .ok (c.livePage deleteAt rows)) :
    run.KeepsProtocol c asks main channels answer deleteAt := by
  refine ⟨by simp [hreads], by simp [hreads, hbefore, h], by simp [hreads, hsome, hseen],
    by simp [hresult, hbefore, hseen], fun _ => exists_page hresult ?_⟩
  simp [hreads, hrows]

end Scoped

theorem keepsProtocol_of_outcome (h : asks) (hmain : main ≠ .channels)
    (hchannels : channels ≠ .error .integerOverflow)
    (hanswer : ∀ ids, answer ids ≠ .error .integerOverflow) {s : Statement}
    {t : List Text → Statement}
    (hrun : (run.reads, run.result) = outcome c deleteAt s channels (fun ids => (main, t ids)) answer) :
    run.KeepsProtocol c asks main channels answer deleteAt := by
  unfold outcome at hrun
  cases hbefore : c.cancellation.seenAt .beforeScope with
  | true =>
    rw [hbefore, if_pos rfl, Prod.mk.injEq] at hrun
    exact keepsProtocol_of_cancelled h hbefore hrun.1 hrun.2
  | false =>
    rw [hbefore, if_neg Bool.false_ne_true] at hrun
    match channels with
    | .error .integerOverflow => exact absurd rfl hchannels
    | .error (.store message) =>
      obtain ⟨hreads, hresult⟩ := Prod.mk.injEq .. ▸ hrun
      exact keepsProtocol_of_no_channels h hmain hbefore (by simp) hreads hresult
    | .ok [] =>
      obtain ⟨hreads, hresult⟩ := Prod.mk.injEq .. ▸ hrun
      exact keepsProtocol_of_no_channels h hmain hbefore (by simp) hreads hresult
    | .ok (id :: ids) =>
      have hsome : ∃ found, (.ok (id :: ids) : Except ReadError (List Text)) = .ok found ∧ found ≠ [] :=
        ⟨id :: ids, rfl, List.cons_ne_nil id ids⟩
      rw [softened] at hrun
      dsimp only at hrun
      cases hseen : c.cancellation.seenAt .beforeMain with
      | true =>
        rw [hseen, if_pos rfl, Prod.mk.injEq] at hrun
        exact keepsProtocol_of_cancelled_before_main h hmain hbefore hsome hseen hrun.1 hrun.2
      | false =>
        rw [hseen, if_neg Bool.false_ne_true, Prod.mk.injEq] at hrun
        obtain ⟨hreads, hresult⟩ := hrun
        match hrows : answer (id :: ids) with
        | .error .integerOverflow => exact absurd hrows (hanswer _)
        | .error (.store message) =>
          rw [hrows] at hresult
          exact keepsProtocol_of_rows h hbefore hsome hseen hreads []
            (by simp [rowsWithin, Except.toOption, hrows]) hresult
        | .ok rows =>
          rw [hrows] at hresult
          exact keepsProtocol_of_rows h hbefore hsome hseen hreads rows
            (by simp [rowsWithin, Except.toOption, hrows]) hresult

end Protocol

section Searches

variable {reader : Reader} {lookup : Lookup} {c : SearchContext} {first : SearchRequest}
  {rest requests : List SearchRequest}

theorem scopedSearch_of_no_query {α C : Type} {column : C}
    {build : Traced SearchError (Option (PageQuery C))}
    {read : PageQuery C → Traced SearchError (Page α)} (hreads : build.reads = [])
    (hbuild : build.result = .ok none) :
    (scopedSearch reader lookup c first column build read).reads = [] ∧
      (scopedSearch reader lookup c first column build read).result = .ok c.emptyPage := by
  refine ⟨?_, scopedSearch_of_none hbuild⟩
  unfold scopedSearch
  rw [reads_bind_of_ok hbuild, hreads]
  rfl

/-- A search that asks for nothing reads nothing. -/
theorem searchPosts_of_not_asks (h : ¬ PostQuery.Asks requests) :
    (searchPosts reader lookup c requests).reads = [] ∧
      (searchPosts reader lookup c requests).result = .ok c.emptyPage := by
  cases requests with
  | nil => exact ⟨rfl, rfl⟩
  | cons first rest =>
    rw [searchPosts_cons]
    split_ifs
    · exact ⟨rfl, rfl⟩
    · exact scopedSearch_of_no_query (PostQuery.reads_build? first rest)
        (PostQuery.build?_of_not_asks h)

theorem searchFiles_of_not_asks (h : ¬ FileQuery.Asks requests) :
    (searchFiles reader lookup c requests).reads = [] ∧
      (searchFiles reader lookup c requests).result = .ok c.emptyPage := by
  cases requests with
  | nil => exact ⟨rfl, rfl⟩
  | cons first rest =>
    rw [searchFiles_cons]
    split_ifs
    · exact ⟨rfl, rfl⟩
    · exact scopedSearch_of_no_query (FileQuery.reads_build? first rest)
        (FileQuery.build?_of_not_asks h)

/-- The statement that asks for the channels in scope. -/
def scopeStatement (lookup : Lookup) (c : SearchContext) (first : SearchRequest) : Statement :=
  (ScopeQuery.build c.userId c.teamId first lookup.channelsByName).select.sent

/-- A search that asks for something goes on as its reads are answered. -/
theorem searchPosts_outcome (h : PostQuery.Asks (first :: rest)) {q : PostQuery}
    (hbuild : (PostQuery.build? c.teamId (first :: rest) c.pageNumber c.limit
      lookup.usersByUsername c.now).result = .ok (some q)) :
    ((searchPosts reader lookup c (first :: rest)).reads,
        (searchPosts reader lookup c (first :: rest)).result) =
      outcome c PostRow.deleteAt (scopeStatement lookup c first)
        (reader.channels (ScopeQuery.build c.userId c.teamId first lookup.channelsByName))
        (fun ids => (.posts, (PostQuery.select (q.within .channelId ids)).sent))
        fun ids => reader.posts (q.within .channelId ids) := by
  have hrequests := mt PostQuery.not_asks_of_isEmpty (not_not.mpr h)
  rw [searchPosts_cons, if_neg hrequests, funext readPosts_eq]
  exact scopedSearch_outcome (PostQuery.reads_build? first rest) hbuild
    (ScopeQuery.statement_build _ _ _ _).1 fun ids => (PostQuery.statement_within hbuild ids).1

theorem searchFiles_outcome (h : FileQuery.Asks (first :: rest)) {q : FileQuery}
    (hbuild : (FileQuery.build? c first (first :: rest) lookup.usersByUsername).result =
      .ok (some q)) :
    ((searchFiles reader lookup c (first :: rest)).reads,
        (searchFiles reader lookup c (first :: rest)).result) =
      outcome c FileRow.deleteAt (scopeStatement lookup c first)
        (reader.channels (ScopeQuery.build c.userId c.teamId first lookup.channelsByName))
        (fun ids => (.files, (FileQuery.select (q.within .channelId ids)).sent))
        fun ids => reader.files (q.within .channelId ids) := by
  have hrequests := mt FileQuery.not_asks_of_isEmpty (not_not.mpr h)
  rw [searchFiles_cons, if_neg hrequests, funext readFiles_eq]
  exact scopedSearch_outcome (FileQuery.reads_build? first rest) hbuild
    (ScopeQuery.statement_build _ _ _ _).1 fun ids => (FileQuery.statement_within hbuild ids).1

theorem searchPosts_keepsProtocol (hreader : reader.FailsSoftly) {q : PostQuery}
    (hbuild : PostQuery.Asks requests → (PostQuery.build? c.teamId requests c.pageNumber c.limit
      lookup.usersByUsername c.now).result = .ok (some q)) :
    (searchPosts reader lookup c requests).KeepsProtocol c (PostQuery.Asks requests) .posts
      (reader.channels
        (ScopeQuery.build c.userId c.teamId (requests.headD {}) lookup.channelsByName))
      (fun ids => reader.posts (q.within .channelId ids)) PostRow.deleteAt := by
  by_cases hask : PostQuery.Asks requests
  · cases requests with
    | nil => simp [PostQuery.Asks] at hask
    | cons first rest =>
      exact keepsProtocol_of_outcome hask (by decide) (hreader.channels _)
        (fun _ => hreader.posts _) (searchPosts_outcome hask (hbuild hask))
  · obtain ⟨hreads, hresult⟩ := @searchPosts_of_not_asks reader lookup c requests hask
    exact keepsProtocol_of_not_asks hask hreads hresult

theorem searchFiles_keepsProtocol (hreader : reader.FailsSoftly) {q : FileQuery}
    (hbuild : FileQuery.Asks requests → (FileQuery.build? c (requests.headD {}) requests
      lookup.usersByUsername).result = .ok (some q)) :
    (searchFiles reader lookup c requests).KeepsProtocol c (FileQuery.Asks requests) .files
      (reader.channels
        (ScopeQuery.build c.userId c.teamId (requests.headD {}) lookup.channelsByName))
      (fun ids => reader.files (q.within .channelId ids)) FileRow.deleteAt := by
  by_cases hask : FileQuery.Asks requests
  · cases requests with
    | nil => simp [FileQuery.Asks] at hask
    | cons first rest =>
      exact keepsProtocol_of_outcome hask (by decide) (hreader.channels _)
        (fun _ => hreader.files _) (searchFiles_outcome hask (hbuild hask))
  · obtain ⟨hreads, hresult⟩ := @searchFiles_of_not_asks reader lookup c requests hask
    exact keepsProtocol_of_not_asks hask hreads hresult

end Searches

/-- Searches of posts and of files read at most twice: the channels in scope when something is asked
for, then the rows within them, each unless the search is seen to be cancelled just before. Only then
does a search fail. -/
theorem searches_keep_protocol (reader : Reader) (hreader : reader.FailsSoftly) (lookup : Lookup)
    (c : SearchContext) (requests : List SearchRequest) :
    let first := requests.headD {}
    let channels := reader.channels (ScopeQuery.build c.userId c.teamId first lookup.channelsByName)
    (∀ q : PostQuery,
      (PostQuery.Asks requests → (PostQuery.build? c.teamId requests c.pageNumber c.limit
        lookup.usersByUsername c.now).result = .ok (some q)) →
      (searchPosts reader lookup c requests).KeepsProtocol c (PostQuery.Asks requests) .posts channels
        (fun ids => reader.posts (q.within .channelId ids)) PostRow.deleteAt) ∧
    ∀ q : FileQuery,
      (FileQuery.Asks requests →
        (FileQuery.build? c first requests lookup.usersByUsername).result = .ok (some q)) →
      (searchFiles reader lookup c requests).KeepsProtocol c (FileQuery.Asks requests) .files channels
        (fun ids => reader.files (q.within .channelId ids)) FileRow.deleteAt :=
  ⟨fun _ => searchPosts_keepsProtocol hreader, fun _ => searchFiles_keepsProtocol hreader⟩

/-- A search of posts finds the live one of two rows, and a search of files meets a store that fails. -/
theorem searches_keep_protocol_deploy :
    let row (id : String) (deleteAt : Int) : PostRow :=
      { id := id.toList, channelId := "C1".toList, userId := "u1".toList, rootId := []
        message := "deploy".toList, kind := [], createAt := 1000, deleteAt, replyCount := 0 }
    let reader : Reader :=
      { channels := fun _ => .ok ["C1".toList]
        posts := fun _ => .ok [row "p1" 2000, row "p2" 0]
        files := fun _ => .error (.store "disk I/O error".toList) }
    let c : SearchContext := { userId := "u1".toList, teamId := [], now := 0 }
    let requests : List SearchRequest := [{ terms := "deploy".toList }]
    reader.FailsSoftly ∧
      (searchPosts reader {} c requests).KeepsProtocol c (PostQuery.Asks requests) .posts
        (.ok ["C1".toList]) (fun _ => .ok [row "p1" 2000, row "p2" 0]) PostRow.deleteAt ∧
      (searchFiles reader {} c requests).KeepsProtocol c (FileQuery.Asks requests) .files
        (.ok ["C1".toList]) (fun _ => .error (.store "disk I/O error".toList)) FileRow.deleteAt ∧
      (searchPosts reader {} c requests).result = .ok (c.pageOf [row "p2" 0]) ∧
      (searchFiles reader {} c requests).result = .ok c.emptyPage := by
  intro row reader c requests
  have hreader : reader.FailsSoftly := ⟨nofun, nofun, nofun⟩
  have hdates {C : Type} (column : C) :
      SearchRequest.dateConditions c.now column { terms := "deploy".toList } = pure [] :=
    SearchRequest.dateConditions_of_not_hasFilters rfl
  obtain ⟨hposts, hfiles⟩ := searches_keep_protocol reader hreader {} c requests
  refine ⟨hreader, hposts (PostQuery.ofDates c false { terms := "deploy".toList } [] []) fun hask => ?_,
    hfiles (FileQuery.ofDates c false { terms := "deploy".toList } [] []) fun hask => ?_,
    by decide +kernel, by decide +kernel⟩
  · rw [PostQuery.build?_result, hdates]
    exact congrArg Except.ok (if_pos hask)
  · rw [List.headD_cons, FileQuery.build?_result, hdates]
    exact congrArg Except.ok (if_pos hask)

end ChannelSearch
