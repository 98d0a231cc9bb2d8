import ChannelSearch.Search.Files
import ChannelSearch.Search.Posts
import Mathlib.Tactic.Common

/-!
The results of searches, apart from what is logged and sent on the way. A page is empty, or its rows
are the answer of the reader within channels that the reader gave first.
-/

namespace ChannelSearch

deriving instance DecidableEq for Page

@[simp] theorem ok_bind {ε α β : Type} (a : α) (f : α → Except ε β) : Except.ok a >>= f = f a := rfl

/-- A sequence succeeds when its parts do. -/
theorem bind_eq_ok {ε α β : Type} {x : Except ε α} {f : α → Except ε β} {b : β} :
    x >>= f = .ok b ↔ ∃ a, x = .ok a ∧ f a = .ok b := by
  cases x with
  | error e =>
    constructor
    · intro h
      cases h
    · rintro ⟨a, h, -⟩
      cases h
  | ok a =>
    constructor
    · exact fun h => ⟨a, rfl, h⟩
    · rintro ⟨a, heq, h⟩
      cases heq
      exact h

theorem map_eq_ok {ε α β : Type} {x : Except ε α} {f : α → β} {b : β} :
    x.map f = .ok b ↔ ∃ a, x = .ok a ∧ f a = b := by
  cases x <;> simp [Except.map]

theorem mapError_eq_ok {ε δ α : Type} {x : Except ε α} {f : ε → δ} {a : α} :
    x.mapError f = .ok a ↔ x = .ok a := by
  cases x <;> simp [Except.mapError]

namespace Traced

variable {ε δ α β γ : Type}

theorem bind_map_id (x : Traced ε α) : (do Pure.pure (id (← x))) = x := by
  obtain ⟨events, result⟩ := x
  cases result with
  | error e => rfl
  | ok a => exact congrArg (Traced.mk · _) (List.append_nil events)

theorem bind_bind (x : Traced ε α) (f : α → Traced ε β) (g : β → Traced ε γ) :
    x >>= f >>= g = x >>= fun a => f a >>= g := by
  show Traced.bind (Traced.bind x f) g = Traced.bind x fun a => Traced.bind (f a) g
  obtain ⟨events, result⟩ := x
  cases result with
  | error e => rfl
  | ok a => cases h : (f a).result <;> simp [Traced.bind, h]

/-- Sequences of runs obey the laws of monads, events included. -/
instance : LawfulMonad (Traced ε) :=
  LawfulMonad.mk' _ (fun x => bind_map_id x) (fun _ _ => rfl) bind_bind

@[simp] theorem result_pure (a : α) : (Pure.pure a : Traced ε α).result = .ok a := rfl

@[simp] theorem result_bind (x : Traced ε α) (f : α → Traced ε β) :
    (x >>= f).result = x.result >>= fun a => (f a).result := by
  show (Traced.bind x f).result = x.result.bind _
  unfold Traced.bind
  cases x.result <;> rfl

@[simp] theorem result_ofExcept (x : Except ε α) : (ofExcept x).result = x := rfl

@[simp] theorem result_tell (e : Event) : (tell e : Traced ε Unit).result = .ok () := rfl

@[simp] theorem result_log (level : LogLevel) (source : LogSource) (message : Text) :
    (log level source message : Traced ε Unit).result = .ok () := rfl

@[simp] theorem result_mapError (f : ε → δ) (x : Traced ε α) :
    (x.mapError f).result = x.result.mapError f := rfl

theorem result_bind_eq_ok {x : Traced ε α} {f : α → Traced ε β} {b : β} :
    (x >>= f).result = .ok b ↔ ∃ a, x.result = .ok a ∧ (f a).result = .ok b := by
  rw [result_bind]
  exact bind_eq_ok

end Traced

open Traced (result_bind_eq_ok)

theorem SearchContext.check_result (c : SearchContext) (point : Checkpoint) :
    (c.check point).result = if c.cancellation.seenAt point then .error .cancelled else .ok () := by
  unfold check
  split_ifs <;> rfl

/-- The channels in scope are what the reader answers, or none when it fails. -/
theorem visibleChannels_ok {reader : Reader} {q : ScopeQuery} {ids : List Text}
    (h : (visibleChannels reader q).result = .ok ids) : ids = [] ∨ reader.channels q = .ok ids := by
  obtain ⟨s, -, h⟩ := result_bind_eq_ok.mp h
  obtain ⟨-, -, h⟩ := result_bind_eq_ok.mp h
  split at h
  · next found hread => exact Or.inr (Except.ok.inj h ▸ hread)
  · cases h
  · exact Or.inl (Except.ok.inj h).symm

section Pages

variable {α C : Type} {reader : Reader} {lookup : Lookup} {c : SearchContext} {page : Page α}

/-- The reading of a page, whatever its rows are. -/
def readPage (c : SearchContext) (select : Sql.Select) (read : Read) (source : LogSource)
    (failure : String) (deleteAt : α → Int) (answer : Except ReadError (List α)) :
    Traced SearchError (Page α) := do
  let s ← .ofExcept (select.statement.mapError .select)
  c.check .beforeMain
  Traced.tell (.sent read s)
  match answer with
  | .ok rows => pure (c.pageOf (rows.filter (deleteAt · = 0)))
  | .error .integerOverflow => .fail .integerOverflow
  | .error (.store message) => do
    Traced.log .warning source (failure.toList ++ message.logLine)
    pure c.emptyPage

theorem readPage_of_ok {select : Sql.Select} {read : Read} {source : LogSource} {failure : String}
    {deleteAt : α → Int} {s : Sql.Statement} {rows : List α} (hstatement : select.statement = .ok s)
    (hcancel : c.cancellation = .never) :
    (readPage c select read source failure deleteAt (.ok rows)).result =
      .ok (c.pageOf (rows.filter (deleteAt · = 0))) := by
  unfold readPage
  simp only [Traced.result_bind, Traced.result_ofExcept, hstatement, Except.mapError, ok_bind,
    SearchContext.check_result, hcancel, Cancellation.seenAt, Bool.false_eq_true, if_false,
    Traced.result_tell, Traced.result_pure]

theorem readPage_ok {select : Sql.Select} {read : Read} {source : LogSource} {failure : String}
    {deleteAt : α → Int} {answer : Except ReadError (List α)}
    (h : (readPage c select read source failure deleteAt answer).result = .ok page) :
    page = c.emptyPage ∨
      ∃ rows, answer = .ok rows ∧ page = c.pageOf (rows.filter (deleteAt · = 0)) := by
  obtain ⟨s, -, h⟩ := result_bind_eq_ok.mp h
  obtain ⟨-, -, h⟩ := result_bind_eq_ok.mp h
  obtain ⟨-, -, h⟩ := result_bind_eq_ok.mp h
  cases answer with
  | ok rows => exact Or.inr ⟨rows, rfl, (Except.ok.inj h).symm⟩
  | error e =>
    cases e with
    | store message => exact Or.inl (Except.ok.inj h).symm
    | integerOverflow => cases h

/-- What a search does once it has a query: it reads the channels in scope, then a page within them. -/
def scopedSearch (reader : Reader) (lookup : Lookup) (c : SearchContext) (first : SearchRequest)
    (column : C) (build : Traced SearchError (Option (PageQuery C)))
    (read : PageQuery C → Traced SearchError (Page α)) : Traced SearchError (Page α) := do
  match ← build with
  | none => pure c.emptyPage
  | some q =>
    c.check .beforeScope
    let ids ← visibleChannels reader
      (ScopeQuery.build c.userId c.teamId first lookup.channelsByName)
    if ids.isEmpty then pure c.emptyPage else read (q.within column ids)

theorem scopedSearch_of_none {first : SearchRequest} {column : C}
    {build : Traced SearchError (Option (PageQuery C))}
    {read : PageQuery C → Traced SearchError (Page α)} (hbuild : build.result = .ok none) :
    (scopedSearch reader lookup c first column build read).result = .ok c.emptyPage := by
  unfold scopedSearch
  simp only [Traced.result_bind, hbuild, ok_bind, Traced.result_pure]

theorem scopedSearch_of_error {first : SearchRequest} {column : C} {e : SearchError}
    {build : Traced SearchError (Option (PageQuery C))}
    {read : PageQuery C → Traced SearchError (Page α)} (hbuild : build.result = .error e) :
    (scopedSearch reader lookup c first column build read).result = .error e := by
  unfold scopedSearch
  rw [Traced.result_bind, hbuild]
  rfl

theorem scopedSearch_of_query {first : SearchRequest} {column : C} {q : PageQuery C}
    {build : Traced SearchError (Option (PageQuery C))} {ids : List Text}
    {read : PageQuery C → Traced SearchError (Page α)} (hbuild : build.result = .ok (some q))
    (hids : (visibleChannels reader
      (ScopeQuery.build c.userId c.teamId first lookup.channelsByName)).result = .ok ids) :
    (scopedSearch reader lookup c first column build read).result =
      (c.check .beforeScope).result >>= fun _ =>
        if ids.isEmpty then .ok c.emptyPage else (read (q.within column ids)).result := by
  unfold scopedSearch
  simp only [Traced.result_bind, hbuild, ok_bind, hids]
  split_ifs <;> rfl

theorem scopedSearch_of_some {first : SearchRequest} {column : C} {q : PageQuery C}
    {build : Traced SearchError (Option (PageQuery C))} {ids : List Text}
    {read : PageQuery C → Traced SearchError (Page α)} (hbuild : build.result = .ok (some q))
    (hcancel : c.cancellation = .never)
    (hids : (visibleChannels reader
      (ScopeQuery.build c.userId c.teamId first lookup.channelsByName)).result = .ok ids) :
    (scopedSearch reader lookup c first column build read).result =
      if ids.isEmpty then .ok c.emptyPage else (read (q.within column ids)).result := by
  rw [scopedSearch_of_query hbuild hids, SearchContext.check_result, hcancel]
  rfl

/-- The two ways to a page: there is nothing to read, or the query that is built is read within channels. -/
theorem scopedSearch_built {first : SearchRequest} {column : C}
    {build : Traced SearchError (Option (PageQuery C))}
    {read : PageQuery C → Traced SearchError (Page α)}
    (h : (scopedSearch reader lookup c first column build read).result = .ok page) :
    page = c.emptyPage ∨ ∃ (q : PageQuery C) (ids : List Text), build.result = .ok (some q) ∧
      reader.channels (ScopeQuery.build c.userId c.teamId first lookup.channelsByName) = .ok ids ∧
        (read (q.within column ids)).result = .ok page := by
  obtain ⟨query, hquery, h⟩ := result_bind_eq_ok.mp h
  cases query with
  | none => exact Or.inl (Except.ok.inj h).symm
  | some q =>
    obtain ⟨-, -, h⟩ := result_bind_eq_ok.mp h
    obtain ⟨ids, hids, h⟩ := result_bind_eq_ok.mp h
    split at h
    · exact Or.inl (Except.ok.inj h).symm
    · next hne =>
      have hread := (visibleChannels_ok hids).resolve_left (by simpa using hne)
      exact Or.inr ⟨q, ids, hquery, hread, h⟩

end Pages

variable {reader : Reader} {lookup : Lookup} {c : SearchContext}

theorem readPosts_eq (q : PostQuery) :
    readPosts reader c q =
      readPage c (PostQuery.select q) .posts .posts "search_posts_query_failed error="
        PostRow.deleteAt (reader.posts q) := by
  unfold readPosts readPage
  cases reader.posts q with
  | ok rows => rfl
  | error e => cases e <;> rfl

theorem readFiles_eq (q : FileQuery) :
    readFiles reader c q =
      readPage c (FileQuery.select q) .files .files "search_files_query_failed error="
        FileRow.deleteAt (reader.files q) := by
  unfold readFiles readPage
  cases reader.files q with
  | ok rows => rfl
  | error e => cases e <;> rfl

theorem searchPosts_cons (first : SearchRequest) (rest : List SearchRequest) :
    searchPosts reader lookup c (first :: rest) =
      if (first :: rest).all (·.isEmpty) then pure c.emptyPage
      else
        scopedSearch reader lookup c first .channelId
          (PostQuery.build? c.teamId (first :: rest) c.pageNumber c.limit lookup.usersByUsername
            c.now)
          (readPosts reader c) := by
  simp only [searchPosts, scopedSearch]
  congr 2
  funext query
  cases query <;> rfl

theorem searchFiles_cons (first : SearchRequest) (rest : List SearchRequest) :
    searchFiles reader lookup c (first :: rest) =
      if (first :: rest).all (fun r => r.isEmpty && r.extensions.isEmpty) then pure c.emptyPage
      else
        scopedSearch reader lookup c first .channelId
          (FileQuery.build? c first (first :: rest) lookup.usersByUsername)
          (readFiles reader c) := by
  simp only [searchFiles, scopedSearch]
  congr 2
  funext query
  cases query <;> rfl

/-- The two ways to a page of posts. -/
theorem searchPosts_built {requests : List SearchRequest} {page : Page PostRow}
    (h : (searchPosts reader lookup c requests).result = .ok page) :
    page = c.emptyPage ∨ ∃ first rest q ids rows, requests = first :: rest ∧
      (PostQuery.build? c.teamId requests c.pageNumber c.limit lookup.usersByUsername c.now).result =
          .ok (some q) ∧
        reader.channels (ScopeQuery.build c.userId c.teamId first lookup.channelsByName) = .ok ids ∧
          reader.posts (PageQuery.within q .channelId ids) = .ok rows ∧
            page = c.pageOf (rows.filter (·.deleteAt = 0)) := by
  cases requests with
  | nil => exact Or.inl (Except.ok.inj h).symm
  | cons first rest =>
    rw [searchPosts_cons] at h
    split_ifs at h
    · exact Or.inl (Except.ok.inj h).symm
    · obtain hempty | ⟨q, ids, hbuilt, hids, h⟩ := scopedSearch_built h
      · exact Or.inl hempty
      · rw [readPosts_eq] at h
        obtain hempty | ⟨rows, hrows, hpage⟩ := readPage_ok h
        · exact Or.inl hempty
        · exact Or.inr ⟨first, rest, q, ids, rows, rfl, hbuilt, hids, hrows, hpage⟩

theorem searchPosts_ok {requests : List SearchRequest} {page : Page PostRow}
    (h : (searchPosts reader lookup c requests).result = .ok page) :
    page = c.emptyPage ∨ ∃ first ∈ requests.head?, ∃ q ids rows,
      reader.channels (ScopeQuery.build c.userId c.teamId first lookup.channelsByName) = .ok ids ∧
        reader.posts (PageQuery.within q .channelId ids) = .ok rows ∧
          page = c.pageOf (rows.filter (·.deleteAt = 0)) := by
  obtain hempty | ⟨first, rest, q, ids, rows, rfl, -, hread⟩ := searchPosts_built h
  · exact Or.inl hempty
  · exact Or.inr ⟨first, rfl, q, ids, rows, hread⟩

/-- The two ways to a page of files. -/
theorem searchFiles_built {requests : List SearchRequest} {page : Page FileRow}
    (h : (searchFiles reader lookup c requests).result = .ok page) :
    page = c.emptyPage ∨ ∃ first rest q ids rows, requests = first :: rest ∧
      (FileQuery.build? c first requests lookup.usersByUsername).result = .ok (some q) ∧
        reader.channels (ScopeQuery.build c.userId c.teamId first lookup.channelsByName) = .ok ids ∧
          reader.files (PageQuery.within q .channelId ids) = .ok rows ∧
            page = c.pageOf (rows.filter (·.deleteAt = 0)) := by
  cases requests with
  | nil => exact Or.inl (Except.ok.inj h).symm
  | cons first rest =>
    rw [searchFiles_cons] at h
    split_ifs at h
    · exact Or.inl (Except.ok.inj h).symm
    · obtain hempty | ⟨q, ids, hbuilt, hids, h⟩ := scopedSearch_built h
      · exact Or.inl hempty
      · rw [readFiles_eq] at h
        obtain hempty | ⟨rows, hrows, hpage⟩ := readPage_ok h
        · exact Or.inl hempty
        · exact Or.inr ⟨first, rest, q, ids, rows, rfl, hbuilt, hids, hrows, hpage⟩

theorem searchFiles_ok {requests : List SearchRequest} {page : Page FileRow}
    (h : (searchFiles reader lookup c requests).result = .ok page) :
    page = c.emptyPage ∨ ∃ first ∈ requests.head?, ∃ q ids rows,
      reader.channels (ScopeQuery.build c.userId c.teamId first lookup.channelsByName) = .ok ids ∧
        reader.files (PageQuery.within q .channelId ids) = .ok rows ∧
          page = c.pageOf (rows.filter (·.deleteAt = 0)) := by
  obtain hempty | ⟨first, rest, q, ids, rows, rfl, -, hread⟩ := searchFiles_built h
  · exact Or.inl hempty
  · exact Or.inr ⟨first, rfl, q, ids, rows, hread⟩

end ChannelSearch
