import ChannelSearch.Proofs.ChannelAccess
import ChannelSearch.Proofs.PostSearch
import ChannelSearch.Proofs.StoreRows

/-!
Writes between the two reads of a search of posts. Main statement: the search returns the posts of the
later store, in the channels of the earlier one, and with a single write in between it goes as a search
of one of the two stores.
-/

namespace ChannelSearch

variable {reader reader' : Reader} {lookup : Lookup} {c : SearchContext}
  {requests : List SearchRequest}

/-- What a search of posts makes of its reader. -/
theorem searchPosts_congr
    (hchannels : ∀ r, reader.channels (ScopeQuery.build c.userId c.teamId r lookup.channelsByName) =
      reader'.channels (ScopeQuery.build c.userId c.teamId r lookup.channelsByName))
    (hposts : reader.posts = reader'.posts) :
    searchPosts reader lookup c requests = searchPosts reader' lookup c requests := by
  cases requests with
  | nil => rfl
  | cons first rest =>
    have hvisible :
        visibleChannels reader (ScopeQuery.build c.userId c.teamId first lookup.channelsByName) =
          visibleChannels reader'
            (ScopeQuery.build c.userId c.teamId first lookup.channelsByName) := by
      unfold visibleChannels
      rw [hchannels first]
    have hread : readPosts reader c = readPosts reader' c := by
      funext q
      rw [readPosts_eq, readPosts_eq, hposts]
    rw [searchPosts_cons, searchPosts_cons, hread]
    unfold scopedSearch
    rw [hvisible]

namespace Write

/-- The write goes to a table that the channels of a search are read from. -/
def IsOfChannels : Write → Prop
  | .channel _ => True
  | .channelMember _ => True
  | _ => False

instance (w : Write) : Decidable w.IsOfChannels :=
  match w with
  | .channel _ => isTrue trivial
  | .channelMember _ => isTrue trivial
  | .team _ | .user _ | .teamMember _ | .post _ | .file _ => isFalse id

end Write

namespace Store

variable {s t : Store} {w : Write} {ws : List Write}

/-- The tables that channels are read from, when a search asks for them, are the same. -/
structure SameChannels (s t : Store) : Prop where
  channels : s.channels = t.channels
  channelMembers : s.channelMembers = t.channelMembers

/-- The tables that posts are read from are the same. -/
structure SamePosts (s t : Store) : Prop where
  posts : s.posts = t.posts
  users : s.users = t.users
  teamMembers : s.teamMembers = t.teamMembers

theorem SameChannels.refl (s : Store) : SameChannels s s := ⟨rfl, rfl⟩

theorem SameChannels.trans {u : Store} (h : SameChannels s t) (h' : SameChannels t u) :
    SameChannels s u :=
  ⟨h.channels.trans h'.channels, h.channelMembers.trans h'.channelMembers⟩

theorem SamePosts.refl (s : Store) : SamePosts s s := ⟨rfl, rfl, rfl⟩

theorem SamePosts.trans {u : Store} (h : SamePosts s t) (h' : SamePosts t u) : SamePosts s u :=
  ⟨h.posts.trans h'.posts, h.users.trans h'.users, h.teamMembers.trans h'.teamMembers⟩

/-- The channels of a search do not depend on users. -/
theorem SameChannels.channelIds_eq (h : SameChannels s t) (user team : Text) (r : SearchRequest)
    (byName : Bool) :
    s.channelIds (ScopeQuery.build user team r byName) =
      t.channelIds (ScopeQuery.build user team r byName) := by
  have hholds (ch : Channel) (m : ChannelMember) :
      Condition.holdsAll s.userIds (ch.values m) (ScopeQuery.build user team r byName).conditions =
        Condition.holdsAll t.userIds (ch.values m)
          (ScopeQuery.build user team r byName).conditions := by
    rw [Bool.eq_iff_iff, ScopeQuery.holds_build, ScopeQuery.holds_build]
  unfold channelIds
  simp only [hholds, h.channels, h.channelMembers]

theorem SamePosts.readPosts_eq (h : SamePosts s t) : s.readPosts = t.readPosts := by
  have husers : s.userIds = t.userIds := by
    funext q
    rw [userIds, userIds, h.users, h.teamMembers]
  have hrow : s.postRow = t.postRow := by
    funext p
    rw [postRow, postRow, replyCount, replyCount, h.posts]
  funext q
  rw [readPosts, readPosts, husers, hrow, h.posts]

/-- A refused write leaves the store as it is. -/
theorem written_eq (s : Store) (w : Write) :
    (s.write w).toOption.getD s = s ∨ (s.write w).toOption.getD s = s.put w := by
  rw [write_eq]
  split_ifs
  · exact Or.inl rfl
  · exact Or.inr rfl
  · exact Or.inl rfl

theorem samePosts_written (h : w.IsOfChannels) : SamePosts s ((s.write w).toOption.getD s) := by
  have hput : SamePosts s (s.put w) := by
    cases w with
    | channel _ => exact ⟨rfl, rfl, rfl⟩
    | channelMember _ => exact ⟨rfl, rfl, rfl⟩
    | _ => exact absurd h id
  rcases written_eq s w with heq | heq <;> rw [heq]
  · exact SamePosts.refl s
  · exact hput

theorem sameChannels_written (h : ¬ w.IsOfChannels) :
    SameChannels s ((s.write w).toOption.getD s) := by
  have hput : SameChannels s (s.put w) := by
    cases w with
    | channel _ => exact absurd trivial h
    | channelMember _ => exact absurd trivial h
    | _ => exact ⟨rfl, rfl⟩
  rcases written_eq s w with heq | heq <;> rw [heq]
  · exact SameChannels.refl s
  · exact hput

/-- Writes of channels and their members leave the tables of posts alone. -/
theorem samePosts_writeAll (h : ∀ w ∈ ws, w.IsOfChannels) : SamePosts s (s.writeAll ws) := by
  induction ws generalizing s with
  | nil => exact SamePosts.refl s
  | cons w ws ih =>
    obtain ⟨hw, hws⟩ := List.forall_mem_cons.mp h
    exact (samePosts_written hw).trans (ih hws)

/-- All other writes leave the tables of channels alone. -/
theorem sameChannels_writeAll (h : ∀ w ∈ ws, ¬ w.IsOfChannels) : SameChannels s (s.writeAll ws) := by
  induction ws generalizing s with
  | nil => exact SameChannels.refl s
  | cons w ws ih =>
    obtain ⟨hw, hws⟩ := List.forall_mem_cons.mp h
    exact (sameChannels_written hw).trans (ih hws)

/-- What a search of posts returns that finds some channels to be visible: the page that its query gives
on the store within these channels, unless it is cancelled. -/
def searchWithin (s : Store) (lookup : Lookup) (c : SearchContext) (requests : List SearchRequest)
    (ids : List Text) : Except SearchError (Page PostRow) :=
  match requests with
  | [] => pure c.emptyPage
  | _ :: _ => do
    match ← (PostQuery.build? c.teamId requests c.pageNumber c.limit lookup.usersByUsername
      c.now).result with
    | none => pure c.emptyPage
    | some q =>
      (c.check .beforeScope).result
      if ids.isEmpty then pure c.emptyPage
      else (ChannelSearch.readPosts s.reader c (q.within .channelId ids)).result

/-- The channels of one store and the posts of another. -/
theorem searchPosts_readerOf_eq (s later : Store) :
    (searchPosts (readerOf s later) lookup c requests).result =
      later.searchWithin lookup c requests (s.channelIds
        (ScopeQuery.build c.userId c.teamId (requests.headD {}) lookup.channelsByName)) := by
  cases requests with
  | nil => rfl
  | cons first rest =>
    have hvisible : (visibleChannels (readerOf s later)
        (ScopeQuery.build c.userId c.teamId first lookup.channelsByName)).result =
          .ok (s.channelIds (ScopeQuery.build c.userId c.teamId first lookup.channelsByName)) :=
      visibleChannels_reader s c.userId c.teamId first lookup.channelsByName
    have hread : ChannelSearch.readPosts (readerOf s later) c =
        ChannelSearch.readPosts later.reader c := by
      funext q
      rw [ChannelSearch.readPosts_eq, ChannelSearch.readPosts_eq]
      rfl
    rw [searchPosts_cons, searchWithin, hread, List.headD_cons]
    by_cases hempty : (first :: rest).all (·.isEmpty) = true
    · rw [if_pos hempty, PostQuery.build?_of_not_asks (PostQuery.not_asks_of_isEmpty hempty)]
      rfl
    · rw [if_neg hempty]
      cases hbuild : (PostQuery.build? c.teamId (first :: rest) c.pageNumber c.limit
          lookup.usersByUsername c.now).result with
      | error e =>
        rw [scopedSearch_of_error hbuild]
        rfl
      | ok query =>
        cases query with
        | none =>
          rw [scopedSearch_of_none hbuild]
          rfl
        | some q =>
          rw [scopedSearch_of_query hbuild hvisible]
          rfl

end Store

variable {s : Store} {ws : List Write}

/-- Every row is one of the later store, in a channel that the earlier one showed. -/
theorem sees_of_mem_rows {later : Store} {page : Page PostRow}
    (hpage : (searchPosts (Store.readerOf s later) lookup c requests).result = .ok page)
    {row : PostRow} (hrow : row ∈ page.rows) :
    (∃ p ∈ later.posts, row = later.postRow p) ∧
      s.Sees c.userId c.teamId (requests.headD {}) lookup.channelsByName row.channelId := by
  obtain rfl | ⟨first, hfirst, q, ids, rows, hids, hrows, rfl⟩ := searchPosts_ok hpage
  · cases hrow
  · obtain ⟨p, hp, rfl, hid⟩ := Store.mem_readPosts hrows (List.mem_of_mem_filter hrow)
    have hheadD : requests.headD {} = first := by
      rw [List.headD_eq_head?_getD, hfirst, Option.getD_some]
    rw [← Except.ok.inj hids] at hid
    exact ⟨⟨p, hp, rfl⟩, hheadD ▸ Store.mem_channelIds.mp hid⟩

/-- Writes of channels alone come too late for the search. -/
theorem searchPosts_of_channelWrites (h : ∀ w ∈ ws, w.IsOfChannels) :
    searchPosts (Store.readerOf s (s.writeAll ws)) lookup c requests =
      searchPosts s.reader lookup c requests :=
  searchPosts_congr (fun _ => rfl) (Store.samePosts_writeAll h).readPosts_eq.symm

/-- All other writes might as well come before it. -/
theorem searchPosts_of_otherWrites (h : ∀ w ∈ ws, ¬ w.IsOfChannels) :
    searchPosts (Store.readerOf s (s.writeAll ws)) lookup c requests =
      searchPosts (s.writeAll ws).reader lookup c requests :=
  searchPosts_congr
    (fun r => congrArg Except.ok ((Store.sameChannels_writeAll h).channelIds_eq _ _ r _)) rfl

theorem searchPosts_of_oneWrite (hlength : ws.length ≤ 1) :
    searchPosts (Store.readerOf s (s.writeAll ws)) lookup c requests =
        searchPosts s.reader lookup c requests ∨
      searchPosts (Store.readerOf s (s.writeAll ws)) lookup c requests =
        searchPosts (s.writeAll ws).reader lookup c requests := by
  match ws with
  | [] => exact Or.inl (searchPosts_of_channelWrites nofun)
  | [w] =>
    by_cases hw : w.IsOfChannels
    · exact Or.inl (searchPosts_of_channelWrites (List.forall_mem_singleton.mpr hw))
    · exact Or.inr (searchPosts_of_otherWrites (List.forall_mem_singleton.mpr hw))
  | _ :: _ :: _ => simp at hlength

/-- A search of posts, with writes after it reads the channels and before it reads the posts, returns
what its query gives on the later store within the channels of the earlier one, and no post of another
channel. With at most one write in between it goes in every respect as a search of the store before the
write, or after it. -/
theorem searchPosts_between_writes (s : Store) (ws : List Write) (lookup : Lookup) (c : SearchContext)
    (requests : List SearchRequest) :
    let first := requests.headD {}
    let later := s.writeAll ws
    let run := searchPosts (Store.readerOf s later) lookup c requests
    run.result = later.searchWithin lookup c requests
      (s.channelIds (ScopeQuery.build c.userId c.teamId first lookup.channelsByName)) ∧
    (∀ page, run.result = .ok page → ∀ row ∈ page.rows, (∃ p ∈ later.posts, row = later.postRow p) ∧
      s.Sees c.userId c.teamId first lookup.channelsByName row.channelId) ∧
    (ws.length ≤ 1 → run = searchPosts s.reader lookup c requests ∨
      run = searchPosts later.reader lookup c requests) := by
  intro first later run
  exact ⟨Store.searchPosts_readerOf_eq s later,
    fun page hpage row hrow => sees_of_mem_rows hpage hrow, searchPosts_of_oneWrite⟩

/-- A user who joins a channel between the reads of a search finds no post of it, but finds what is
written then in a channel that is open already. -/
theorem searchPosts_between_writes_joined :
    let c : SearchContext := { userId := "u1".toList, teamId := "T1".toList, now := 0 }
    let requests : List SearchRequest := [{ terms := "secret".toList }]
    let joins : Write := .channelMember ⟨"C2".toList, "u1".toList⟩
    let post : Write := .post
      { id := "p3".toList, channelId := "C1".toList, userId := "u1".toList
        message := "no secret".toList, createAt := 4000 }
    let run (ws : List Write) := searchPosts
      (Store.readerOf sampleStore (sampleStore.writeAll ws)) {} c requests
    let ids (ws : List Write) := (run ws).result.map fun page => page.rows.map PostRow.id
    (run [joins]).result = (sampleStore.writeAll [joins]).searchWithin {} c requests ["C1".toList] ∧
      (run [joins] = searchPosts sampleStore.reader {} c requests ∨
        run [joins] = searchPosts (sampleStore.writeAll [joins]).reader {} c requests) ∧
      (∃ page, (run [joins, post]).result = .ok page ∧
        ∀ row ∈ page.rows, sampleStore.Sees c.userId c.teamId (requests.headD {}) false row.channelId) ∧
      ids [joins] = .ok [] ∧ ids [joins, post] = .ok ["p3".toList] := by
  intro c requests joins post run ids
  obtain ⟨hresult, -, hone⟩ := searchPosts_between_writes sampleStore [joins] {} c requests
  obtain ⟨-, hrows, -⟩ := searchPosts_between_writes sampleStore [joins, post] {} c requests
  have hids : ids [joins, post] = .ok ["p3".toList] := by decide +kernel
  obtain ⟨page, hpage, -⟩ := map_eq_ok.mp hids
  exact ⟨hresult, hone (le_refl 1), ⟨page, hpage, fun row hrow => (hrows page hpage row hrow).2⟩,
    by decide +kernel, hids⟩

end ChannelSearch
