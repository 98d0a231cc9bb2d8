import ChannelSearch.Proofs.PageReads
import ChannelSearch.Proofs.SearchBoxContents
import ChannelSearch.Proofs.SearchRuns
import ChannelSearch.Proofs.VisibleChannels

/-!
Access control from raw text to rows. Main statement: whatever a user types, and whichever read fails,
the rows that come back lie in live channels that the user is a member of, in the team.
-/

namespace ChannelSearch

/-- The channel exists and is live, the user is a member of it, and it is of the team, if one is given,
or of none. -/
def Store.IsOpenTo (s : Store) (user team id : Text) : Prop :=
  ∃ c ∈ s.channels, c.id = id ∧ c.deleteAt = 0 ∧ ⟨id, user⟩ ∈ s.channelMembers ∧
    (team ≠ [] → c.teamId = team ∨ c.teamId = [])

instance (s : Store) (user team id : Text) : Decidable (s.IsOpenTo user team id) :=
  inferInstanceAs (Decidable (∃ c ∈ s.channels, _))

/-- A reader whose answers are those of a store. Any of its reads may fail, for any reason. -/
structure Store.Serves (s : Store) (reader : Reader) : Prop where
  channels : ∀ q ids, reader.channels q = .ok ids → ids = s.channelIds q
  posts : ∀ q rows, reader.posts q = .ok rows → s.readPosts q = .ok rows
  files : ∀ q rows, reader.files q = .ok rows → s.readFiles q = .ok rows

theorem Store.serves_reader (s : Store) : s.Serves s.reader :=
  ⟨fun _ _ h => (Except.ok.inj h).symm, fun _ _ h => h, fun _ _ h => h⟩

variable {s : Store} {user team : Text}

/-- Channels that are seen without the wider scopes are open to the user. -/
theorem Store.Sees.isOpenTo {r : SearchRequest} {byName : Bool} {id : Text}
    (h : s.Sees user team r byName id)
    (hscope : r.searchWithoutUserId = false ∧ r.includeDeletedChannels = false) :
    s.IsOpenTo user team id := by
  obtain ⟨c, hc, rfl⟩ := h
  exact ⟨c, hc.stored, rfl, hc.live hscope.2, hc.member hscope.1, hc.ofTeam⟩

/-- Without lists of channels and without the wider scopes, these are all that a search reads. -/
theorem Store.sees_iff_isOpenTo {r : SearchRequest} {byName : Bool} {id : Text}
    (hscope : r.searchWithoutUserId = false ∧ r.includeDeletedChannels = false)
    (hin : r.inChannels = []) (hex : r.excludedChannels = []) :
    s.Sees user team r byName id ↔ s.IsOpenTo user team id := by
  have hkeys : ScopeQuery.keys byName [] = [] := by cases byName <;> rfl
  constructor
  · exact fun h => h.isOpenTo hscope
  · rintro ⟨ch, hch, rfl, hlive, hmember, hteam⟩
    refine ⟨ch, ⟨hch, fun _ => hmember, fun _ => hlive, hteam, absurd hin, ?_⟩, rfl⟩
    rw [hex, hkeys]
    exact List.not_mem_nil

variable {reader : Reader} {lookup : Lookup} {c : SearchContext}

theorem isOpenTo_of_read (hreader : s.Serves reader) {requests : List SearchRequest}
    (hrequests : ∀ r ∈ requests, r.searchWithoutUserId = false ∧ r.includeDeletedChannels = false)
    {first : SearchRequest} (hfirst : first ∈ requests.head?) {ids : List Text}
    (hids : reader.channels (ScopeQuery.build c.userId c.teamId first lookup.channelsByName) = .ok ids)
    {id : Text} (hid : id ∈ ids) : s.IsOpenTo c.userId c.teamId id := by
  rw [hreader.channels _ _ hids] at hid
  exact (Store.mem_channelIds.mp hid).isOpenTo (hrequests first (List.mem_of_mem_head? hfirst))

theorem posts_isOpenTo (hreader : s.Serves reader) {requests : List SearchRequest}
    (hrequests : ∀ r ∈ requests, r.searchWithoutUserId = false ∧ r.includeDeletedChannels = false)
    {page : Page PostRow} (hpage : (searchPosts reader lookup c requests).result = .ok page)
    {row : PostRow} (hrow : row ∈ page.rows) : s.IsOpenTo c.userId c.teamId row.channelId := by
  obtain rfl | ⟨first, hfirst, q, ids, rows, hids, hrows, rfl⟩ := searchPosts_ok hpage
  · cases hrow
  · obtain ⟨p, -, rfl, hid⟩ :=
      Store.mem_readPosts (hreader.posts _ _ hrows) (List.mem_of_mem_filter hrow)
    exact isOpenTo_of_read hreader hrequests hfirst hids hid

theorem files_isOpenTo (hreader : s.Serves reader) {requests : List SearchRequest}
    (hrequests : ∀ r ∈ requests, r.searchWithoutUserId = false ∧ r.includeDeletedChannels = false)
    {page : Page FileRow} (hpage : (searchFiles reader lookup c requests).result = .ok page)
    {row : FileRow} (hrow : row ∈ page.rows) : s.IsOpenTo c.userId c.teamId row.channelId := by
  obtain rfl | ⟨first, hfirst, q, ids, rows, hids, hrows, rfl⟩ := searchFiles_ok hpage
  · cases hrow
  · obtain ⟨f, -, rfl, hid⟩ :=
      Store.mem_readFiles (hreader.files _ _ hrows) (List.mem_of_mem_filter hrow)
    exact isOpenTo_of_read hreader hrequests hfirst hids hid

/-- No text opens a channel to a user: the rows of posts and of files that a search box text finds
lie in channels that are open to the user, and there are none when the channels cannot be read. -/
theorem search_box_isOpenTo (hreader : s.Serves reader) (lookup : Lookup) (c : SearchContext)
    (t : Text) (offset : Int) :
    (∀ page, (searchPosts reader lookup c (SearchBox.parse t offset)).result = .ok page →
      (∀ row ∈ page.rows, s.IsOpenTo c.userId c.teamId row.channelId) ∧
        ((∀ q ids, reader.channels q ≠ .ok ids) → page.rows = [])) ∧
    ∀ page, (searchFiles reader lookup c (SearchBox.parse t offset)).result = .ok page →
      (∀ row ∈ page.rows, s.IsOpenTo c.userId c.teamId row.channelId) ∧
        ((∀ q ids, reader.channels q ≠ .ok ids) → page.rows = []) := by
  have hrequests (r : SearchRequest) (hr : r ∈ SearchBox.parse t offset) :=
    SearchBox.scope_of_mem_parse hr
  refine ⟨fun page hpage => ⟨fun row => posts_isOpenTo hreader hrequests hpage, fun hfail => ?_⟩,
    fun page hpage => ⟨fun row => files_isOpenTo hreader hrequests hpage, fun hfail => ?_⟩⟩
  · obtain rfl | ⟨_, _, _, ids, _, hids, _⟩ := searchPosts_ok hpage
    · rfl
    · exact absurd hids (hfail _ _)
  · obtain rfl | ⟨_, _, _, ids, _, hids, _⟩ := searchFiles_ok hpage
    · rfl
    · exact absurd hids (hfail _ _)

/-- A member of one of two channels finds a post in it, and not the thread that goes on in the other. -/
theorem search_box_isOpenTo_sample :
    let c : SearchContext := { userId := "u1".toList, teamId := "T1".toList, now := 0 }
    sampleStore.Serves sampleStore.reader ∧ ∃ page,
      (searchPosts sampleStore.reader {} c (SearchBox.parse "deploy -succeeded".toList 0)).result =
          .ok page ∧
        page.rows.map PostRow.id = ["p1".toList] ∧
          ∀ row ∈ page.rows, sampleStore.IsOpenTo "u1".toList "T1".toList row.channelId := by
  intro c
  have hserves := sampleStore.serves_reader
  have hfound :
      (searchPosts sampleStore.reader {} c (SearchBox.parse "deploy -succeeded".toList 0)).result.map
        (fun page => page.rows.map PostRow.id) = .ok ["p1".toList] := by
    decide +kernel
  obtain ⟨page, hpage, hids⟩ := map_eq_ok.mp hfound
  exact ⟨hserves, page, hpage, hids, ((search_box_isOpenTo hserves {} c _ 0).1 page hpage).1⟩

end ChannelSearch
