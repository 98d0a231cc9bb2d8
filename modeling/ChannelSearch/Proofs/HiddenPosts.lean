import ChannelSearch.Proofs.PageReads
import ChannelSearch.Proofs.VisibleChannels

/-!
What a search tells about posts in channels that it does not read. Main statement: on two stores that
differ in such posts only, a search gives the same rows in the same order, and they differ in nothing
but their reply counts, by the hidden live replies in their threads.
-/

namespace ChannelSearch

/-- The channels that a search reads, given by its first request. -/
def Store.searchedIds (s : Store) (lookup : Lookup) (c : SearchContext) :
    List SearchRequest → List Text
  | [] => []
  | first :: _ => s.channelIds (ScopeQuery.build c.userId c.teamId first lookup.channelsByName)

/-- Two stores that differ in nothing but posts and files outside some channels. -/
structure Store.AgreesWithin (s : Store) (ids : List Text) (t : Store) : Prop where
  teams : t.teams = s.teams
  users : t.users = s.users
  teamMembers : t.teamMembers = s.teamMembers
  channels : t.channels = s.channels
  channelMembers : t.channelMembers = s.channelMembers
  posts : t.posts.filter (·.channelId ∈ ids) = s.posts.filter (·.channelId ∈ ids)
  files : t.files.filter (·.channelId ∈ ids) = s.files.filter (·.channelId ∈ ids)

/-- The post is live and answers in a thread. -/
def Post.isReplyIn (p : Post) (thread : Text) : Bool := p.rootId = thread && p.deleteAt = 0

/-- The live replies in a thread that lie outside the channels. -/
def Store.hiddenReplies (s : Store) (ids : List Text) (thread : Text) : Nat :=
  s.posts.countP fun p => p.isReplyIn thread && p.channelId ∉ ids

/-- The first post of the thread of a row. -/
def PostRow.thread (row : PostRow) : Text := if row.rootId.isEmpty then row.id else row.rootId

/-- A row of the first store, as the second one counts the replies. -/
def PostRow.recount (s t : Store) (ids : List Text) (row : PostRow) : PostRow :=
  { row with
    replyCount :=
      row.replyCount - s.hiddenReplies ids row.thread + t.hiddenReplies ids row.thread }

def Page.map {α β : Type} (f : α → β) (page : Page α) : Page β :=
  { rows := page.rows.map f, page := page.page, perPage := page.perPage }

namespace Store

variable {s t : Store} {ids : List Text}

/-- The replies in the channels and the hidden ones. -/
theorem replyCount_eq (s : Store) (ids : List Text) (p : Post) :
    s.replyCount p =
      (s.posts.filter (·.channelId ∈ ids)).countP (·.isReplyIn (s.postRow p).thread) +
        s.hiddenReplies ids (s.postRow p).thread := by
  have hsplit := List.length_eq_countP_add_countP (fun r : Post => decide (r.channelId ∈ ids))
    (l := s.posts.filter (·.isReplyIn (s.postRow p).thread))
  rw [List.countP_filter, List.countP_filter] at hsplit
  rw [hiddenReplies, List.countP_filter]
  refine hsplit.trans (congrArg₂ (· + ·) ?_ ?_)
  · exact List.countP_congr fun r _ => by rw [Bool.and_comm]
  · exact List.countP_congr fun r _ => by simp [and_comm]

variable (h : s.AgreesWithin ids t)
include h

/-- A row of a post in the channels differs in nothing but its reply count. -/
theorem AgreesWithin.postRow_eq (p : Post) : t.postRow p = (s.postRow p).recount s t ids := by
  have hthread : (t.postRow p).thread = (s.postRow p).thread := rfl
  have hs := s.replyCount_eq ids p
  have ht := t.replyCount_eq ids p
  rw [h.posts, hthread] at ht
  have hcount : (t.replyCount p : Int) =
      s.replyCount p - s.hiddenReplies ids (s.postRow p).thread +
        t.hiddenReplies ids (s.postRow p).thread := by
    omega
  calc
    t.postRow p = { s.postRow p with replyCount := t.replyCount p } := rfl
    _ = (s.postRow p).recount s t ids := by rw [hcount]; rfl

theorem AgreesWithin.userIds_eq : t.userIds = s.userIds := by
  funext q
  simp only [userIds, h.users, h.teamMembers]

theorem AgreesWithin.channelIds_eq : t.channelIds = s.channelIds := by
  funext q
  simp only [channelIds, h.channels, h.channelMembers, h.userIds_eq]

theorem AgreesWithin.readPosts_eq (q : PostQuery) :
    t.readPosts (q.within .channelId ids) =
      (s.readPosts (q.within .channelId ids)).map (List.map (PostRow.recount s t ids)) := by
  have hhits : (q.within .channelId ids).hits t.userIds Post.values t.posts =
      (q.within .channelId ids).hits s.userIds Post.values s.posts := by
    have hkey (p : Post) : p.values .channelId = .text p.channelId := rfl
    rw [PageQuery.hits_within hkey, h.userIds_eq, h.posts, ← PageQuery.hits_within hkey]
  have hrow : t.postRow = PostRow.recount s t ids ∘ s.postRow := funext h.postRow_eq
  unfold readPosts
  rw [hhits, hrow]
  cases (q.within .channelId ids).check (PostQuery.select (q.within .channelId ids)).clause.args with
  | error e => rfl
  | ok _ =>
    cases (q.within .channelId ids).hits s.userIds Post.values s.posts with
    | error e => rfl
    | ok found => exact congrArg Except.ok (List.map_map ..).symm

end Store

section Results

variable {α C : Type} {c : SearchContext}

/-- Runs that differ in a last step differ as that step. -/
theorem result_bind_map {ε β γ : Type} {x : Traced ε β} {k k' : β → Traced ε γ} {f : γ → γ}
    (h : ∀ b, x.result = .ok b → (k' b).result = (k b).result.map f) :
    (x >>= k').result = (x >>= k).result.map f := by
  rw [Traced.result_bind, Traced.result_bind]
  cases hx : x.result with
  | error e => rfl
  | ok b => exact h b hx

theorem readPage_map {f : α → α} {deleteAt : α → Int} (hf : ∀ a, deleteAt (f a) = deleteAt a)
    (select : Sql.Select) (read : Read) (source : LogSource) (failure : String)
    (answer : Except ReadError (List α)) :
    (readPage c select read source failure deleteAt (answer.map (List.map f))).result =
      (readPage c select read source failure deleteAt answer).result.map (Page.map f) := by
  refine result_bind_map fun s _ => result_bind_map fun _ _ => result_bind_map fun _ _ => ?_
  cases answer with
  | error e => cases e <;> rfl
  | ok rows =>
    have hfilter : (rows.map f).filter (deleteAt · = 0) = (rows.filter (deleteAt · = 0)).map f := by
      rw [List.filter_map]
      congr 1
      exact List.filter_congr fun a _ => by rw [Function.comp_apply, hf]
    exact congrArg (fun rows => Except.ok (c.pageOf rows)) hfilter

/-- Searches within the same channels differ as the pages that they read. -/
theorem scopedSearch_map {reader reader' : Reader} {lookup : Lookup} {first : SearchRequest}
    {column : C} {build : Traced SearchError (Option (PageQuery C))}
    {read read' : PageQuery C → Traced SearchError (Page α)} {f : α → α}
    (hchannels : reader'.channels = reader.channels)
    (hread : ∀ (q : PageQuery C) (ids : List Text),
      reader.channels (ScopeQuery.build c.userId c.teamId first lookup.channelsByName) = .ok ids →
        (read' (q.within column ids)).result = (read (q.within column ids)).result.map (Page.map f)) :
    (scopedSearch reader' lookup c first column build read').result =
      (scopedSearch reader lookup c first column build read).result.map (Page.map f) := by
  have hvisible : visibleChannels reader' = visibleChannels reader := by
    funext q
    unfold visibleChannels
    rw [hchannels]
  unfold scopedSearch
  rw [hvisible]
  apply result_bind_map
  intro query _
  cases query with
  | none => rfl
  | some q =>
    refine result_bind_map fun _ _ => result_bind_map fun ids hids => ?_
    split_ifs with hempty
    · rfl
    · exact hread q ids ((visibleChannels_ok hids).resolve_left (by simpa using hempty))

end Results

/-- Posts in channels that a search does not read change nothing but the reply counts of the rows that
it finds, and these by the live replies among them. -/
theorem searchPosts_of_agreesWithin {s t : Store} {lookup : Lookup} {c : SearchContext}
    {requests : List SearchRequest} (h : s.AgreesWithin (s.searchedIds lookup c requests) t) :
    (searchPosts t.reader lookup c requests).result =
      (searchPosts s.reader lookup c requests).result.map
        (Page.map (PostRow.recount s t (s.searchedIds lookup c requests))) := by
  cases requests with
  | nil => rfl
  | cons first rest =>
    rw [searchPosts_cons, searchPosts_cons]
    split_ifs
    · rfl
    · have hchannels : t.reader.channels = s.reader.channels := by
        funext q
        show Except.ok (t.channelIds q) = Except.ok (s.channelIds q)
        rw [h.channelIds_eq]
      apply scopedSearch_map hchannels
      intro q ids hids
      have hids : ids = s.searchedIds lookup c (first :: rest) := (Except.ok.inj hids).symm
      subst hids
      have hread : t.reader.posts (q.within .channelId _) =
          (s.reader.posts (q.within .channelId _)).map (List.map (PostRow.recount s t _)) :=
        h.readPosts_eq q
      have hdelete (row : PostRow) :
          (row.recount s t (s.searchedIds lookup c (first :: rest))).deleteAt = row.deleteAt := rfl
      rw [readPosts_eq, readPosts_eq, hread]
      exact readPage_map hdelete _ _ _ _ _

/-- A store with only the first posts of its threads. -/
def Store.withoutReplies (s : Store) : Store := { s with posts := s.posts.filter (·.rootId = []) }

/-- A member of one channel searches, with a thread that goes on in another channel, and without. -/
theorem searchPosts_of_agreesWithin_sample :
    let c : SearchContext := { userId := "u1".toList, teamId := "T1".toList, now := 0 }
    let requests : List SearchRequest := [{ terms := "failed".toList }]
    let ids := sampleStore.searchedIds {} c requests
    sampleStore.AgreesWithin ids sampleStore.withoutReplies ∧
      (searchPosts sampleStore.withoutReplies.reader {} c requests).result =
        (searchPosts sampleStore.reader {} c requests).result.map
          (Page.map (PostRow.recount sampleStore sampleStore.withoutReplies ids)) := by
  intro c requests ids
  have hagrees : sampleStore.AgreesWithin ids sampleStore.withoutReplies :=
    ⟨rfl, rfl, rfl, rfl, rfl, by decide +kernel, rfl⟩
  exact ⟨hagrees, searchPosts_of_agreesWithin hagrees⟩

/-- The reply that a member of one channel cannot see is counted. -/
theorem hidden_reply_is_counted :
    let c : SearchContext := { userId := "u1".toList, teamId := "T1".toList, now := 0 }
    let requests : List SearchRequest := [{ terms := "failed".toList }]
    sampleStore.AgreesWithin (sampleStore.searchedIds {} c requests) sampleStore.withoutReplies ∧
      (searchPosts sampleStore.reader {} c requests).result.map
          (fun page => page.rows.map PostRow.replyCount) = .ok [1] ∧
      (searchPosts sampleStore.withoutReplies.reader {} c requests).result.map
          (fun page => page.rows.map PostRow.replyCount) = .ok [0] := by
  refine ⟨⟨rfl, rfl, rfl, rfl, rfl, by decide +kernel, rfl⟩, ?_, ?_⟩ <;> decide +kernel

end ChannelSearch
