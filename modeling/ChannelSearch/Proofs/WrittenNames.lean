import ChannelSearch.Proofs.LowerForms
import ChannelSearch.Proofs.PostSearch
import ChannelSearch.Proofs.StoreRows

/-!
Searches by the names that were written. Main statement: after any writes, a search for the posts of a
user name finds those of the user to whom the name was last given, and a search within a channel name
reads the visible channels of that name.
-/

namespace ChannelSearch

open Text

variable {s : Store} {lookup : Lookup} {c : SearchContext} {first r : SearchRequest}
  {rest : List SearchRequest} {user team id : Text} {u : User} {v : Text}

/-- A name that is listed in any letter case is looked up as it is stored. -/
theorem User.key_stored (hmark : u.username.head? ≠ some '@') (hname : v.lower = u.username.lower) :
    UserQuery.keys true [v] = [u.stored.key true] := by
  have hkey : v.mentionKey = u.username.lower := by
    rw [mentionKey_eq, hname, ← mentionKey_eq, mentionKey_of_unmarked hmark]
  show [v.mentionKey] = [u.username.lower]
  rw [hkey]

/-- The authors on a list of one name: the user that has it, if not left out. -/
theorem exists_isWanted_name (hs : s.WellKept) (hu : u ∈ s.users)
    (hkey : UserQuery.keys true [v] = [u.key true]) :
    (∃ w : User, w.IsWanted s team { r with fromUsers := [v] } true ∧ w.id = id) ↔
      id = u.id ∧ (team ≠ [] → ⟨team, id⟩ ∈ s.teamMembers) ∧
        u.key true ∉ UserQuery.keys true r.excludedUsers := by
  constructor
  · rintro ⟨w, hw, rfl⟩
    have hname : w.username = u.username := by
      have hlisted := hw.included (List.cons_ne_nil v [])
      rw [hkey] at hlisted
      exact List.mem_singleton.mp hlisted
    obtain rfl : w = u := List.inj_on_of_nodup_map hs.usernames hw.stored hu hname
    exact ⟨rfl, hw.ofTeam, hw.notExcluded⟩
  · rintro ⟨rfl, hteam, hexcluded⟩
    refine ⟨u, ⟨hu, hteam, fun _ => ?_, hexcluded⟩, rfl⟩
    rw [hkey]
    exact List.mem_singleton_self _

/-- A user name on the list of authors leaves the posts of its user, of those that are found without
the list. -/
theorem Store.foundPosts_name (hs : s.WellKept) (hu : u ∈ s.users)
    (hkey : UserQuery.keys true [v] = [u.key true]) (hlookup : lookup.usersByUsername = true) :
    s.foundPosts lookup c { first with fromUsers := [v] } rest =
      (s.foundPosts lookup c { first with fromUsers := [] } rest).filter fun p =>
        p.userId = u.id ∧ (c.teamId ≠ [] → ⟨c.teamId, u.id⟩ ∈ s.teamMembers) := by
  -- A user is found again by its id, since ids are unique.
  have hother (h : ∃ w : User, w.IsWanted s c.teamId { first with fromUsers := [] } true ∧
      w.id = u.id) : u.key true ∉ UserQuery.keys true first.excludedUsers := by
    obtain ⟨w, hw, hid⟩ := h
    obtain rfl : w = u := List.inj_on_of_nodup_map hs.userIds hw.stored hu hid
    exact hw.notExcluded
  have hdates {r : SearchRequest} {authors others : List Text} {millis : Int}
      (h : { r with fromUsers := authors }.InDates c.now millis) :
      { r with fromUsers := others }.InDates c.now millis := ⟨h.on, h.after, h.before⟩
  have hscope {r : SearchRequest} {authors others : List Text} {byName : Bool} {id : Text}
      (h : s.Sees c.userId c.teamId { r with fromUsers := authors } byName id) :
      s.Sees c.userId c.teamId { r with fromUsers := others } byName id :=
    let ⟨ch, hch, hid⟩ := h
    ⟨ch, ⟨hch.stored, hch.member, hch.live, hch.ofTeam, hch.included, hch.notExcluded⟩, hid⟩
  rw [foundPosts, foundPosts, List.filter_filter]
  apply List.filter_congr
  intro p _
  rw [← Bool.decide_and, decide_eq_decide, hlookup]
  constructor
  · rintro ⟨h, hsees⟩
    obtain ⟨hid, hteam, hexcluded⟩ :=
      (exists_isWanted_name hs hu hkey).mp (h.author (Or.inl (List.cons_ne_nil v [])))
    refine ⟨⟨hid, hid ▸ hteam⟩, ⟨h.live, h.notSystem, fun _ => ?_, hdates h.dates, h.text⟩, hscope hsees⟩
    exact ⟨u, ⟨hu, hid ▸ hteam, absurd rfl, hexcluded⟩, hid.symm⟩
  · rintro ⟨⟨hid, hteam⟩, h, hsees⟩
    refine ⟨⟨h.live, h.notSystem, fun _ => ?_, hdates h.dates, h.text⟩, hscope hsees⟩
    refine (exists_isWanted_name hs hu hkey).mpr ⟨hid, hid ▸ hteam, ?_⟩
    by_cases hnone : first.excludedUsers = []
    · rw [hnone]
      exact List.not_mem_nil
    · exact hother (hid ▸ h.author (Or.inr hnone))

/-- A channel name on the list of channels leaves the channels of this name, of those that are visible
without the list. -/
theorem Store.sees_name (hs : s.WellKept) {name : Text} (hname : ScopeQuery.nameKey name = name) :
    s.Sees user team { r with inChannels := [name] } true id ↔
      s.Sees user team { r with inChannels := [] } true id ∧
        ∃ ch ∈ s.channels, ch.id = id ∧ ch.name = name := by
  have hkeys : ScopeQuery.keys true [name] = [name] := congrArg (fun key => [key]) hname
  constructor
  · rintro ⟨ch, h, rfl⟩
    have hlisted := h.included (List.cons_ne_nil name [])
    rw [hkeys] at hlisted
    exact ⟨⟨ch, ⟨h.stored, h.member, h.live, h.ofTeam, absurd rfl, h.notExcluded⟩, rfl⟩,
      ch, h.stored, rfl, List.mem_singleton.mp hlisted⟩
  · rintro ⟨⟨ch, h, rfl⟩, named, hnamed, hid, rfl⟩
    obtain rfl : named = ch := List.inj_on_of_nodup_map hs.channelIds hnamed h.stored hid
    refine ⟨named, ⟨h.stored, h.member, h.live, h.ofTeam, fun _ => ?_, h.notExcluded⟩, rfl⟩
    rw [hkeys]
    exact List.mem_singleton_self _

/-- A channel name without the channel mark and without white space at its ends is looked up as it is
stored. -/
theorem ScopeQuery.nameKey_eq {name : Text} (hmark : name.head? ≠ some '~')
    (hstrip : name.strip = name) : nameKey name = name := by
  have hdrop : name.dropWhile (· = '~') = name := by
    cases name with
    | nil => rfl
    | cons c rest =>
      have hc : c ≠ '~' := fun heq => hmark (congrArg some heq)
      rw [List.dropWhile_cons_of_neg (by simpa using hc)]
  rw [nameKey, hdrop, hstrip]

/-- Names that were written can be searched for. After writes in any order, with refused ones among
them, a user name without the mention mark, in any letter case, shows the posts of the user to whom it
was last given, of those that the search shows without it, if the user is of the team; and a channel
name without the channel mark and without white space at its ends reads the channels that bear it, the
one to which it was last given among them, of those that are read without it. -/
theorem written_names_are_found (ws : List Write) :
    (∀ (u : User) (v : Text), Store.lastWrite? {} ws (.user u.id) = some (.user u) →
      u.username.head? ≠ some '@' → v.lower = u.username.lower →
      ∀ (lookup : Lookup) (c : SearchContext) (first : SearchRequest) (rest : List SearchRequest),
        lookup.usersByUsername = true →
        { c with page := 0 }.InPostLimits { first with fromUsers := [v] } rest →
        (Store.writeAll {} ws).ShowsPosts lookup c ({ first with fromUsers := [v] } :: rest)
          (((Store.writeAll {} ws).foundPosts lookup c { first with fromUsers := [] } rest).filter
            fun p => p.userId = u.id ∧
              (c.teamId ≠ [] → ⟨c.teamId, u.id⟩ ∈ (Store.writeAll {} ws).teamMembers))) ∧
    ∀ ch : Channel, Store.lastWrite? {} ws (.channel ch.id) = some (.channel ch) →
      ch.name.head? ≠ some '~' → ch.name.strip = ch.name →
      ∀ (user team : Text) (r : SearchRequest), ∃ ids others : List Text,
        (visibleChannels (Store.writeAll {} ws).reader
          (ScopeQuery.build user team { r with inChannels := [ch.name] } true)).result = .ok ids ∧
        (visibleChannels (Store.writeAll {} ws).reader
          (ScopeQuery.build user team { r with inChannels := [] } true)).result = .ok others ∧
        (∀ id, id ∈ ids ↔ id ∈ others ∧
          ∃ named ∈ (Store.writeAll {} ws).channels, named.id = id ∧ named.name = ch.name) ∧
        (ch.id ∈ ids ↔ ch.id ∈ others) := by
  have hkept := Store.wellKept_empty.writeAll ws
  constructor
  · intro u v hlast hmark hname lookup c first rest hlookup hlimits
    have hstored : u.stored ∈ (Store.writeAll {} ws).users :=
      Store.holds_of_lastWrite (w := .user u) hlast
    have hkey := User.key_stored hmark hname
    have hfound : (Store.writeAll {} ws).foundPosts lookup c { first with fromUsers := [v] } rest = _ :=
      Store.foundPosts_name hkept hstored hkey hlookup
    rw [User.id_stored] at hfound
    rw [← hfound]
    apply showsPosts_found hlimits
    rintro ⟨-, hfilters⟩
    simp [SearchRequest.hasFilters] at hfilters
  · intro ch hlast hmark hstrip user team r
    have hstored : ch.stored ∈ (Store.writeAll {} ws).channels :=
      Store.holds_of_lastWrite (w := .channel ch) hlast
    have hids (id : Text) :
        (Store.writeAll {} ws).Sees user team { r with inChannels := [ch.name] } true id ↔ _ :=
      Store.sees_name hkept (ScopeQuery.nameKey_eq hmark hstrip)
    refine ⟨_, _, visibleChannels_reader _ _ _ _ _, visibleChannels_reader _ _ _ _ _, fun id => ?_, ?_⟩
    · rw [Store.mem_channelIds, Store.mem_channelIds]
      exact hids id
    · rw [Store.mem_channelIds, Store.mem_channelIds, hids]
      exact and_iff_left ⟨ch.stored, hstored, ch.id_stored, ch.name_stored⟩

/-- A user is renamed and the new name refused to another one, and two channels bear one name. -/
theorem written_names_are_found_renamed :
    let bob : User := { id := "u2".toList, username := "Bob.ß".toList }
    let plaza : Channel := { id := "C1".toList, name := "plaza".toList }
    let post : Post :=
      { id := "p1".toList, channelId := "C1".toList, userId := "u2".toList
        message := "deploy".toList, createAt := 1000 }
    let ws : List Write :=
      [.user { id := "u1".toList, username := "alice".toList },
        .user { id := "u2".toList, username := "bobby".toList }, .user bob,
        .user { id := "u3".toList, username := "BOB.ß".toList },
        .channel { id := "C1".toList, name := "town".toList }, .channel plaza,
        .channel { id := "C2".toList, name := "plaza".toList },
        .channelMember ⟨"C1".toList, "u1".toList⟩, .post post,
        .post { post with id := "p2".toList, userId := "u1".toList }]
    let c : SearchContext := { userId := "u1".toList, teamId := [], now := 0 }
    let lookup : Lookup := { usersByUsername := true }
    (searchPosts (Store.writeAll {} ws).reader lookup c [{ fromUsers := ["boB.ß".toList] }]).result =
        .ok (c.pageOf [(Store.writeAll {} ws).postRow post]) ∧
      ∃ ids, (visibleChannels (Store.writeAll {} ws).reader
          (ScopeQuery.build c.userId [] { inChannels := ["plaza".toList] } true)).result = .ok ids ∧
        "C1".toList ∈ ids ∧ "C2".toList ∉ ids := by
  intro bob plaza post ws c lookup
  obtain ⟨husers, hchannels⟩ := written_names_are_found ws
  have hlimits : c.InPostLimits { fromUsers := ["boB.ß".toList] } [] := by decide +kernel
  have hfound : ((Store.writeAll {} ws).foundPosts lookup c {} []).filter (fun p =>
      p.userId = bob.id ∧ (c.teamId ≠ [] → ⟨c.teamId, bob.id⟩ ∈ (Store.writeAll {} ws).teamMembers)) =
        [post] := by
    decide +kernel
  have hpages := husers bob "boB.ß".toList (by decide +kernel) (by decide) (by decide +kernel) lookup c
    {} [] rfl hlimits
  rw [hfound] at hpages
  obtain ⟨ids, others, hids, hothers, hmem, hplaza⟩ :=
    hchannels plaza (by decide +kernel) (by decide) (by decide) c.userId [] {}
  have hseen : (visibleChannels (Store.writeAll {} ws).reader
      (ScopeQuery.build c.userId [] {} true)).result = .ok ["C1".toList] := by
    decide +kernel
  obtain rfl : ["C1".toList] = others := Except.ok.inj (hseen.symm.trans hothers)
  exact ⟨hpages.single, ids, hids, hplaza.mpr (List.mem_singleton_self _),
    fun hother => absurd ((hmem _).mp hother).1 (by decide)⟩

/-- A search from a team does not show the posts of a user of none, whose name was written; and a name
that is written with a mention mark, or with white space, is looked up without it. -/
theorem names_of_outsiders_and_marked_names_are_missed :
    let bob : User := { id := "u2".toList, username := "bob".toList }
    let carol : User := { id := "u3".toList, username := "@carol".toList }
    let square : Channel := { id := "C2".toList, name := " town".toList }
    let post (id author : String) (createAt : Int) : Post :=
      { id := id.toList, channelId := "C1".toList, userId := author.toList
        message := "deploy".toList, createAt }
    let ws : List Write :=
      [.user bob, .user carol, .teamMember ⟨"T1".toList, "u3".toList⟩,
        .channel { id := "C1".toList, name := "town".toList }, .channel square,
        .channelMember ⟨"C1".toList, "u1".toList⟩, .channelMember ⟨"C2".toList, "u1".toList⟩,
        .post (post "p1" "u2" 1000), .post (post "p2" "u3" 2000)]
    let s := Store.writeAll {} ws
    let lookup : Lookup := { usersByUsername := true }
    let c : SearchContext := { userId := "u1".toList, teamId := "T1".toList, now := 0 }
    let deploy : SearchRequest := { terms := "deploy".toList }
    let found := fun authors =>
      (searchPosts s.reader lookup c [{ deploy with fromUsers := authors }]).result.map
        fun page => page.rows.map PostRow.id
    let visible := fun channels =>
      (visibleChannels s.reader
        (ScopeQuery.build "u1".toList "T1".toList { inChannels := channels } true)).result
    Store.lastWrite? {} ws (.user bob.id) = some (.user bob) ∧
      Store.lastWrite? {} ws (.user carol.id) = some (.user carol) ∧
      Store.lastWrite? {} ws (.channel square.id) = some (.channel square) ∧
      (s.foundPosts lookup c deploy []).map Post.id = ["p1".toList, "p2".toList] ∧
      found [bob.username] = .ok [] ∧ found [carol.username] = .ok [] ∧
      visible [] = .ok ["C1".toList, "C2".toList] ∧ visible [square.name] = .ok ["C1".toList] := by
  decide +kernel

end ChannelSearch
