import ChannelSearch.Proofs.ChannelAccess
import ChannelSearch.Proofs.LowerForms
import ChannelSearch.Proofs.PostSearch

/-!
Searches for an author in the search box. Main statement: an author who is looked up by id is looked
for under the id in lower case, so that the flag finds the posts of those ids that are in lower case,
and takes the posts of no other id away.
-/

namespace ChannelSearch

open Text

namespace Store

/-- Live posts that the system did not write, in the channels that are open to the user. -/
def openPosts (s : Store) (user team : Text) : List Post :=
  s.posts.filter fun p =>
    p.deleteAt = 0 ∧ ¬ "system_".toList <+: p.kind.folded ∧ s.IsOpenTo user team p.channelId

/-- The user is registered, and a member of the team if one is given. -/
def HasUser (s : Store) (team id : Text) : Prop :=
  (∃ u ∈ s.users, u.id = id) ∧ (team ≠ [] → ⟨team, id⟩ ∈ s.teamMembers)

instance (s : Store) (team id : Text) : Decidable (s.HasUser team id) :=
  inferInstanceAs (Decidable (_ ∧ _))

def postsBy (s : Store) (user team id : Text) : List Post :=
  (s.openPosts user team).filter fun p => s.HasUser team p.userId ∧ p.userId = id

def postsByOthers (s : Store) (user team id : Text) : List Post :=
  (s.openPosts user team).filter fun p => s.HasUser team p.userId ∧ p.userId ≠ id

end Store

variable {s : Store} {lookup : Lookup} {c : SearchContext} {r : SearchRequest}
  {user team id : Text}

/-- Users that are listed by id. -/
theorem exists_isWanted_id :
    (∃ u : User, u.IsWanted s team r false ∧ u.id = id) ↔
      s.HasUser team id ∧ (r.fromUsers ≠ [] → id ∈ r.fromUsers) ∧ id ∉ r.excludedUsers := by
  constructor
  · rintro ⟨u, hu, rfl⟩
    exact ⟨⟨⟨u, hu.stored, rfl⟩, hu.ofTeam⟩, hu.included, hu.notExcluded⟩
  · rintro ⟨⟨⟨u, hu, rfl⟩, hteam⟩, hincluded, hexcluded⟩
    exact ⟨u, ⟨hu, hteam, hincluded, hexcluded⟩, rfl⟩

/-- A request that lists authors, and authors to leave out, and nothing else. -/
def SearchRequest.ofAuthors (authors others : List Text) (offset : Int) : SearchRequest :=
  { fromUsers := authors, excludedUsers := others, timeZoneOffset := offset }

variable {authors others : List Text} {offset : Int}

theorem askNothing_ofAuthors :
    (Tokens.sought (MergedText.ofRequests [SearchRequest.ofAuthors authors others offset])).AskNothing :=
  Tokens.askNothing_of_blank rfl rfl rfl

theorem inPostLimits_ofAuthors (hcancel : c.cancellation = .never) :
    { c with page := 0 }.InPostLimits (.ofAuthors authors others offset) [] where
  uncancelled := hcancel
  offset := by
    show max 0 0 * c.limit < 2 ^ 63
    rw [max_self, zero_mul]
    decide
  dates := ⟨fun h => by simp [SearchRequest.ofAuthors] at h, absurd rfl, fun _ => absurd rfl,
    fun _ => absurd rfl⟩
  height := nofun
  patterns := nofun

/-- A search that lists authors finds the posts of registered users on the one list, if it names any,
and not on the other. -/
theorem Store.foundPosts_ofAuthors (hsome : authors ≠ [] ∨ others ≠ [])
    (hid : lookup.usersByUsername = false) :
    s.foundPosts lookup c (.ofAuthors authors others offset) [] =
      (s.openPosts c.userId c.teamId).filter fun p =>
        s.HasUser c.teamId p.userId ∧ (authors ≠ [] → p.userId ∈ authors) ∧ p.userId ∉ others := by
  have hdates (millis : Int) : (SearchRequest.ofAuthors authors others offset).InDates c.now millis :=
    ⟨absurd rfl, fun _ => absurd rfl, fun _ => absurd rfl⟩
  rw [openPosts, List.filter_filter, foundPosts]
  apply List.filter_congr
  intro p _
  rw [← Bool.decide_and, decide_eq_decide, hid, sees_iff_isOpenTo ⟨rfl, rfl⟩ rfl rfl]
  constructor
  · rintro ⟨h, hopen⟩
    exact ⟨exists_isWanted_id.mp (h.author hsome), h.live, h.notSystem, hopen⟩
  · rintro ⟨hauthor, hlive, hkind, hopen⟩
    exact ⟨⟨hlive, hkind, fun _ => exists_isWanted_id.mpr hauthor, hdates _,
      askNothing_ofAuthors.match_any _ _⟩, hopen⟩

/-- The pages of a search that lists authors by id. -/
theorem showsPosts_ofAuthors (hsome : authors ≠ [] ∨ others ≠ [])
    (hid : lookup.usersByUsername = false) (hcancel : c.cancellation = .never) :
    s.ShowsPosts lookup c [.ofAuthors authors others offset]
      ((s.openPosts c.userId c.teamId).filter fun p =>
        s.HasUser c.teamId p.userId ∧ (authors ≠ [] → p.userId ∈ authors) ∧ p.userId ∉ others) := by
  have hfilters : (SearchRequest.ofAuthors authors others offset).hasFilters = true := by
    rcases hsome with h | h <;> simp [SearchRequest.hasFilters, SearchRequest.ofAuthors, h]
  rw [← Store.foundPosts_ofAuthors hsome hid]
  apply showsPosts_found (inPostLimits_ofAuthors hcancel)
  rintro ⟨-, hnone⟩
  exact Bool.false_ne_true (hnone.symm.trans hfilters)

/-- A word that can be typed as the id of a user. -/
structure IsTypedId (x : Text) : Prop where
  ne_nil : x ≠ []
  visible : ∀ c ∈ x, isBlank c = false
  unquoted : '"' ∉ x
  unmarked : x.head? ≠ some '@'

theorem visible_of_all {t : Text} (h : t.all (fun c => !isBlank c) = true) :
    ∀ c ∈ t, isBlank c = false := by
  simpa using h

namespace SearchBox

variable {x : Text}

/-- The flags of an author take what follows them, in lower case. -/
theorem parse_author (hx : IsTypedId x) (offset : Int) :
    parse ("from:".toList ++ x) offset =
        [.ofAuthors [x.lower] [] offset] ∧
      parse ("-from:".toList ++ x) offset =
        [.ofAuthors [] [x.lower] offset] := by
  have hstrip : x.strip = x := (isSolid_of_visible hx.ne_nil hx.visible).strip_eq
  have hsome : x.isEmpty = false := List.isEmpty_eq_false_iff.mpr hx.ne_nil
  have hkey : x.mentionKey = x.lower := mentionKey_of_unmarked hx.unmarked
  have hfrom : flagOf? ("from:".toList ++ x) = some (.fromUser, x) := by
    show (if x.strip.isEmpty then none else some (Flag.fromUser, x.strip)) = _
    rw [hstrip, hsome]
    rfl
  have hnotFrom : flagOf? ("-from:".toList ++ x) = some (.notFromUser, x) := by
    show (if x.strip.isEmpty then none else some (Flag.notFromUser, x.strip)) = _
    rw [hstrip, hsome]
    rfl
  constructor
  · rw [parse_flag (by simp) _ _ hfrom, setFlag, hkey]
    · rfl
    · exact List.forall_mem_append.mpr ⟨visible_of_all rfl, hx.visible⟩
    · exact List.not_mem_append (by decide) hx.unquoted
  · rw [parse_flag (by simp) _ _ hnotFrom, setFlag, hkey]
    · rfl
    · exact List.forall_mem_append.mpr ⟨visible_of_all rfl, hx.visible⟩
    · exact List.not_mem_append (by decide) hx.unquoted

end SearchBox

namespace Store

/-- An id in lower case is searched for as it is typed. -/
theorem postsBy_lower {x : Text} (hlower : x.lower = x) (hx : s.HasUser team x) :
    s.postsBy user team x.lower = (s.openPosts user team).filter (·.userId = x) := by
  apply List.filter_congr
  intro p _
  rw [hlower, decide_eq_decide]
  exact ⟨fun h => h.2, fun h => ⟨h ▸ hx, h⟩⟩

theorem mem_postsBy {p : Post} :
    p ∈ s.postsBy user team id ↔
      p ∈ s.openPosts user team ∧ s.HasUser team p.userId ∧ p.userId = id := by
  rw [postsBy, List.mem_filter, decide_eq_true_eq]

theorem mem_postsByOthers {p : Post} :
    p ∈ s.postsByOthers user team id ↔
      p ∈ s.openPosts user team ∧ s.HasUser team p.userId ∧ p.userId ≠ id := by
  rw [postsByOthers, List.mem_filter, decide_eq_true_eq]

end Store

/-- Where users are looked up by id, the flags of an author show the posts of the user whose id is the
typed one in lower case, and those of all other registered users. These are the posts of the typed id
and of the others when it is in lower case; when it is not, the one flag shows none of the posts of the
typed id, and the other shows all of them. -/
theorem search_box_author {x : Text} (hx : IsTypedId x) (hid : lookup.usersByUsername = false)
    (hcancel : c.cancellation = .never) (s : Store) (offset : Int) :
    s.ShowsPosts lookup c (SearchBox.parse ("from:".toList ++ x) offset)
        (s.postsBy c.userId c.teamId x.lower) ∧
      s.ShowsPosts lookup c (SearchBox.parse ("-from:".toList ++ x) offset)
        (s.postsByOthers c.userId c.teamId x.lower) ∧
      (x.lower = x →
        (s.HasUser c.teamId x → s.postsBy c.userId c.teamId x.lower =
          (s.openPosts c.userId c.teamId).filter (·.userId = x)) ∧
        ∀ p ∈ s.postsByOthers c.userId c.teamId x.lower, p.userId ≠ x) ∧
      (x.lower ≠ x →
        (∀ p ∈ s.postsBy c.userId c.teamId x.lower, p.userId ≠ x) ∧
        (s.HasUser c.teamId x → ∀ p ∈ s.openPosts c.userId c.teamId, p.userId = x →
          p ∈ s.postsByOthers c.userId c.teamId x.lower)) := by
  obtain ⟨hfrom, hnotFrom⟩ := SearchBox.parse_author hx offset
  refine ⟨?_, ?_, fun hlower => ⟨Store.postsBy_lower hlower, fun p hp => ?_⟩,
    fun hcapital => ⟨fun p hp heq => ?_, fun huser p hp heq => ?_⟩⟩
  · rw [hfrom]
    have hpages : s.ShowsPosts lookup c [.ofAuthors [x.lower] [] offset] _ :=
      showsPosts_ofAuthors (Or.inl (List.cons_ne_nil _ _)) hid hcancel
    simpa [Store.postsBy] using hpages
  · rw [hnotFrom]
    have hpages : s.ShowsPosts lookup c [.ofAuthors [] [x.lower] offset] _ :=
      showsPosts_ofAuthors (Or.inr (List.cons_ne_nil _ _)) hid hcancel
    simpa [Store.postsByOthers] using hpages
  · rw [hlower] at hp
    exact (Store.mem_postsByOthers.mp hp).2.2
  · exact hcapital ((Store.mem_postsBy.mp hp).2.2.symm.trans heq)
  · refine Store.mem_postsByOthers.mpr ⟨hp, heq ▸ huser, ?_⟩
    rw [heq]
    exact Ne.symm hcapital

/-- The post of a user, found by id, and the one that is left when the user is taken away. -/
theorem search_box_author_sample :
    let c : SearchContext := { userId := "u1".toList, teamId := "T1".toList, now := 0 }
    let ids := fun t => (searchPosts sampleStore.reader {} c (SearchBox.parse t 3600)).result.map
      fun page => page.rows.map PostRow.id
    IsTypedId "u2".toList ∧ ids "from:u2".toList = .ok ["p2".toList] ∧
      ids "-from:u2".toList = .ok ["p1".toList] := by
  intro c ids
  have htyped : IsTypedId "u2".toList := ⟨by decide, visible_of_all rfl, by decide, by decide⟩
  have hby : sampleStore.postsBy c.userId c.teamId (lower "u2".toList) =
      sampleStore.posts.filter (·.id = "p2".toList) := by decide +kernel
  have hbyOthers : sampleStore.postsByOthers c.userId c.teamId (lower "u2".toList) =
      sampleStore.posts.filter (·.id = "p1".toList) := by decide +kernel
  obtain ⟨hfrom, hnotFrom, -⟩ :=
    @search_box_author {} c "u2".toList htyped rfl rfl sampleStore 3600
  rw [hby] at hfrom
  rw [hbyOthers] at hnotFrom
  exact ⟨htyped, congrArg (Except.map _) hfrom.single, congrArg (Except.map _) hnotFrom.single⟩

/-- The flag finds the posts of the id in lower case for those of an id with a capital letter, and its
opposite leaves the posts of that id in. -/
theorem capital_id_is_searched_in_lower_case :
    let post (id author : String) (createAt : Int) : Post :=
      { id := id.toList, channelId := "C1".toList, userId := author.toList
        message := "deploy".toList, createAt }
    let s : Store :=
      { sampleStore with
        users :=
          [{ id := "u1".toList, username := "alice".toList },
            { id := "U1".toList, username := "bob".toList }]
        teamMembers := [⟨"T1".toList, "u1".toList⟩, ⟨"T1".toList, "U1".toList⟩]
        posts := [post "p1" "u1" 1000, post "p2" "U1" 2000] }
    let c : SearchContext := { userId := "u1".toList, teamId := "T1".toList, now := 0 }
    let ids := fun t => (searchPosts s.reader {} c (SearchBox.parse t 0)).result.map
      fun page => page.rows.map PostRow.id
    IsTypedId "U1".toList ∧ s.HasUser "T1".toList "U1".toList ∧
      (s.openPosts "u1".toList "T1".toList).map Post.id = ["p1".toList, "p2".toList] ∧
      ids "from:U1".toList = .ok ["p1".toList] ∧ ids "-from:U1".toList = .ok ["p2".toList] := by
  refine ⟨⟨by decide, visible_of_all rfl, by decide, by decide⟩, ?_⟩
  decide +kernel

end ChannelSearch
