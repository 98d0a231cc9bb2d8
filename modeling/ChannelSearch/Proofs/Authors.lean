import ChannelSearch.Proofs.Statements
import ChannelSearch.Search.Page
import ChannelSearch.Store.Read

/-!
The users that a filter on authors stands for: stored users, of the team if one is given, by what the
lists of a request say about their ids or names. Without a list there is no filter.
-/

namespace ChannelSearch

/-- What a user is listed by in the filters of a request. -/
def User.key (u : User) (byUsername : Bool) : Text := if byUsername then u.username else u.id

/-- The listed names or ids, as they are compared. -/
def UserQuery.keys (byUsername : Bool) (users : List Text) : List Text :=
  if byUsername then users.map Text.mentionKey else users

/-- What the lists of a request ask of an author. -/
@[mk_iff isWanted_iff]
structure User.IsWanted (u : User) (s : Store) (team : Text) (r : SearchRequest) (byUsername : Bool) :
    Prop where
  stored : u ∈ s.users
  ofTeam : team ≠ [] → ⟨team, u.id⟩ ∈ s.teamMembers
  included : r.fromUsers ≠ [] → u.key byUsername ∈ UserQuery.keys byUsername r.fromUsers
  notExcluded : u.key byUsername ∉ UserQuery.keys byUsername r.excludedUsers

instance (u : User) (s : Store) (team : Text) (r : SearchRequest) (byUsername : Bool) :
    Decidable (u.IsWanted s team r byUsername) := decidable_of_iff' _ (User.isWanted_iff ..)

namespace UserQuery

variable {s : Store} {u : User} {m : TeamMember} {team : Text} {r : SearchRequest}
  {byUsername : Bool} {q : UserQuery}

theorem key_value : u.values m (if byUsername then .username else .id) = .text (u.key byUsername) := by
  cases byUsername <;> rfl

theorem build?_eq_none :
    build? team r.fromUsers r.excludedUsers byUsername = none ↔
      r.fromUsers = [] ∧ r.excludedUsers = [] := by
  simp [build?]

/-- A filter on authors: of the team, on one list, and not on the other. -/
theorem eq_of_build? (h : build? team r.fromUsers r.excludedUsers byUsername = some q) :
    q =
      { joinsTeams := !team.isEmpty
        tests :=
          (if team.isEmpty then [] else [.equals .memberTeam team, .sameAs .id .memberUser]) ++
            (if r.fromUsers.isEmpty then []
            else [.oneOf (if byUsername then .username else .id) (keys byUsername r.fromUsers)]) ++
              if r.excludedUsers.isEmpty then []
              else [.noneOf (if byUsername then .username else .id)
                (keys byUsername r.excludedUsers)] } := by
  by_cases hnone : (r.fromUsers.isEmpty && r.excludedUsers.isEmpty) = true
  · rw [build?, if_pos hnone] at h
    cases h
  · rw [build?, if_neg hnone] at h
    exact (Option.some.inj h).symm

/-- The tests on a user, joined with a member of a team. -/
theorem all_tests (h : build? team r.fromUsers r.excludedUsers byUsername = some q) :
    (q.tests.all (·.holds (u.values m))) = true ↔
      (team ≠ [] → m.teamId = team ∧ u.id = m.userId) ∧
        (r.fromUsers ≠ [] → u.key byUsername ∈ keys byUsername r.fromUsers) ∧
          u.key byUsername ∉ keys byUsername r.excludedUsers := by
  have hkeys : keys byUsername [] = [] := by cases byUsername <;> rfl
  rw [eq_of_build? h, List.all_append, List.all_append]
  simp only [Bool.and_eq_true, and_assoc]
  refine and_congr ?_ (and_congr ?_ ?_)
  · by_cases hteam : team = [] <;> simp [hteam, Sql.Test.holds, User.values]
  · by_cases hfrom : r.fromUsers = [] <;> simp [hfrom, Sql.Test.holds_oneOf key_value]
  · by_cases hex : r.excludedUsers = [] <;> simp [hex, hkeys, Sql.Test.holds_noneOf key_value]

/-- The select of a filter yields the ids of the users that it asks for. -/
theorem mem_userIds (h : build? team r.fromUsers r.excludedUsers byUsername = some q) {id : Text} :
    id ∈ s.userIds q ↔ ∃ u : User, u.IsWanted s team r byUsername ∧ u.id = id := by
  have hwanted (u : User) :
      (∃ m ∈ if q.joinsTeams then s.teamMembers else [⟨[], []⟩],
        q.tests.all (·.holds (u.values m)) = true) ∧ u ∈ s.users ↔
        u.IsWanted s team r byUsername := by
    rw [show q.joinsTeams = !team.isEmpty by rw [eq_of_build? h]]
    constructor
    · rintro ⟨⟨m, hm, htests⟩, hstored⟩
      obtain ⟨hteam, hfrom, hex⟩ := (all_tests h).mp htests
      refine ⟨hstored, fun hne => ?_, hfrom, hex⟩
      obtain ⟨hid, huser⟩ := hteam hne
      rw [if_pos (by simpa using hne)] at hm
      exact hid ▸ huser ▸ hm
    · intro hu
      refine ⟨?_, hu.stored⟩
      by_cases hteam : team = []
      · refine ⟨⟨[], []⟩, by simp [hteam], (all_tests h).mpr ⟨fun hne => absurd hteam hne, ?_⟩⟩
        exact ⟨hu.included, hu.notExcluded⟩
      · refine ⟨⟨team, u.id⟩, ?_, (all_tests h).mpr ⟨fun _ => ⟨rfl, rfl⟩, ?_⟩⟩
        · rw [if_pos (by simpa using hteam)]
          exact hu.ofTeam hteam
        · exact ⟨hu.included, hu.notExcluded⟩
  rw [Store.userIds, List.mem_flatMap]
  apply exists_congr
  intro u
  rw [← hwanted u, List.mem_map]
  simp only [List.mem_filter]
  constructor
  · rintro ⟨hstored, m, ⟨hm, htests⟩, rfl⟩
    exact ⟨⟨⟨m, hm, htests⟩, hstored⟩, rfl⟩
  · rintro ⟨⟨⟨m, hm, htests⟩, hstored⟩, rfl⟩
    exact ⟨hstored, m, ⟨hm, htests⟩, rfl⟩

theorem binds_tests (h : build? team r.fromUsers r.excludedUsers byUsername = some q) :
    ∀ t ∈ q.tests, t.Binds := by
  rw [eq_of_build? h]
  intro t ht
  simp only [List.mem_append] at ht
  rcases ht with (ht | ht) | ht
  · split_ifs at ht
    · cases ht
    · rcases List.mem_pair.mp ht with rfl | rfl <;> trivial
  · split_ifs at ht
    · cases ht
    · exact List.mem_singleton.mp ht ▸ trivial
    · exact List.mem_singleton.mp ht ▸ trivial
  · split_ifs at ht
    · cases ht
    · exact List.mem_singleton.mp ht ▸ trivial
    · exact List.mem_singleton.mp ht ▸ trivial

theorem selectHeight_le (h : build? team r.fromUsers r.excludedUsers byUsername = some q) :
    Condition.selectHeight q ≤ 6 := by
  rw [Condition.selectHeight, eq_of_build? h]
  dsimp only
  split_ifs <;> simp [Condition.chainHeight, Condition.testHeight]

end UserQuery

variable {C : Type} {s : Store} {team : Text} {r : SearchRequest} {byUsername : Bool} {column : C}

/-- A row satisfies the filter on authors when a wanted user wrote it; without a list, always. -/
theorem holds_userConditions {row : C → Sql.Value} {id : Text} (hrow : row column = .text id) :
    (∀ x ∈ userConditions column team r byUsername, x.holds s.userIds row = true) ↔
      (r.fromUsers ≠ [] ∨ r.excludedUsers ≠ [] →
        ∃ u : User, u.IsWanted s team r byUsername ∧ u.id = id) := by
  unfold userConditions
  cases hbuild : UserQuery.build? team r.fromUsers r.excludedUsers byUsername with
  | none =>
    obtain ⟨hfrom, hex⟩ := UserQuery.build?_eq_none.mp hbuild
    simp [hfrom, hex]
  | some q =>
    have hlist : r.fromUsers ≠ [] ∨ r.excludedUsers ≠ [] := by
      by_contra hnone
      rw [not_or, not_not, not_not] at hnone
      rw [UserQuery.build?_eq_none.mpr hnone] at hbuild
      cases hbuild
    rw [← UserQuery.mem_userIds hbuild]
    simp [hrow, hlist]

/-- A filter on authors tests users, not the row. -/
theorem tests_userConditions : ∀ x ∈ userConditions column team r byUsername, x.tests = [] := by
  unfold userConditions
  split <;> simp [Condition.tests]

theorem spans_userConditions : Condition.Spans (userConditions column team r byUsername) 1 7 := by
  unfold userConditions
  split
  · next q hbuild =>
    refine ⟨?_, ?_⟩
    · rw [Condition.heights_singleton, Condition.operandHeights, List.length_singleton]
    · rw [Condition.heights_singleton, Condition.operandHeights]
      exact Nat.succ_le_succ (UserQuery.selectHeight_le hbuild)
  · exact Condition.spans_nil 1 7

theorem nesting_userConditions : ∀ x ∈ userConditions column team r byUsername, x.nesting ≤ 6 := by
  unfold userConditions
  split
  · next q hbuild =>
    intro x hx
    rw [List.mem_singleton.mp hx, Condition.nesting]
    exact UserQuery.selectHeight_le hbuild
  · simp

theorem bindable_userConditions {name : C → Text} (hname : ∀ c, '?' ∉ name c) :
    ∀ x ∈ userConditions column team r byUsername, (x.clause name).Bindable := by
  unfold userConditions
  split
  · next q hbuild =>
    intro x hx
    rw [List.mem_singleton.mp hx]
    exact Condition.isUserIn_bindable hname column (UserQuery.binds_tests hbuild)
  · simp

end ChannelSearch
