import ChannelSearch.Proofs.ConditionTree
import ChannelSearch.Store.Read

/-!
The channels that a store answers with: the stored channels that a search may read, by what it asks
of their members, their team, and their names or ids.
-/

namespace ChannelSearch

/-- What a channel is listed by in the filters of a request. -/
def Channel.key (c : Channel) (byName : Bool) : Text := if byName then c.name else c.id

/-- The listed names or ids, as they are compared. -/
def ScopeQuery.keys (byName : Bool) (channels : List Text) : List Text :=
  if byName then channels.map nameKey else channels

/-- What a search asks of a channel. Channels without a team are searched from every team. -/
@[mk_iff isSearched_iff]
structure Channel.IsSearched (c : Channel) (s : Store) (user team : Text) (r : SearchRequest)
    (byName : Bool) : Prop where
  stored : c ∈ s.channels
  member : r.searchWithoutUserId = false → ⟨c.id, user⟩ ∈ s.channelMembers
  live : r.includeDeletedChannels = false → c.deleteAt = 0
  ofTeam : team ≠ [] → c.teamId = team ∨ c.teamId = []
  included : r.inChannels ≠ [] → c.key byName ∈ ScopeQuery.keys byName r.inChannels
  notExcluded : c.key byName ∉ ScopeQuery.keys byName r.excludedChannels

/-- A search of the user, from the team, reads the channel with this id. -/
def Store.Sees (s : Store) (user team : Text) (r : SearchRequest) (byName : Bool) (id : Text) : Prop :=
  ∃ c : Channel, c.IsSearched s user team r byName ∧ c.id = id

instance (c : Channel) (s : Store) (user team : Text) (r : SearchRequest) (byName : Bool) :
    Decidable (c.IsSearched s user team r byName) := decidable_of_iff' _ (Channel.isSearched_iff ..)

instance (s : Store) (user team : Text) (r : SearchRequest) (byName : Bool) (id : Text) :
    Decidable (s.Sees user team r byName id) :=
  decidable_of_iff (∃ c ∈ s.channels, c.IsSearched s user team r byName ∧ c.id = id)
    ⟨fun ⟨c, _, h⟩ => ⟨c, h⟩, fun ⟨c, h⟩ => ⟨c, h.1.stored, h⟩⟩

namespace ScopeQuery

theorem key_value (c : Channel) (m : ChannelMember) (byName : Bool) :
    c.values m (if byName then .name else .id) = .text (c.key byName) := by
  cases byName <;> rfl

/-- The conditions on a channel, its membership aside. -/
theorem holds_build {s : Store} {c : Channel} {m : ChannelMember} {user team : Text}
    {r : SearchRequest} {byName : Bool} :
    Condition.holdsAll s.userIds (c.values m) (build user team r byName).conditions = true ↔
      (r.searchWithoutUserId = false → c.id = m.channelId ∧ m.userId = user) ∧
        (r.includeDeletedChannels = false → c.deleteAt = 0) ∧
          (team ≠ [] → c.teamId = team ∨ c.teamId = []) ∧
            (r.inChannels ≠ [] → c.key byName ∈ keys byName r.inChannels) ∧
              c.key byName ∉ keys byName r.excludedChannels := by
  have hkey (channels : List Text) : channels = [] → keys byName channels = [] := by
    rintro rfl
    cases byName <;> rfl
  rw [Condition.holdsAll_eq, build, List.all_append, List.all_append, List.all_append,
    List.all_append]
  simp only [Bool.and_eq_true, and_assoc]
  refine and_congr ?_ (and_congr ?_ (and_congr ?_ (and_congr ?_ ?_)))
  · cases r.searchWithoutUserId <;> simp [Sql.Test.holds, Channel.values]
  · cases r.includeDeletedChannels <;> simp [Sql.Test.holds, Channel.values]
  · by_cases hteam : team = [] <;> simp [teamConditions, hteam, Sql.Test.holds, Channel.values]
  · by_cases hin : r.inChannels = [] <;>
      simp [hin, keys, Sql.Test.holds_oneOf (key_value c m byName)]
  · by_cases hex : r.excludedChannels = []
    · simp [hex, hkey]
    · simp [hex, keys, Sql.Test.holds_noneOf (key_value c m byName)]

end ScopeQuery

/-- The channels that the scope of a search selects are the ones it is asked to read. -/
theorem Store.mem_channelIds {s : Store} {user team : Text} {r : SearchRequest} {byName : Bool}
    {id : Text} :
    id ∈ s.channelIds (ScopeQuery.build user team r byName) ↔ s.Sees user team r byName id := by
  have hjoin : (ScopeQuery.build user team r byName).joinsMembers = !r.searchWithoutUserId := rfl
  rw [channelIds, List.mem_eraseDups, List.mem_map, hjoin]
  refine exists_congr fun c => and_congr_left fun _ => ?_
  simp only [List.mem_filter, List.any_eq_true, ScopeQuery.holds_build]
  constructor
  · rintro ⟨hstored, m, hm, hmember, hlive, hteam, hin, hex⟩
    refine ⟨hstored, fun hscope => ?_, hlive, hteam, hin, hex⟩
    obtain ⟨hid, huser⟩ := hmember hscope
    rw [hscope] at hm
    exact hid ▸ huser ▸ hm
  · intro h
    refine ⟨h.stored, ?_⟩
    cases hscope : r.searchWithoutUserId with
    | false =>
      exact ⟨⟨c.id, user⟩, h.member hscope, fun _ => ⟨rfl, rfl⟩, h.live, h.ofTeam, h.included,
        h.notExcluded⟩
    | true =>
      exact ⟨⟨[], []⟩, List.mem_singleton_self _, fun hfalse => Bool.noConfusion hfalse, h.live,
        h.ofTeam, h.included, h.notExcluded⟩

/-- Rows in channels that a search reads are those in the channels that are selected for it. -/
theorem Store.filter_sees {α : Type} {s : Store} {user team : Text} {r : SearchRequest} {byName : Bool}
    {p : α → Prop} [DecidablePred p] (key : α → Text) (rows : List α) :
    (rows.filter fun a => p a ∧ s.Sees user team r byName (key a)) =
      rows.filter fun a => p a ∧ key a ∈ s.channelIds (ScopeQuery.build user team r byName) := by
  apply List.filter_congr
  intro a _
  rw [decide_eq_decide, mem_channelIds]

/-- A team with a channel of two members and a channel of one, and a thread that goes on in the
second. -/
def sampleStore : Store :=
  { teams := [{ id := "T1".toList, name := "core".toList }]
    users :=
      [{ id := "u1".toList, username := "alice".toList },
        { id := "u2".toList, username := "bob".toList }]
    teamMembers := [⟨"T1".toList, "u1".toList⟩, ⟨"T1".toList, "u2".toList⟩]
    channels :=
      [{ id := "C1".toList, teamId := "T1".toList, name := "town-square".toList },
        { id := "C2".toList, teamId := "T1".toList, name := "secret".toList }]
    channelMembers :=
      [⟨"C1".toList, "u1".toList⟩, ⟨"C1".toList, "u2".toList⟩, ⟨"C2".toList, "u2".toList⟩]
    posts :=
      [{ id := "p1".toList, channelId := "C1".toList, userId := "u1".toList
         message := "Build failed on deploy".toList, createAt := 1000 },
        { id := "p2".toList, channelId := "C1".toList, userId := "u2".toList
          message := "deploy succeeded".toList, createAt := 2000 },
        { id := "s1".toList, channelId := "C2".toList, userId := "u2".toList
          rootId := "p1".toList, message := "secret deploy plan".toList, createAt := 3000 }] }

example :
    sampleStore.channelIds (ScopeQuery.build "u1".toList "T1".toList {} false) = ["C1".toList] := by
  decide +kernel

end ChannelSearch
