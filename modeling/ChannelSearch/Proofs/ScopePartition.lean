import ChannelSearch.Proofs.PostSearch
import ChannelSearch.Proofs.StoreRows
import Mathlib.Data.List.Perm.Basic

/-!
The scope of a search. Main statement: the channels that a search may read are listed once each, and a
list of channels parts them in two, those that are read when it is asked for and those that are read when
it is left out.
-/

namespace ChannelSearch

theorem nodup_eraseDups {α : Type} [BEq α] [LawfulBEq α] (xs : List α) : xs.eraseDups.Nodup := by
  induction hlength : xs.length using Nat.strong_induction_on generalizing xs with
  | _ n ih =>
    cases xs with
    | nil => simp
    | cons x xs =>
      rw [List.eraseDups_cons, List.nodup_cons]
      constructor
      · simp [List.mem_eraseDups]
      · apply ih _ _ _ rfl
        have hfiltered := List.length_filter_le (fun y => !y == x) xs
        simp only [List.length_cons] at hlength
        omega

namespace SearchRequest

/-- A request that is asked for the listed channels only. -/
def within (r : SearchRequest) (channels : List Text) : SearchRequest :=
  { r with inChannels := channels, excludedChannels := [] }

/-- A request that leaves the listed channels out. -/
def without (r : SearchRequest) (channels : List Text) : SearchRequest :=
  { r with inChannels := [], excludedChannels := channels }

/-- A request for all channels. -/
def everywhere (r : SearchRequest) : SearchRequest :=
  { r with inChannels := [], excludedChannels := [] }

end SearchRequest

namespace Store

/-- The answer to the question which channels a search of the user, from the team, may read. -/
def scope (s : Store) (user team : Text) (r : SearchRequest) (byName : Bool) :
    Except SearchError (List Text) :=
  (visibleChannels s.reader (ScopeQuery.build user team r byName)).result

variable {s : Store} {user team : Text} {r : SearchRequest} {byName : Bool} {channels : List Text}

theorem keys_nil (byName : Bool) : ScopeQuery.keys byName [] = [] := by
  cases byName <;> rfl

theorem isSearched_within (hne : channels ≠ []) {c : Channel} :
    c.IsSearched s user team (r.within channels) byName ↔
      c.IsSearched s user team r.everywhere byName ∧ c.key byName ∈ ScopeQuery.keys byName channels := by
  simp only [Channel.isSearched_iff, SearchRequest.within, SearchRequest.everywhere, keys_nil]
  simp only [hne, ne_eq, not_true_eq_false, not_false_eq_true, List.not_mem_nil, false_implies,
    true_implies, and_true, and_assoc]

theorem isSearched_without {c : Channel} :
    c.IsSearched s user team (r.without channels) byName ↔
      c.IsSearched s user team r.everywhere byName ∧ c.key byName ∉ ScopeQuery.keys byName channels := by
  simp only [Channel.isSearched_iff, SearchRequest.without, SearchRequest.everywhere, keys_nil]
  simp only [ne_eq, not_true_eq_false, List.not_mem_nil, false_implies, not_false_eq_true, true_and,
    and_true, and_assoc]

/-- Where ids tell channels apart, no channel is both asked for and left out. -/
theorem not_sees_both (hids : (s.channels.map Channel.id).Nodup) (hne : channels ≠ []) {id : Text}
    (hwithin : s.Sees user team (r.within channels) byName id) :
    ¬ s.Sees user team (r.without channels) byName id := by
  intro hwithout
  obtain ⟨c, hc, hid⟩ := hwithin
  obtain ⟨d, hd, hid'⟩ := hwithout
  obtain ⟨hlisted, hkey⟩ := (isSearched_within hne).mp hc
  obtain ⟨hunlisted, hother⟩ := isSearched_without.mp hd
  have hsame : c = d :=
    List.inj_on_of_nodup_map hids hlisted.stored hunlisted.stored (hid.trans hid'.symm)
  rw [hsame] at hkey
  exact hother hkey

/-- A list of channels decides for each channel whether it is asked for or left out. -/
theorem sees_everywhere (hne : channels ≠ []) {id : Text} :
    s.Sees user team r.everywhere byName id ↔
      s.Sees user team (r.within channels) byName id ∨
        s.Sees user team (r.without channels) byName id := by
  constructor
  · intro h
    obtain ⟨c, hc, hid⟩ := h
    by_cases hkey : c.key byName ∈ ScopeQuery.keys byName channels
    · exact .inl ⟨c, (isSearched_within hne).mpr ⟨hc, hkey⟩, hid⟩
    · exact .inr ⟨c, isSearched_without.mpr ⟨hc, hkey⟩, hid⟩
  · intro h
    rcases h with h | h
    · obtain ⟨c, hc, hid⟩ := h
      exact ⟨c, ((isSearched_within hne).mp hc).1, hid⟩
    · obtain ⟨c, hc, hid⟩ := h
      exact ⟨c, (isSearched_without.mp hc).1, hid⟩

/-- The scope of a search holds each channel that it may read once and no others. -/
theorem exists_scope (s : Store) (user team : Text) (r : SearchRequest) (byName : Bool) :
    ∃ ids, s.scope user team r byName = .ok ids ∧ ids.Nodup ∧
      ∀ id, id ∈ ids ↔ s.Sees user team r byName id := by
  refine ⟨_, visibleChannels_reader s user team r byName, ?_, ?_⟩
  · apply nodup_eraseDups
  · intro id
    apply mem_channelIds

end Store

end ChannelSearch
