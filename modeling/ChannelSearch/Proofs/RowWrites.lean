import ChannelSearch.Store.Write
import Mathlib.Data.List.Induction
import Mathlib.Data.List.Nodup
import Mathlib.Tactic.Common

/-!
Rows that are put and members that are added, one after the other. Main statement: to repeat the
sequence changes nothing, since each key holds the last row put for it.
-/

namespace ChannelSearch

section Put

variable {α : Type} {key : α → Text} {rows rs : List α} {r t : α}

/-- Rows put one after the other. -/
def putRows (key : α → Text) (rs rows : List α) : List α :=
  rs.foldl (fun rows r => putRow key r rows) rows

@[simp] theorem putRows_nil : putRows key [] rows = rows := rfl

@[simp] theorem putRows_cons : putRows key (r :: rs) rows = putRows key rs (putRow key r rows) := rfl

theorem putRows_concat : putRows key (rs ++ [r]) rows = putRow key r (putRows key rs rows) :=
  List.foldl_append

theorem mem_putRow : t ∈ putRow key r rows ↔ t = r ∨ t ∈ rows ∧ key t ≠ key r := by
  unfold putRow
  split_ifs with hany
  · obtain ⟨u, hu, hkey⟩ := List.any_eq_true.mp hany
    have hkey : key u = key r := of_decide_eq_true hkey
    rw [List.mem_map]
    constructor
    · rintro ⟨v, hv, rfl⟩
      split_ifs with hv'
      · exact Or.inl rfl
      · exact Or.inr ⟨hv, hv'⟩
    · rintro (rfl | ⟨ht, hne⟩)
      · exact ⟨u, hu, if_pos hkey⟩
      · exact ⟨t, ht, if_neg hne⟩
  · have hfresh : ∀ u ∈ rows, key u ≠ key r := by simpa using hany
    rw [List.mem_append, List.mem_singleton]
    constructor
    · rintro (ht | rfl)
      · exact Or.inr ⟨ht, hfresh t ht⟩
      · exact Or.inl rfl
    · rintro (rfl | ⟨ht, -⟩)
      · exact Or.inr rfl
      · exact Or.inl ht

/-- Values that differ from row to row still do where the row that is put has one of its own; the row
with its key aside. -/
theorem nodup_map_putRow {β : Type} {f : α → β} (hkeys : (rows.map key).Nodup)
    (hvalues : (rows.map f).Nodup) (hfresh : ∀ t ∈ rows, key t ≠ key r → f t ≠ f r) :
    ((putRow key r rows).map f).Nodup := by
  unfold putRow
  split_ifs with hany
  · rw [List.map_map, List.Nodup, List.pairwise_map]
    refine ((List.pairwise_map.mp hkeys).and (List.pairwise_map.mp hvalues)).imp_of_mem ?_
    rintro a b ha hb ⟨hkey, hvalue⟩
    dsimp only [Function.comp_apply]
    split_ifs with hakey hbkey hbkey
    · exact absurd (hakey.trans hbkey.symm) hkey
    · exact (hfresh b hb hbkey).symm
    · exact hfresh a ha hakey
    · exact hvalue
  · rw [List.map_append, List.map_singleton, List.nodup_append]
    refine ⟨hvalues, List.nodup_singleton _, ?_⟩
    intro x hx y hy
    obtain ⟨t, ht, rfl⟩ := List.mem_map.mp hx
    rw [List.mem_singleton.mp hy]
    refine hfresh t ht fun hkey => hany ?_
    exact List.any_eq_true.mpr ⟨t, ht, decide_eq_true hkey⟩

/-- The rows afterwards: those whose key is not put, and what is put. -/
theorem mem_putRows :
    t ∈ putRows key rs rows ↔ t ∈ rows ∧ key t ∉ rs.map key ∨ t ∈ putRows key rs [] := by
  induction rs using List.reverseRecOn with
  | nil => simp
  | append_singleton rs r ih =>
    rw [putRows_concat, putRows_concat, mem_putRow, mem_putRow, ih, List.map_append, List.mem_append,
      List.map_singleton, List.mem_singleton]
    tauto

/-- The last of some rows with a key. -/
def lastOf (key : α → Text) (rs : List α) (k : Text) : Option α :=
  (rs.filter fun r => key r = k).getLast?

theorem lastOf_concat {k : Text} :
    lastOf key (rs ++ [r]) k = if key r = k then some r else lastOf key rs k := by
  unfold lastOf
  rw [List.filter_append, List.filter_singleton]
  split_ifs with h <;> simp [h]

theorem lastOf_eq_none {k : Text} : lastOf key rs k = none ↔ ∀ r ∈ rs, key r ≠ k := by
  simp [lastOf]

/-- A table of rows laid over with others: each key that is given has the last row given for it, and
all others are as before. -/
structure LaidOver (key : α → Text) (given before after : List α) : Prop where
  mem_iff : ∀ t, t ∈ after ↔
    lastOf key given (key t) = some t ∨ lastOf key given (key t) = none ∧ t ∈ before
  nodup : (before.map key).Nodup → (after.map key).Nodup

/-- Rows put one after the other lie over the ones before. -/
theorem laidOver_putRows (key : α → Text) (rs rows : List α) :
    LaidOver key rs rows (putRows key rs rows) := by
  induction rs using List.reverseRecOn with
  | nil => exact ⟨fun t => by simp [lastOf], id⟩
  | append_singleton rs r ih =>
    rw [putRows_concat]
    refine ⟨fun t => ?_, fun hnodup => ?_⟩
    · rw [mem_putRow, ih.mem_iff, lastOf_concat]
      by_cases hkey : key r = key t
      · simp [hkey, eq_comm]
      · have hne : t ≠ r := fun h => hkey (congrArg key h.symm)
        simp [hkey, hne, Ne.symm hkey]
    · have hbefore := ih.nodup hnodup
      exact nodup_map_putRow hbefore hbefore fun _ _ hkey => hkey

theorem exists_key_of_mem (h : r ∈ rs) : ∃ t ∈ putRows key rs rows, key t = key r := by
  induction rs using List.reverseRecOn with
  | nil => cases h
  | append_singleton rs last ih =>
    rw [putRows_concat]
    by_cases hlast : key r = key last
    · exact ⟨last, mem_putRow.mpr (Or.inl rfl), hlast.symm⟩
    · have hmem : r ∈ rs := by
        rcases List.mem_append.mp h with h | h
        · exact h
        · exact absurd (congrArg key (List.mem_singleton.mp h)) hlast
      obtain ⟨t, ht, hkey⟩ := ih hmem
      exact ⟨t, mem_putRow.mpr (Or.inr ⟨ht, hkey ▸ hlast⟩), hkey⟩

/-- What a row becomes when another one is put. -/
def replaceRow (key : α → Text) (t r : α) : α := if key t = key r then r else t

theorem key_foldl_replaceRow (rs : List α) (t : α) : key (rs.foldl (replaceRow key) t) = key t := by
  induction rs generalizing t with
  | nil => rfl
  | cons r rs ih =>
    rw [List.foldl_cons, ih, replaceRow]
    split_ifs with h
    · exact h.symm
    · rfl

/-- Rows whose keys are there already are put in place. -/
theorem putRows_of_keys (h : ∀ r ∈ rs, ∃ t ∈ rows, key t = key r) :
    putRows key rs rows = rows.map fun t => rs.foldl (replaceRow key) t := by
  induction rs generalizing rows with
  | nil => simp
  | cons r rs ih =>
    have hput : putRow key r rows = rows.map fun t => replaceRow key t r := by
      obtain ⟨t, ht, hkey⟩ := h r List.mem_cons_self
      unfold putRow replaceRow
      exact if_pos (List.any_eq_true.mpr ⟨t, ht, decide_eq_true hkey⟩)
    have hkeys : ∀ r' ∈ rs, ∃ t ∈ putRow key r rows, key t = key r' := by
      intro r' hr'
      obtain ⟨t, ht, hkey⟩ := h r' (List.mem_cons_of_mem r hr')
      rw [hput]
      exact ⟨_, List.mem_map_of_mem ht, (key_foldl_replaceRow [r] t).trans hkey⟩
    rw [putRows_cons, ih hkeys, hput, List.map_map]
    rfl

/-- A row that is there at the end is the last one put for its key. -/
theorem foldl_replaceRow_of_mem (h : t ∈ putRows key rs rows) : rs.foldl (replaceRow key) t = t := by
  induction rs using List.reverseRecOn with
  | nil => rfl
  | append_singleton rs r ih =>
    have hkey : key (rs.foldl (replaceRow key) t) = key t := key_foldl_replaceRow rs t
    rw [putRows_concat] at h
    rw [List.foldl_append, List.foldl_cons, List.foldl_nil, replaceRow, hkey]
    rcases mem_putRow.mp h with rfl | ⟨hmem, hne⟩
    · exact if_pos rfl
    · rw [if_neg hne, ih hmem]

/-- Rows that are put again change nothing. -/
theorem putRows_again (rs rows : List α) :
    putRows key rs (putRows key rs rows) = putRows key rs rows := by
  -- Every key is there, so each row is replaced in place, and its last replacement is itself.
  have hlast : ∀ t ∈ putRows key rs rows, rs.foldl (replaceRow key) t = t :=
    fun t ht => foldl_replaceRow_of_mem ht
  rw [putRows_of_keys fun r hr => exists_key_of_mem hr, List.map_congr_left hlast, List.map_id']

end Put

section Add

variable {α : Type} [DecidableEq α] {rows ms : List α} {t : α}

/-- Members added one after the other. -/
def addRows (ms rows : List α) : List α := ms.foldl (fun rows m => addRow m rows) rows

@[simp] theorem addRows_nil : addRows [] rows = rows := rfl

@[simp] theorem addRows_cons {m : α} : addRows (m :: ms) rows = addRows ms (addRow m rows) := rfl

theorem addRows_append (ms ms' rows : List α) :
    addRows (ms ++ ms') rows = addRows ms' (addRows ms rows) := List.foldl_append

theorem mem_addRow {m : α} : t ∈ addRow m rows ↔ t ∈ rows ∨ t = m := by
  unfold addRow
  split_ifs with h
  · exact ⟨Or.inl, fun ht => ht.elim id fun heq => heq ▸ h⟩
  · rw [List.mem_append, List.mem_singleton]

theorem mem_addRow_iff {m : α} : t ∈ addRow m rows ↔ t = m ∨ t ∈ rows ∧ t ≠ m := by
  rw [mem_addRow]
  tauto

theorem nodup_addRow {m : α} (h : rows.Nodup) : (addRow m rows).Nodup := by
  unfold addRow
  split_ifs with hm
  · exact h
  · refine List.nodup_append.mpr ⟨h, List.nodup_singleton m, ?_⟩
    rintro a ha b hb rfl
    exact hm (List.mem_singleton.mp hb ▸ ha)

theorem mem_addRows : t ∈ addRows ms rows ↔ t ∈ rows ∨ t ∈ ms := by
  induction ms generalizing rows with
  | nil => simp
  | cons m ms ih => rw [addRows_cons, ih, mem_addRow, List.mem_cons, or_assoc]

/-- Members that are there already change nothing. -/
theorem addRows_of_subset (h : ∀ m ∈ ms, m ∈ rows) : addRows ms rows = rows := by
  induction ms with
  | nil => rfl
  | cons m ms ih =>
    obtain ⟨hm, hms⟩ := List.forall_mem_cons.mp h
    rw [addRows_cons, addRow, if_pos hm, ih hms]

theorem addRows_again (ms rows : List α) : addRows ms (addRows ms rows) = addRows ms rows :=
  addRows_of_subset fun _ hm => mem_addRows.mpr (Or.inr hm)

end Add

end ChannelSearch
