import ChannelSearch.Proofs.LowerForms
import ChannelSearch.Proofs.Statements
import ChannelSearch.Proofs.StoreWrites

/-!
What a store holds after writes in any order, refused ones among them. Main statement: the rows are
those that the last accepted write for each key gave, one for each key, and nothing else has changed.
-/

namespace ChannelSearch

/-- What a row is found by, in its table: an id, or both ids of a member. -/
inductive RowKey where
  | team (id : Text)
  | user (id : Text)
  | teamMember (teamId userId : Text)
  | channel (id : Text)
  | channelMember (channelId userId : Text)
  | post (id : Text)
  | file (id : Text)
deriving DecidableEq, Repr

@[simp] theorem User.id_stored (u : User) : u.stored.id = u.id := rfl

@[simp] theorem Channel.id_stored (c : Channel) : c.stored.id = c.id := by
  unfold stored
  split_ifs <;> rfl

@[simp] theorem Channel.name_stored (c : Channel) : c.stored.name = c.name := by
  unfold stored
  split_ifs <;> rfl

@[simp] theorem Channel.deleteAt_stored (c : Channel) : c.stored.deleteAt = c.deleteAt := by
  unfold stored
  split_ifs <;> rfl

@[simp] theorem FileInfo.id_stored (f : FileInfo) : f.stored.id = f.id := rfl

namespace Write

def key : Write → RowKey
  | .team t => .team t.id
  | .user u => .user u.id
  | .teamMember m => .teamMember m.teamId m.userId
  | .channel c => .channel c.id
  | .channelMember m => .channelMember m.channelId m.userId
  | .post p => .post p.id
  | .file f => .file f.id

/-- The row that a write gives, as it is stored. -/
def stored : Write → Write
  | .user u => .user u.stored
  | .channel c => .channel c.stored
  | .file f => .file f.stored
  | w => w

def integers : Write → List Int
  | .team t => [t.deleteAt]
  | .user u => [u.deleteAt]
  | .teamMember _ => []
  | .channel c => [c.deleteAt]
  | .channelMember _ => []
  | .post p => [p.createAt, p.deleteAt]
  | .file f => [f.createAt, f.deleteAt]

/-- A user would take the name of another one. -/
def TakesName (s : Store) : Write → Prop
  | .user u => NameHeld s.users u.stored
  | _ => False

instance (s : Store) (w : Write) : Decidable (w.TakesName s) := by
  cases w <;> unfold TakesName <;> infer_instance

@[simp] theorem key_stored (w : Write) : w.stored.key = w.key := by
  cases w with
  | channel c => exact congrArg RowKey.channel c.id_stored
  | _ => rfl

@[simp] theorem integers_stored (w : Write) : w.stored.integers = w.integers := by
  cases w with
  | channel c => exact congrArg (fun n => [n]) c.deleteAt_stored
  | _ => rfl

/-- A member is the row of its own key. -/
theorem key_teamMember {m m' : TeamMember} :
    (teamMember m').key ≠ (teamMember m).key ↔ m' ≠ m := by
  obtain ⟨team, user⟩ := m
  obtain ⟨team', user'⟩ := m'
  simp [key]

theorem key_channelMember {m m' : ChannelMember} :
    (channelMember m').key ≠ (channelMember m).key ↔ m' ≠ m := by
  obtain ⟨channel, user⟩ := m
  obtain ⟨channel', user'⟩ := m'
  simp [key]

end Write

namespace Store

/-- The store has a row of one of its tables, told as the write that gives it. -/
def Holds (s : Store) : Write → Prop
  | .team t => t ∈ s.teams
  | .user u => u ∈ s.users
  | .teamMember m => m ∈ s.teamMembers
  | .channel c => c ∈ s.channels
  | .channelMember m => m ∈ s.channelMembers
  | .post p => p ∈ s.posts
  | .file f => f ∈ s.files

/-- The store with the row of a write that is not refused. -/
def put (s : Store) : Write → Store
  | .team t => { s with teams := putRow Team.id t s.teams }
  | .user u => { s with users := putRow User.id u.stored s.users }
  | .teamMember m => s.addTeamMember m
  | .channel c => { s with channels := putRow Channel.id c.stored s.channels }
  | .channelMember m => s.addChannelMember m
  | .post p => s.withPost p
  | .file f => s.withFile f

/-- A write is refused for an integer that does not fit, or for the name of another user. -/
theorem write_eq (s : Store) (w : Write) :
    s.write w =
      if ∀ n ∈ w.integers, fitsStore n = true then
        if w.TakesName s then .error .usernameTaken else .ok (s.put w)
      else .error .integerOverflow := by
  have hrow {w : Write} (hname : ¬ w.TakesName s)
      (h : s.write w = requireFit w.integers >>= fun _ => pure (s.put w)) :
      s.write w =
        if ∀ n ∈ w.integers, fitsStore n = true then
          if w.TakesName s then .error .usernameTaken else .ok (s.put w)
        else .error .integerOverflow := by
    rw [h, if_neg hname]
    split_ifs with hfit
    · rw [requireFit_eq_ok.mpr hfit]
      rfl
    · rw [requireFit_eq_overflow hfit]
      rfl
  cases w with
  | user u =>
    have hfit : (∀ n ∈ (Write.user u).integers, fitsStore n = true) ↔ fitsStore u.deleteAt = true :=
      List.forall_mem_singleton
    simp only [hfit]
    exact putUser_eq
  | team t => exact hrow id rfl
  | teamMember m => exact hrow id rfl
  | channel c => exact hrow id rfl
  | channelMember m => exact hrow id rfl
  | post p => exact hrow id rfl
  | file f => exact hrow id rfl

theorem write_eq_ok {s s' : Store} {w : Write} :
    s.write w = .ok s' ↔
      (∀ n ∈ w.integers, fitsStore n = true) ∧ ¬ w.TakesName s ∧ s' = s.put w := by
  rw [write_eq]
  split_ifs with hfit hname
  · exact iff_of_false nofun fun h => h.2.1 hname
  · rw [Except.ok.injEq, eq_comm]
    exact ⟨fun h => ⟨hfit, hname, h⟩, fun h => h.2.2⟩
  · exact iff_of_false nofun fun h => hfit h.1

/-- After a write the store has its row, and every row with another key that it had before. -/
theorem holds_put {s : Store} {w row : Write} :
    (s.put w).Holds row ↔ row = w.stored ∨ s.Holds row ∧ row.key ≠ w.key := by
  -- A row of another table has another key, and its table is left alone.
  cases w with
  | team t =>
    cases row with
    | team t' => simpa [Holds, put, Write.key, Write.stored] using mem_putRow
    | _ => simp [Holds, put, Write.key, Write.stored]
  | user u =>
    cases row with
    | user u' =>
      have hput : u' ∈ putRow User.id u.stored s.users ↔ _ := mem_putRow
      simpa [Holds, put, Write.key, Write.stored] using hput
    | _ => simp [Holds, put, Write.key, Write.stored]
  | teamMember m =>
    cases row with
    | teamMember m' =>
      rw [Write.key_teamMember]
      simpa [Holds, put, Write.stored, addTeamMember] using mem_addRow_iff
    | _ => simp [Holds, put, Write.key, Write.stored, addTeamMember]
  | channel c =>
    cases row with
    | channel c' =>
      have hput : c' ∈ putRow Channel.id c.stored s.channels ↔ _ := mem_putRow
      simpa [Holds, put, Write.key, Write.stored] using hput
    | _ => simp [Holds, put, Write.key, Write.stored]
  | channelMember m =>
    cases row with
    | channelMember m' =>
      rw [Write.key_channelMember]
      simpa [Holds, put, Write.stored, addChannelMember] using mem_addRow_iff
    | _ => simp [Holds, put, Write.key, Write.stored, addChannelMember]
  | post p =>
    cases row with
    | post p' => simpa [Holds, put, Write.key, Write.stored, withPost] using mem_putRow
    | _ => simp [Holds, put, Write.key, Write.stored, withPost]
  | file f =>
    cases row with
    | file f' =>
      have hput : f' ∈ putRow FileInfo.id f.stored s.files ↔ _ := mem_putRow
      simpa [Holds, put, Write.key, Write.stored, withFile] using hput
    | _ => simp [Holds, put, Write.key, Write.stored, withFile]

/-- A write leaves the rows with other keys alone. -/
theorem holds_put_of_ne {s : Store} {w row : Write} (hkey : row.key ≠ w.key) :
    (s.put w).Holds row ↔ s.Holds row := by
  have hrow : row ≠ w.stored := fun heq => hkey (by rw [heq, Write.key_stored])
  rw [holds_put]
  exact ⟨fun h => (h.resolve_left hrow).1, fun h => Or.inr ⟨h, hkey⟩⟩

/-- What holds of the tables whatever is written: rows are told apart by their keys and users by their
names, names and extensions are in lower case, and integers fit in 64 bits with a sign. -/
structure WellKept (s : Store) : Prop where
  teamIds : (s.teams.map Team.id).Nodup
  userIds : (s.users.map User.id).Nodup
  teamMembers : s.teamMembers.Nodup
  channelIds : (s.channels.map Channel.id).Nodup
  channelMembers : s.channelMembers.Nodup
  postIds : (s.posts.map Post.id).Nodup
  fileIds : (s.files.map FileInfo.id).Nodup
  usernames : (s.users.map User.username).Nodup
  lowerUsernames : ∀ u ∈ s.users, u.username.lower = u.username
  lowerExtensions : ∀ f ∈ s.files, f.extension.lower = f.extension
  integers : ∀ row, s.Holds row → ∀ n ∈ row.integers, -2 ^ 63 ≤ n ∧ n < 2 ^ 63

theorem wellKept_empty : WellKept {} where
  teamIds := List.nodup_nil
  userIds := List.nodup_nil
  teamMembers := List.nodup_nil
  channelIds := List.nodup_nil
  channelMembers := List.nodup_nil
  postIds := List.nodup_nil
  fileIds := List.nodup_nil
  usernames := List.nodup_nil
  lowerUsernames := nofun
  lowerExtensions := nofun
  integers row h := by cases row <;> cases h

theorem nodup_ids_putRow {α : Type} {id : α → Text} {r : α} {rows : List α}
    (h : (rows.map id).Nodup) : ((putRow id r rows).map id).Nodup :=
  nodup_map_putRow h h fun _ _ hne => hne

/-- A write that is not refused keeps the tables well. -/
theorem WellKept.put {s : Store} {w : Write} (h : s.WellKept)
    (hfit : ∀ n ∈ w.integers, fitsStore n = true) (hname : ¬ w.TakesName s) : (s.put w).WellKept := by
  have hintegers (row : Write) (hrow : (s.put w).Holds row) :
      ∀ n ∈ row.integers, -2 ^ 63 ≤ n ∧ n < 2 ^ 63 := by
    rcases holds_put.mp hrow with rfl | ⟨hold, -⟩
    · rw [Write.integers_stored]
      exact fun n hn => fitsStore_iff.mp (hfit n hn)
    · exact h.integers row hold
  cases w with
  | team t => exact { h with teamIds := nodup_ids_putRow h.teamIds, integers := hintegers }
  | user u =>
    have hnames : ((putRow User.id u.stored s.users).map User.username).Nodup := by
      refine nodup_map_putRow h.userIds h.usernames fun v hv hid hsame => hname ⟨v, hv, hid, hsame⟩
    have hlower (v : User) (hv : v ∈ putRow User.id u.stored s.users) :
        v.username.lower = v.username := by
      rcases mem_putRow.mp hv with rfl | ⟨hold, -⟩
      · exact Text.lower_lower u.username
      · exact h.lowerUsernames v hold
    exact { h with
      userIds := nodup_ids_putRow h.userIds
      usernames := hnames
      lowerUsernames := hlower
      integers := hintegers }
  | teamMember m => exact { h with teamMembers := nodup_addRow h.teamMembers, integers := hintegers }
  | channel c => exact { h with channelIds := nodup_ids_putRow h.channelIds, integers := hintegers }
  | channelMember m =>
    exact { h with channelMembers := nodup_addRow h.channelMembers, integers := hintegers }
  | post p => exact { h with postIds := nodup_ids_putRow h.postIds, integers := hintegers }
  | file f =>
    have hlower (g : FileInfo) (hg : g ∈ putRow FileInfo.id f.stored s.files) :
        g.extension.lower = g.extension := by
      rcases mem_putRow.mp hg with rfl | ⟨hold, -⟩
      · exact Text.lower_lower _
      · exact h.lowerExtensions g hold
    exact { h with
      fileIds := nodup_ids_putRow h.fileIds
      lowerExtensions := hlower
      integers := hintegers }

/-- The writes of a sequence that are not refused. -/
def accepted (s : Store) : List Write → List Write
  | [] => []
  | w :: ws =>
    match s.write w with
    | .ok s' => w :: s'.accepted ws
    | .error _ => s.accepted ws

/-- The last write of a sequence for a key, refused writes aside. -/
def lastWrite? (s : Store) (ws : List Write) (k : RowKey) : Option Write :=
  ((s.accepted ws).filter (·.key = k)).getLast?

theorem writeAll_cons (s : Store) (w : Write) (ws : List Write) :
    s.writeAll (w :: ws) = ((s.write w).toOption.getD s).writeAll ws := rfl

theorem writeAll_concat (s : Store) (ws : List Write) (w : Write) :
    s.writeAll (ws ++ [w]) = ((s.writeAll ws).write w).toOption.getD (s.writeAll ws) :=
  List.foldl_append

/-- A sequence leaves what its accepted writes leave, one after the other. -/
theorem writeAll_eq (s : Store) (ws : List Write) : s.writeAll ws = (s.accepted ws).foldl put s := by
  induction ws generalizing s with
  | nil => rfl
  | cons w ws ih =>
    rw [writeAll_cons, accepted]
    cases hw : s.write w with
    | error e => exact ih s
    | ok s' =>
      obtain ⟨-, -, rfl⟩ := write_eq_ok.mp hw
      exact ih _

theorem WellKept.writeAll {s : Store} (h : s.WellKept) (ws : List Write) : (s.writeAll ws).WellKept := by
  induction ws generalizing s with
  | nil => exact h
  | cons w ws ih =>
    rw [writeAll_cons]
    cases hw : s.write w with
    | error e => exact ih h
    | ok s' =>
      obtain ⟨hfit, hname, rfl⟩ := write_eq_ok.mp hw
      exact ih (h.put hfit hname)

/-- After accepted writes a key has the row of the last write for it, or else the row it had. -/
theorem holds_foldl_put (s : Store) (ws : List Write) (row : Write) :
    (ws.foldl put s).Holds row ↔
      match (ws.filter (·.key = row.key)).getLast? with
      | some w => row = w.stored
      | none => s.Holds row := by
  induction ws using List.reverseRecOn with
  | nil => rfl
  | append_singleton ws w ih =>
    rw [List.foldl_append, List.foldl_cons, List.foldl_nil, List.filter_append]
    by_cases hkey : w.key = row.key
    · have hlast : [w].filter (·.key = row.key) = [w] := by simp [hkey]
      rw [hlast, List.getLast?_concat, holds_put]
      exact ⟨fun h => h.resolve_right fun h => h.2 hkey.symm, Or.inl⟩
    · have hlast : [w].filter (·.key = row.key) = [] := by simp [hkey]
      rw [hlast, List.append_nil, holds_put_of_ne (Ne.symm hkey)]
      exact ih

/-- From an empty store a key has a row when an accepted write gave one, and the last such write did. -/
theorem holds_writeAll (ws : List Write) (row : Write) :
    (writeAll {} ws).Holds row ↔ (lastWrite? {} ws row.key).map Write.stored = some row := by
  rw [writeAll_eq, holds_foldl_put, lastWrite?]
  cases ((accepted {} ws).filter (·.key = row.key)).getLast? with
  | none =>
    refine iff_of_false (fun h => ?_) nofun
    cases row <;> cases h
  | some w => exact ⟨fun h => congrArg some h.symm, fun h => (Option.some.inj h).symm⟩

/-- The row of the last accepted write for a key is there. -/
theorem holds_of_lastWrite {ws : List Write} {w : Write} (h : lastWrite? {} ws w.key = some w) :
    (writeAll {} ws).Holds w.stored := by
  rw [holds_writeAll, Write.key_stored, h]
  rfl

/-- The integers of a write fit unless one of them is too large or too small. -/
theorem not_fit_iff {ns : List Int} :
    (¬ ∀ n ∈ ns, fitsStore n = true) ↔ ∃ n ∈ ns, n < -2 ^ 63 ∨ 2 ^ 63 ≤ n := by
  simp only [fitsStore_iff, not_forall, not_and_or, not_le, not_lt, exists_prop]

theorem write_eq_overflow {s : Store} {w : Write} :
    s.write w = .error .integerOverflow ↔ ∃ n ∈ w.integers, n < -2 ^ 63 ∨ 2 ^ 63 ≤ n := by
  rw [write_eq, ← not_fit_iff]
  split_ifs with hfit hname
  · exact iff_of_false nofun fun h => h hfit
  · exact iff_of_false nofun fun h => h hfit
  · exact iff_of_true rfl hfit

theorem write_eq_taken {s : Store} {w : Write} :
    s.write w = .error .usernameTaken ↔
      (∀ n ∈ w.integers, -2 ^ 63 ≤ n ∧ n < 2 ^ 63) ∧ w.TakesName s := by
  simp only [← fitsStore_iff]
  rw [write_eq]
  split_ifs with hfit hname
  · exact iff_of_true rfl ⟨hfit, hname⟩
  · exact iff_of_false nofun fun h => hname h.2
  · exact iff_of_false nofun fun h => hfit h.1

/-- Whatever is written, in any order and with writes that are refused among them: rows are told apart
by their keys and users by their names, names and extensions are in lower case, and integers fit; and
each key has the row of the last accepted write for it, and only such rows are there. A further write is
refused when an integer does not fit or a name is taken, and then it changes no table; else it gives its
row and leaves every row with another key as it was. -/
theorem writeAll_keeps (ws : List Write) :
    (writeAll {} ws).WellKept ∧
      (∀ row, (writeAll {} ws).Holds row ↔
        (lastWrite? {} ws row.key).map Write.stored = some row) ∧
      ∀ w,
        ((writeAll {} ws).write w = .error .integerOverflow ↔
          ∃ n ∈ w.integers, n < -2 ^ 63 ∨ 2 ^ 63 ≤ n) ∧
        ((writeAll {} ws).write w = .error .usernameTaken ↔
          (∀ n ∈ w.integers, -2 ^ 63 ≤ n ∧ n < 2 ^ 63) ∧ w.TakesName (writeAll {} ws)) ∧
        (∀ e, (writeAll {} ws).write w = .error e → writeAll {} (ws ++ [w]) = writeAll {} ws) ∧
        ∀ s', (writeAll {} ws).write w = .ok s' → writeAll {} (ws ++ [w]) = s' ∧
          s'.Holds w.stored ∧ ∀ row, row.key ≠ w.key → (s'.Holds row ↔ (writeAll {} ws).Holds row) := by
  refine ⟨wellKept_empty.writeAll ws, holds_writeAll ws, fun w => ⟨write_eq_overflow, write_eq_taken,
    fun e he => ?_, fun s' hs' => ?_⟩⟩
  · rw [writeAll_concat, he]
    rfl
  · have hafter : writeAll {} (ws ++ [w]) = s' := by
      rw [writeAll_concat, hs']
      rfl
    obtain ⟨-, -, rfl⟩ := write_eq_ok.mp hs'
    exact ⟨hafter, holds_put.mpr (Or.inl rfl), fun row hkey => holds_put_of_ne hkey⟩

/-- A user is renamed, after which another one may not take the new name but may take the old one. -/
theorem writeAll_keeps_renamed :
    let alice : User := { id := "u1".toList, username := "Alice".toList }
    let alicia : User := { alice with username := "ALİCİA".toList }
    let other : User := { id := "u2".toList, username := "aLİCİA".toList }
    let s := writeAll {} [.user alice, .user alicia]
    s.WellKept ∧ s.Holds (.user alicia.stored) ∧
      s.write (.user { alice with deleteAt := 2 ^ 63 }) = .error .integerOverflow ∧
      s.write (.user other) = .error .usernameTaken ∧
      writeAll {} [.user alice, .user alicia, .user other] = s ∧
      ∃ s', s.write (.user { other with username := "alice".toList }) = .ok s' ∧
        s'.Holds (.user alicia.stored) := by
  intro alice alicia other s
  obtain ⟨hkept, hrows, hwrites⟩ := writeAll_keeps [.user alice, .user alicia]
  have halicia : s.Holds (.user alicia.stored) := (hrows (.user alicia.stored)).mpr (by decide +kernel)
  have htaken : s.write (.user other) = .error .usernameTaken :=
    (hwrites (.user other)).2.1.mpr ⟨by decide, by decide +kernel⟩
  have hbig : s.write (.user { alice with deleteAt := 2 ^ 63 }) = .error .integerOverflow :=
    (hwrites (.user { alice with deleteAt := 2 ^ 63 })).1.mpr
      ⟨2 ^ 63, List.mem_singleton_self _, Or.inr le_rfl⟩
  have hfree : s.write (.user { other with username := "alice".toList }) =
      .ok (s.put (.user { other with username := "alice".toList })) := by
    decide +kernel
  obtain ⟨-, -, hother⟩ := (hwrites _).2.2.2 _ hfree
  exact ⟨hkept, halicia, hbig, htaken, (hwrites _).2.2.1 _ htaken, _, hfree,
    (hother (.user alicia.stored) (by decide)).mpr halicia⟩

end Store

end ChannelSearch
