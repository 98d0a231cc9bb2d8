import ChannelSearch.Proofs.ImportAgain
import ChannelSearch.Proofs.MalformedRecords

/-!
What an import leaves, told by the lists of the export. Main statement: each table is laid over with the
rows of the export, members are added, and nothing else changes; a dry run counts the same.
-/

namespace ChannelSearch

open Import (each Does)

section MapM

variable {ε α β : Type} {f : α → Except ε β} {as : List α} {bs : List β}

/-- What is read of each value is known once the values are read. -/
theorem mapM_eq_map {g : α → β} {P : α → Prop} (hf : ∀ a b, f a = .ok b → P a ∧ b = g a)
    (h : as.mapM f = .ok bs) : (∀ a ∈ as, P a) ∧ bs = as.map g := by
  induction as generalizing bs with
  | nil =>
    obtain rfl := Except.ok.inj h
    exact ⟨nofun, rfl⟩
  | cons a as ih =>
    obtain ⟨r, rs, hr, hrs, rfl⟩ := mapM_cons_eq_ok.mp h
    obtain ⟨hP, rfl⟩ := hf a r hr
    obtain ⟨hPs, rfl⟩ := ih hrs
    exact ⟨List.forall_mem_cons.mpr ⟨hP, hPs⟩, rfl⟩

theorem exists_of_mem_mapM (h : as.mapM f = .ok bs) {b : β} (hb : b ∈ bs) : ∃ a ∈ as, f a = .ok b := by
  induction as generalizing bs with
  | nil =>
    obtain rfl := Except.ok.inj h
    cases hb
  | cons a as ih =>
    obtain ⟨r, rs, hr, hrs, rfl⟩ := mapM_cons_eq_ok.mp h
    rcases List.mem_cons.mp hb with rfl | hb
    · exact ⟨a, List.mem_cons_self, hr⟩
    · obtain ⟨a', ha', hread⟩ := ih hrs hb
      exact ⟨a', List.mem_cons_of_mem a ha', hread⟩

end MapM

namespace Record

/-- The id of a record, as text. -/
def idText (v : Json) : Text := (v.memberOr "id" .null).shown

/-- What is listed under a key of a record; nothing where it cannot be listed. -/
def members (v : Json) (key : String) : List Json := (listOf v key).toOption.getD []

/-- The time at which a record was deleted; zero where it cannot be read. -/
def deletedAt (v : Json) : Int := (integer (v.memberOr "delete_at" (.int 0))).toOption.getD 0

/-- The row of a team, which is named by its id if it has no name. -/
def teamRow (v : Json) : Team :=
  { id := idText v, name := (v.memberOr "name" (v.memberOr "id" .null)).shown }

def channelRow (v : Json) : Channel :=
  { id := idText v
    teamId := (v.memberOr "team_id" (.text [])).shown
    name := (v.memberOr "name" .null).shown
    displayName := (v.memberOr "display_name" (.text [])).shown
    kind := (v.memberOr "type" (.text ['O'])).shown
    deleteAt := deletedAt v }

/-- The members that a channel lists. -/
def channelMembers (v : Json) : List ChannelMember :=
  (members v "members").map fun m => ⟨idText v, m.shown⟩

/-- The teams that a user lists. -/
def teamMembers (v : Json) : List TeamMember :=
  (members v "teams").map fun t => ⟨t.shown, idText v⟩

/-- A channel has its required fields, a time of deletion that can be stored, and a list of members. -/
structure IsChannel (v : Json) : Prop where
  id : v.has "id" = true
  name : v.has "name" = true
  time : (v.memberOr "delete_at" (.int 0)).isTime = true
  members : ∃ ms, listOf v "members" = .ok ms

theorem require_eq_ok {v value : Json} {key : String} (h : require v key = .ok value) :
    v.has key = true ∧ ∀ default, v.memberOr key default = value := by
  cases v with
  | object fields =>
    dsimp only [require] at h
    cases hfield : Json.field? fields key.toList with
    | none =>
      rw [hfield] at h
      cases h
    | some found =>
      rw [hfield] at h
      obtain rfl := Except.ok.inj h
      refine ⟨?_, fun default => ?_⟩
      · rw [Json.has, hfield]
        rfl
      · dsimp only [Json.memberOr, getOr]
        rw [hfield]
        rfl
  | _ => cases h

theorem isObject_of_getOr {v default value : Json} {key : String}
    (h : getOr v key default = .ok value) : v.isObject = true := by
  cases v with
  | object fields => rfl
  | _ => cases h

theorem team_eq_ok {v : Json} {t : Team} (h : team v = .ok t) : v.has "id" = true ∧ t = teamRow v := by
  obtain ⟨id, hid, h⟩ := bind_eq_ok.mp h
  obtain ⟨name, hname, h⟩ := bind_eq_ok.mp h
  obtain ⟨hhas, hid⟩ := require_eq_ok hid
  rw [Json.getOr_of_isObject (Json.isObject_of_has hhas)] at hname
  rw [teamRow, idText, hid, Except.ok.inj hname]
  exact ⟨hhas, (Except.ok.inj h).symm⟩

theorem channelRecord_of_ok {v : Json} {r : ChannelRecord} (h : channelRecord v = .ok r) :
    IsChannel v ∧ r = ⟨(channelRow v).stored, channelMembers v⟩ := by
  obtain ⟨c, ms, hc, hfit, hms, rfl⟩ := channelRecord_eq_ok.mp h
  obtain ⟨id, hid, hc⟩ := bind_eq_ok.mp hc
  obtain ⟨name, hname, hc⟩ := bind_eq_ok.mp hc
  obtain ⟨hhasId, hid⟩ := require_eq_ok hid
  obtain ⟨hhasName, hname⟩ := require_eq_ok hname
  have hobject := Json.isObject_of_has hhasId
  unfold integerOr at hc
  simp only [Json.textOr_of_isObject hobject, Json.getOr_of_isObject hobject, ok_bind] at hc
  obtain ⟨deleteAt, hdelete, hc⟩ := bind_eq_ok.mp hc
  have hrow : c = channelRow v := by
    rw [channelRow, idText, hid, hname, deletedAt, hdelete]
    exact (Except.ok.inj hc).symm
  subst hrow
  have htime : deletedAt v = deleteAt := by
    rw [deletedAt, hdelete]
    rfl
  refine ⟨⟨hhasId, hhasName, Json.isTime_iff.mpr ⟨deleteAt, hdelete, htime ▸ hfit⟩, ms, hms⟩, ?_⟩
  rw [channelMembers, members, hms]
  rfl

theorem userRecord_of_ok {v : Json} {r : UserRecord} (h : userRecord v = .ok r) :
    r.user.id = idText v ∧ r.memberships = teamMembers v := by
  obtain ⟨u, hu, -, rfl⟩ := userRecord_eq_ok.mp h
  obtain ⟨id, hid, hu⟩ := bind_eq_ok.mp hu
  obtain ⟨name, -, hu⟩ := bind_eq_ok.mp hu
  obtain ⟨deleteAt, -, hu⟩ := bind_eq_ok.mp hu
  have hid : u.id = idText v := by
    rw [idText, (require_eq_ok hid).2, ← Except.ok.inj hu]
  refine ⟨hid, ?_⟩
  rw [UserRecord.memberships, teamMembers, members, ← hid]
  cases listOf v "teams" <;> rfl

section Keeps

variable {κ ρ : Type} {required : List String} {row : Json → Int × Int → ρ}
  {kept? : Json → Except ImportError (Option ρ)}

/-- What is kept of a record that does not stop the import. -/
theorem Keeps.eq_of_ok (h : Keeps required row kept?) {v : Json} {r : Option ρ}
    (hobject : v.isObject = true) (hr : kept? v = .ok r) :
    (v.isObject = true ∧ ¬ Stops required v) ∧ r = keptRow required row v := by
  have hstops : ¬ Stops required v := by
    intro hstops
    obtain ⟨e, -, he⟩ := h.of_stops hobject hstops
    rw [he] at hr
    cases hr
  exact ⟨⟨hobject, hstops⟩, Except.ok.inj (hr.symm.trans (h.of_not_stops hobject hstops))⟩

theorem keptPost?_eq_ok {v : Json} {r : Option Post} (h : keptPost? v = .ok r) :
    (v.isObject = true ∧ ¬ Stops postFields v) ∧ r = keptRow postFields postRow v := by
  obtain ⟨key, hkey, -⟩ := bind_eq_ok.mp h
  obtain ⟨id, hid, -⟩ := bind_eq_ok.mp hkey
  exact keeps_posts.eq_of_ok (isObject_of_getOr hid) h

theorem keptFile?_eq_ok {v : Json} {r : Option FileInfo} (h : keptFile? v = .ok r) :
    (v.isObject = true ∧ ¬ Stops fileFields v) ∧ r = keptRow fileFields fileRow v := by
  obtain ⟨key, hkey, -⟩ := bind_eq_ok.mp h
  obtain ⟨id, hid, -⟩ := bind_eq_ok.mp hkey
  exact keeps_files.eq_of_ok (isObject_of_getOr hid) h

/-- Records that are kept have their required fields, and others lack one. -/
theorem exists_keys_of_kept {key? : Json → Except ImportError (Option κ)}
    {row : Json → κ → Except ImportError ρ} {times : ρ → List Int} {vs : List Json}
    {rs : List (Option ρ)} (h : vs.mapM (Record.kept? key? row times) = .ok rs) :
    ∃ keys, vs.mapM key? = .ok keys ∧ keys.map Option.isSome = rs.map Option.isSome := by
  induction vs generalizing rs with
  | nil =>
    obtain rfl := Except.ok.inj h
    exact ⟨[], rfl, rfl⟩
  | cons v vs ih =>
    obtain ⟨r, rs, hr, hrs, rfl⟩ := mapM_cons_eq_ok.mp h
    obtain ⟨keys, hkeys, hsome⟩ := ih hrs
    obtain ⟨key, hkey, hr⟩ := bind_eq_ok.mp hr
    refine ⟨key :: keys, mapM_cons_eq_ok.mpr ⟨key, keys, hkey, hkeys, rfl⟩, ?_⟩
    rw [List.map_cons, List.map_cons, hsome]
    cases key with
    | none =>
      obtain rfl := Except.ok.inj hr
      rfl
    | some k =>
      obtain ⟨found, -, hr⟩ := bind_eq_ok.mp hr
      obtain ⟨-, -, hr⟩ := bind_eq_ok.mp hr
      obtain rfl := Except.ok.inj hr
      rfl

end Keeps

end Record

open Record

/-- The lists of an export. One may also be given as an object, by its keys, or as a text, by its
characters. -/
def Json.lists (data : Json) : Except ImportError ExportLists := do
  let teams ← listOf data "teams"
  let users ← listOf data "users"
  let channels ← listOf data "channels"
  let posts ← listOf data "posts"
  let files ← listOf data "files"
  pure { teams, users, channels, posts, files }

def Text.lists (text : Text) : Except ImportError ExportLists :=
  (Json.read text.unifyNewlines).mapError .document >>= Json.lists

namespace ExportLists

/-- The rows of the posts of an export that have their required fields. -/
def postRows (d : ExportLists) : List Post := d.posts.filterMap (keptRow postFields postRow)

/-- Those of the files; where no extension is given, it is that of the name. -/
def fileRows (d : ExportLists) : List FileInfo :=
  (d.files.filterMap (keptRow fileFields fileRow)).map FileInfo.stored

/-- A channel without a name for display shows its name. -/
def channelRows (d : ExportLists) : List Channel := d.channels.map fun v => (Record.channelRow v).stored

/-- Every team and channel can be stored, and no post or file stops the import. -/
structure Loads (d : ExportLists) : Prop where
  teams : ∀ v ∈ d.teams, v.has "id" = true
  channels : ∀ v ∈ d.channels, IsChannel v
  posts : ∀ v ∈ d.posts, v.isObject = true ∧ ¬ Stops postFields v
  files : ∀ v ∈ d.files, v.isObject = true ∧ ¬ Stops fileFields v

/-- What an import makes of a store: tables are laid over with the rows of the export, and members are
added. Users that the export does not name stay as they are. -/
structure Overlays (d : ExportLists) (before after : Store) : Prop where
  posts : LaidOver Post.id d.postRows before.posts after.posts
  files : LaidOver FileInfo.id d.fileRows before.files after.files
  teams : LaidOver Team.id (d.teams.map Record.teamRow) before.teams after.teams
  channels : LaidOver Channel.id d.channelRows before.channels after.channels
  channelMembers : ∀ m, m ∈ after.channelMembers ↔
    m ∈ before.channelMembers ∨ m ∈ d.channels.flatMap Record.channelMembers
  users : ∀ u : User, (∀ v ∈ d.users, idText v ≠ u.id) → (u ∈ after.users ↔ u ∈ before.users)
  teamMembers : ∀ m, (m ∈ before.teamMembers → m ∈ after.teamMembers) ∧
    (m ∈ after.teamMembers → m ∈ before.teamMembers ∨ m ∈ d.users.flatMap Record.teamMembers)

end ExportLists

theorem Record.listed_eq_ok {ρ : Type} {data : Json} {key : String}
    {reads : Json → Except ImportError ρ} {rs : List ρ} (h : listed data key reads = .ok rs) :
    ∃ vs, listOf data key = .ok vs ∧ vs.mapM reads = .ok rs := bind_eq_ok.mp h

/-- What is read of an export is read of its lists. -/
theorem Json.exists_lists {data : Json} {c : ExportContents} (h : data.contents = .ok c) :
    ∃ d, data.lists = .ok d ∧ d.teams.mapM team = .ok c.teams ∧
      d.users.mapM userRecord = .ok c.users ∧ d.channels.mapM channelRecord = .ok c.channels ∧
        d.posts.mapM keptPost? = .ok c.posts ∧ d.files.mapM keptFile? = .ok c.files := by
  obtain ⟨hpeople, hposts, hfiles⟩ := Json.contents_eq_ok.mp h
  obtain ⟨hteams, husers, hchannels⟩ := Json.people_eq_ok.mp hpeople
  obtain ⟨teams, hteams, hteamRows⟩ := listed_eq_ok hteams
  obtain ⟨users, husers, huserRows⟩ := listed_eq_ok husers
  obtain ⟨channels, hchannels, hchannelRows⟩ := listed_eq_ok hchannels
  obtain ⟨posts, hposts, hpostRows⟩ := listed_eq_ok hposts
  obtain ⟨files, hfiles, hfileRows⟩ := listed_eq_ok hfiles
  refine ⟨⟨teams, users, channels, posts, files⟩, ?_, hteamRows, huserRows, hchannelRows, hpostRows,
    hfileRows⟩
  rw [lists, hteams, ok_bind, husers, ok_bind, hchannels, ok_bind, hposts, ok_bind, hfiles, ok_bind]
  rfl

/-- Once the lists are read, nothing in them stops an import. -/
theorem ExportLists.loads_of_contents {d : ExportLists} {c : ExportContents}
    (hteams : d.teams.mapM team = .ok c.teams)
    (hchannels : d.channels.mapM channelRecord = .ok c.channels)
    (hposts : d.posts.mapM keptPost? = .ok c.posts) (hfiles : d.files.mapM keptFile? = .ok c.files) :
    d.Loads :=
  ⟨(mapM_eq_map (fun _ _ => team_eq_ok) hteams).1,
    (mapM_eq_map (fun _ _ => channelRecord_of_ok) hchannels).1,
    (mapM_eq_map (fun _ _ => keptPost?_eq_ok) hposts).1,
    (mapM_eq_map (fun _ _ => keptFile?_eq_ok) hfiles).1⟩

/-- The contents of the lists lie over what is stored. -/
theorem Store.overlays_withContents (s : Store) {d : ExportLists} {c : ExportContents}
    (hteams : d.teams.mapM team = .ok c.teams) (husers : d.users.mapM userRecord = .ok c.users)
    (hchannels : d.channels.mapM channelRecord = .ok c.channels)
    (hposts : d.posts.mapM keptPost? = .ok c.posts) (hfiles : d.files.mapM keptFile? = .ok c.files) :
    d.Overlays s (s.withContents c) := by
  have hteamRows : c.teams = d.teams.map Record.teamRow :=
    (mapM_eq_map (fun _ _ => team_eq_ok) hteams).2
  have hchannelRows : c.channels = d.channels.map fun v =>
      ⟨(Record.channelRow v).stored, Record.channelMembers v⟩ :=
    (mapM_eq_map (fun _ _ => channelRecord_of_ok) hchannels).2
  have hpostRows : c.posts.filterMap id = d.postRows := by
    rw [(mapM_eq_map (fun _ _ => keptPost?_eq_ok) hposts).2, List.filterMap_map]
    rfl
  have hfileRows : (c.files.filterMap id).map FileInfo.stored = d.fileRows := by
    rw [(mapM_eq_map (fun _ _ => keptFile?_eq_ok) hfiles).2, List.filterMap_map]
    rfl
  have hchannelList : c.channels.map (·.channel) = d.channelRows := by
    rw [hchannelRows, List.map_map]
    rfl
  have hmembers : c.channels.flatMap (·.members) = d.channels.flatMap Record.channelMembers := by
    rw [hchannelRows, List.flatMap_map]
  -- The users that are put are among those that the export names.
  have hnamed (r : UserRecord) (hr : r ∈ acceptedUsers s.users c.users) :
      ∃ v ∈ d.users, r.user.id = idText v ∧ r.memberships = Record.teamMembers v := by
    obtain ⟨v, hv, hread⟩ := exists_of_mem_mapM husers ((acceptedUsers_sublist _ _).subset hr)
    exact ⟨v, hv, userRecord_of_ok hread⟩
  rw [Store.withContents_eq, hteamRows, hpostRows, hfileRows, hchannelList, hmembers]
  refine ⟨laidOver_putRows _ _ _, laidOver_putRows _ _ _, laidOver_putRows _ _ _,
    laidOver_putRows _ _ _, fun m => mem_addRows, fun u hu => ?_, fun m => ⟨fun hm => ?_, fun hm => ?_⟩⟩
  · have hnone : lastOf User.id ((acceptedUsers s.users c.users).map (·.user)) u.id = none := by
      rw [lastOf_eq_none, List.forall_mem_map]
      intro r hr
      obtain ⟨v, hv, hid, -⟩ := hnamed r hr
      rw [hid]
      exact hu v hv
    rw [putUsers, (laidOver_putRows _ _ _).mem_iff, hnone]
    simp
  · exact mem_addRows.mpr (Or.inl hm)
  · refine (mem_addRows.mp hm).imp_right fun hm => ?_
    obtain ⟨r, hr, hm⟩ := List.mem_flatMap.mp hm
    obtain ⟨v, hv, -, hteams⟩ := hnamed r hr
    exact List.mem_flatMap.mpr ⟨v, hv, hteams ▸ hm⟩

section Counts

variable {ρ κ : Type}

/-- Records count by whether they are kept. -/
theorem ImportStats.afterRecords_congr (n : ImportStats) {rs : List (Option ρ)} {ks : List (Option κ)}
    (h : ks.map Option.isSome = rs.map Option.isSome) : n.afterRecords ks = n.afterRecords rs := by
  have hnone {σ : Type} (xs : List (Option σ)) :
      xs.countP Option.isNone = (xs.map Option.isSome).countP (!·) := by
    rw [List.countP_map]
    refine List.countP_congr fun x _ => ?_
    cases x <;> simp
  have hsome {σ : Type} (xs : List (Option σ)) :
      (xs.filterMap id).length = (xs.map Option.isSome).countP id := by
    rw [List.length_filterMap_eq_countP, List.countP_map]
    rfl
  unfold afterRecords
  rw [hnone ks, hsome ks, h, ← hnone, ← hsome]

/-- The counts tell the records with their required fields from those without. -/
theorem ExportLists.Loads.stats_eq {d : ExportLists} (h : d.Loads) {c : ExportContents}
    (hposts : d.posts.mapM keptPost? = .ok c.posts) (hfiles : d.files.mapM keptFile? = .ok c.files)
    (users : List User) :
    c.stats users =
      { total := d.posts.length + d.files.length
        skipped := d.posts.countP (!isComplete postFields ·) +
          d.files.countP (!isComplete fileFields ·)
        imported := d.posts.countP (isComplete postFields) + d.files.countP (isComplete fileFields)
        skippedUsers := c.skippedUsers users } := by
  have hpostRows := (mapM_eq_map (fun _ _ => keptPost?_eq_ok) hposts).2
  have hfileRows := (mapM_eq_map (fun _ _ => keptFile?_eq_ok) hfiles).2
  have hcounts : c.stats users = (ImportStats.afterRecords
      { total := c.posts.length + c.files.length, skippedUsers := c.skippedUsers users }
        c.posts).afterRecords c.files := by
    simp [ImportStats.afterRecords, ExportContents.stats]
  rw [hcounts, hpostRows, hfileRows, afterRecords_keptRows fun v hv => (h.posts v hv).2,
    afterRecords_keptRows fun v hv => (h.files v hv).2, List.length_map, List.length_map]
  simp only [Nat.zero_add]

end Counts

namespace Import

section DryRun

variable {κ ρ : Type} {key? : Json → Except ImportError (Option κ)}
  {row : Json → κ → Except ImportError ρ} {times : ρ → List Int}

/-- The step of a dry run for a record of a kind: it is only counted. -/
def countStep (key? : Json → Except ImportError (Option κ)) (v : Json) : Import Unit := do
  match ← read (key? v) with
  | none => skip
  | some _ => imported

theorem post_dryRun : post true = countStep postKey? := by
  funext v
  unfold post countStep
  congr
  funext key
  cases key <;> rfl

theorem file_dryRun : file true = countStep fileKey? := by
  funext v
  unfold file countStep
  congr
  funext key
  cases key <;> rfl

/-- A dry run counts records as an import does that keeps them, and leaves the store as it is. -/
theorem does_countStep (v : Json) :
    (countStep key? v).Does fun s _ t => ∃ key, key? v = .ok key ∧
      t = keepRecord (fun s _ => s) s key := by
  refine does_read_bind _ fun key => ?_
  cases key with
  | none => exact does_count _
  | some k => exact does_count _

theorem does_countSteps {vs : List Json} {rs : List (Option ρ)}
    (h : vs.mapM (kept? key? row times) = .ok rs) (p : ImportProgress) :
    ∃ q, (each (countStep key?) vs).runFrom p = (.ok (), q) ∧
      q.kept = (p.store, p.stats.afterRecords rs) := by
  obtain ⟨keys, hkeys, hsome⟩ := exists_keys_of_kept h
  refine (does_each does_countStep vs p () _).mpr ⟨keys, hkeys, ?_⟩
  rw [foldl_keepRecord, List.foldl_fixed, ImportStats.afterRecords_congr _ hsome]
  rfl

end DryRun

theorem read_ok {α : Type} (a : α) : read (.ok a) = pure a := rfl

/-- Where an import can read the contents, a dry run counts them. -/
theorem document_dryRun {data : Json} {c : ExportContents} (hc : data.contents = .ok c) (s : Store) :
    ∃ q, (document data true).runFrom { store := s } = (.ok { c.stats [] with skippedUsers := 0 }, q) ∧
      q.store = s := by
  obtain ⟨-, hposts, hfiles⟩ := Json.contents_eq_ok.mp hc
  obtain ⟨vs, hlist, hps⟩ := listed_eq_ok hposts
  obtain ⟨posts, hposts, hvs⟩ := bind_eq_ok.mp hlist
  obtain ⟨ws, hlist, hfs⟩ := listed_eq_ok hfiles
  obtain ⟨files, hfiles, hws⟩ := bind_eq_ok.mp hlist
  let counted : ImportProgress := { store := s, stats := { total := vs.length + ws.length } }
  obtain ⟨q, hq, hqkept⟩ := does_countSteps hps counted
  obtain ⟨r, hr, hrkept⟩ := does_countSteps hfs q
  obtain ⟨t, ht, htstore⟩ := runFrom_report r
  obtain ⟨hqstore, hqstats⟩ := Prod.mk.inj hqkept
  obtain ⟨hrstore, hrstats⟩ := Prod.mk.inj hrkept
  refine ⟨t, ?_, htstore.trans (hrstore.trans hqstore)⟩
  have hstats : r.stats = { c.stats [] with skippedUsers := 0 } := by
    rw [hrstats, hqstats]
    simp [counted, ImportStats.afterRecords, ExportContents.stats, length_of_mapM hps,
      length_of_mapM hfs]
  have hdocument : document data true = (do
      count fun s => { s with total := vs.length + ws.length }
      each (countStep postKey?) vs
      each (countStep fileKey?) ws
      report) := by
    rw [document_eq, post_dryRun, file_dryRun, hposts, hfiles]
    simp only [read_ok, pure_bind, count_of_elements hvs, count_of_elements hws, hvs, hws, peopleUnless,
      if_true]
  rw [hdocument, runFrom_bind_of_ok (runFrom_count _), runFrom_bind_of_ok hq, runFrom_bind_of_ok hr, ht,
    hstats]

end Import

/-- After a completed import each table is laid over with the rows of the export: a post or a file has
the last record of its id that has its required fields, a team or a channel the last record of its id,
channels have the members before and those listed, and users that are not named stay. The counts add up.
A dry run, on any store, completes with the same counts of records, and leaves the store as it is. -/
theorem importExport_overlays {s : Store} {text : Text} {stats : ImportStats} {p : ImportProgress}
    (h : importExport s text false = (.ok stats, p)) :
    ∃ d, text.lists = .ok d ∧ d.Loads ∧ d.Overlays s p.store ∧
      stats.total = d.posts.length + d.files.length ∧
      stats.total = stats.imported + stats.skipped ∧
      stats.imported = d.posts.countP (isComplete postFields) + d.files.countP (isComplete fileFields) ∧
      ∀ t, ∃ q, importExport t text true = (.ok { stats with skippedUsers := 0 }, q) ∧ q.store = t := by
  obtain ⟨c, hc⟩ := contents_of_importExport h
  obtain ⟨-, rfl, hstore⟩ := (importExport_completes hc).mp ⟨p, h, rfl⟩
  obtain ⟨data, hread, hdata⟩ := bind_eq_ok.mp hc
  obtain ⟨d, hlists, hteams, husers, hchannels, hposts, hfiles⟩ := Json.exists_lists hdata
  have hloads := ExportLists.loads_of_contents hteams hchannels hposts hfiles
  have hstats := hloads.stats_eq hposts hfiles s.users
  have hcount (required : List String) (vs : List Json) :
      vs.length = vs.countP (isComplete required) + vs.countP (!isComplete required ·) := by
    simpa using List.length_eq_countP_add_countP (isComplete required) (l := vs)
  have hpostCount := hcount postFields d.posts
  have hfileCount := hcount fileFields d.files
  refine ⟨d, bind_eq_ok.mpr ⟨data, hread, hlists⟩, hloads, ?_, ?_, ?_, ?_, fun t => ?_⟩
  · rw [hstore]
    exact s.overlays_withContents hteams husers hchannels hposts hfiles
  · rw [hstats]
  · rw [hstats]
    dsimp only
    omega
  · rw [hstats]
  · obtain ⟨q, hq, hqstore⟩ := Import.document_dryRun hdata t
    refine ⟨q, ?_, hqstore⟩
    unfold importExport
    rw [mapError_eq_ok.mp hread]
    exact hq

/-- An export with two records of one post, whose ids are the same as texts, and one of no post. -/
def repeatingExport : Text :=
  ("\x7b\"posts\":[\x7b\"id\":1,\"channel_id\":\"C1\",\"user_id\":\"u1\",\"create_at\":\"7\"\x7d," ++
    "\x7b\"id\":\"p1\"\x7d,\x7b\"id\":\"1\",\"channel_id\":\"C1\",\"user_id\":\"u2\"," ++
    "\"message\":2,\"create_at\":8.9\x7d],\"files\":[\x7b\"id\":\"f1\",\"channel_id\":\"C1\"," ++
    "\"creator_id\":\"u1\",\"name\":\"Plan.TXT\",\"create_at\":9\x7d]\x7d").toList

/-- The second record stands, its text and its time converted, and the post that is named without its
fields is as it was. -/
theorem importExport_overlays_repeating :
    let post : Post :=
      { id := "1".toList, channelId := "C1".toList, userId := "u2".toList, message := "2".toList
        createAt := 8 }
    let file : FileInfo :=
      { id := "f1".toList, channelId := "C1".toList, creatorId := "u1".toList
        name := "Plan.TXT".toList, extension := "txt".toList, createAt := 9 }
    let after : Store := { sampleStore with posts := sampleStore.posts ++ [post], files := [file] }
    ∃ d p q, repeatingExport.lists = .ok d ∧
      importExport sampleStore repeatingExport false =
        (.ok { total := 4, skipped := 1, imported := 3 }, p) ∧
      p.store = after ∧ d.Overlays sampleStore after ∧
      importExport sampleStore repeatingExport true =
        (.ok { total := 4, skipped := 1, imported := 3 }, q) ∧ q.store = sampleStore := by
  intro post file after
  have hrun : importExport sampleStore repeatingExport false =
      (.ok { total := 4, skipped := 1, imported := 3 },
        { store := after
          stats := { total := 4, skipped := 1, imported := 3 }
          logs := [⟨.info, .imports, "import skipped malformed records count=1".toList⟩] }) := by
    delta repeatingExport
    rw [String.toList_append, String.toList_append, String.toList_append]
    -- Long texts are slow to evaluate, their letters are not.
    repeat rw [String.toList_ofList]
    decide +kernel
  obtain ⟨d, hd, -, hoverlays, -, -, -, hdry⟩ := importExport_overlays hrun
  obtain ⟨q, hq, hstore⟩ := hdry sampleStore
  exact ⟨d, _, q, hd, hrun, rfl, hoverlays, hq, hstore⟩

end ChannelSearch
