import ChannelSearch.Proofs.ImportedContents
import ChannelSearch.Proofs.VisibleChannels

/-!
What an import makes of the records of posts and files. Main statement: a record that lacks a required
field is skipped and any other one is kept, up to the first whose times are no integers that fit the
store. That one stops the import.
-/

namespace ChannelSearch

open Import (each)

namespace Json

def isObject : Json → Bool
  | .object _ => true
  | _ => false

def isNull : Json → Bool
  | .null => true
  | _ => false

/-- A value is an object with a key. -/
def has (v : Json) (key : String) : Bool :=
  match v with
  | .object fields => (field? fields key.toList).isSome
  | _ => false

/-- What an object has under a key, or a default. -/
def memberOr (v : Json) (key : String) (default : Json) : Json :=
  (Record.getOr v key default).toOption.getD default

/-- The list that an object has under a key; without the key, it is empty. -/
def list? (v : Json) (key : String) : Option (List Json) :=
  match Record.getOr v key (.array []) with
  | .ok (.array vs) => some vs
  | _ => none

/-- A value is read as an integer that fits the store. -/
def isTime (v : Json) : Bool := v.toInteger.toOption.any fitsStore

theorem getOr_of_isObject {v : Json} (h : v.isObject = true) (key : String) (default : Json) :
    Record.getOr v key default = .ok (v.memberOr key default) := by
  cases v with
  | object fields => rfl
  | _ => cases h

theorem textOr_of_isObject {v : Json} (h : v.isObject = true) (key : String) (default : Text) :
    Record.textOr v key default = .ok (v.memberOr key (.text default)).shown := by
  unfold Record.textOr
  rw [getOr_of_isObject h]
  rfl

theorem isObject_of_has {v : Json} {key : String} (h : v.has key = true) : v.isObject = true := by
  cases v with
  | object fields => rfl
  | _ => cases h

theorem require_of_has {v : Json} {key : String} (h : v.has key = true) :
    ∃ value, Record.require v key = .ok value := by
  cases v with
  | object fields =>
    obtain ⟨value, hvalue⟩ := Option.isSome_iff_exists.mp h
    refine ⟨value, ?_⟩
    unfold Record.require
    dsimp only
    rw [hvalue]
  | _ => cases h

theorem list?_eq_some {v : Json} {key : String} {vs : List Json} :
    v.list? key = some vs ↔ Record.getOr v key (.array []) = .ok (.array vs) := by
  unfold list?
  split
  · next ws hws => rw [hws, Option.some.injEq, Except.ok.injEq, Json.array.injEq]
  · next hother => exact iff_of_false nofun fun h => hother vs h

theorem listOf_of_list? {v : Json} {key : String} {vs : List Json} (h : v.list? key = some vs) :
    Record.listOf v key = .ok vs := by
  unfold Record.listOf
  rw [list?_eq_some.mp h]
  rfl

theorem isTime_iff {v : Json} :
    v.isTime = true ↔ ∃ n, Record.integer v = .ok n ∧ fitsStore n = true := by
  unfold isTime Record.integer
  cases v.toInteger with
  | ok n => simp [Except.mapError, Except.toOption]
  | error e => simp [Except.mapError, Except.toOption]

end Json

namespace Record

/-- The fields that a post must have besides its time. -/
def postFields : List String := ["id", "channel_id", "user_id"]

def fileFields : List String := ["id", "channel_id", "creator_id", "name"]

/-- A record has its required fields. -/
def isComplete (required : List String) (v : Json) : Bool :=
  required.all (fun key => (v.memberOr key .null).isTruthy) && !(v.memberOr "create_at" .null).isNull

/-- The times of a record can be stored. -/
def isTimed (v : Json) : Bool :=
  (v.memberOr "create_at" .null).isTime && (v.memberOr "delete_at" (.int 0)).isTime

/-- A record with its required fields that cannot be stored. -/
def Stops (required : List String) (v : Json) : Prop :=
  isComplete required v = true ∧ isTimed v = false

instance (required : List String) (v : Json) : Decidable (Stops required v) :=
  inferInstanceAs (Decidable (_ ∧ _))

/-- When a record was created and when it was deleted. -/
def times (v : Json) : Except ImportError (Int × Int) := do
  let createAt ← integer (v.memberOr "create_at" .null)
  let deleteAt ← integer (v.memberOr "delete_at" (.int 0))
  fit [createAt, deleteAt]
  pure (createAt, deleteAt)

/-- The row of a post, given its times. -/
def postRow (v : Json) (t : Int × Int) : Post :=
  { id := (v.memberOr "id" .null).shown
    channelId := (v.memberOr "channel_id" .null).shown
    userId := (v.memberOr "user_id" .null).shown
    rootId := (v.memberOr "root_id" (.text [])).shown
    message := (v.memberOr "message" (.text [])).shown
    kind := (v.memberOr "type" (.text [])).shown
    createAt := t.1
    deleteAt := t.2 }

def fileRow (v : Json) (t : Int × Int) : FileInfo :=
  { id := (v.memberOr "id" .null).shown
    postId := (v.memberOr "post_id" (.text [])).shown
    channelId := (v.memberOr "channel_id" .null).shown
    creatorId := (v.memberOr "creator_id" .null).shown
    name := (v.memberOr "name" .null).shown
    extension := (v.memberOr "extension" (.text [])).shown
    content := (v.memberOr "content" (.text [])).shown
    createAt := t.1
    deleteAt := t.2 }

theorem times_eq_ok {v : Json} {t : Int × Int} :
    times v = .ok t ↔ integer (v.memberOr "create_at" .null) = .ok t.1 ∧
      integer (v.memberOr "delete_at" (.int 0)) = .ok t.2 ∧ fitsStore t.1 = true ∧ fitsStore t.2 = true := by
  have hfit (n m : Int) : fit [n, m] = .ok () ↔ fitsStore n = true ∧ fitsStore m = true := by
    refine mapError_eq_ok.trans (Store.requireFit_eq_ok.trans ?_)
    simp
  unfold times
  simp only [bind_eq_ok]
  constructor
  · rintro ⟨createAt, hcreate, deleteAt, hdelete, _, hfits, ht⟩
    obtain rfl := Except.ok.inj ht
    exact ⟨hcreate, hdelete, (hfit _ _).mp hfits⟩
  · rintro ⟨hcreate, hdelete, hfits⟩
    exact ⟨t.1, hcreate, t.2, hdelete, (), (hfit _ _).mpr hfits, rfl⟩

/-- The times are read exactly where they can be stored. -/
theorem exists_times {v : Json} : (∃ t, times v = .ok t) ↔ isTimed v = true := by
  simp only [isTimed, Bool.and_eq_true, Json.isTime_iff, times_eq_ok]
  constructor
  · rintro ⟨t, hcreate, hdelete, hfit, hfit'⟩
    exact ⟨⟨t.1, hcreate, hfit⟩, t.2, hdelete, hfit'⟩
  · rintro ⟨⟨n, hcreate, hfit⟩, m, hdelete, hfit'⟩
    exact ⟨(n, m), hcreate, hdelete, hfit, hfit'⟩

theorem key_of_createAt {κ : Type} (createAt : Json) (given : Bool) (key : κ) :
    (match createAt with
      | .null => pure none
      | _ => if given then pure (some key) else pure none : Except ImportError (Option κ)) =
      .ok (if given && !createAt.isNull then some key else none) := by
  cases createAt <;> cases given <;> rfl

/-- The row of a record is made of its times and of texts that are always read. -/
theorem row_of_times {ρ : Type} (v : Json) (row : Int × Int → ρ) (stamps : ρ → List Int)
    (h : ∀ t, stamps (row t) = [t.1, t.2]) :
    (do
      let createAt ← integer (v.memberOr "create_at" .null)
      let deleteAt ← integer (v.memberOr "delete_at" (.int 0))
      let r ← pure (row (createAt, deleteAt))
      fit (stamps r)
      pure (some r)) = (times v).map fun t => some (row t) := by
  unfold times
  cases integer (v.memberOr "create_at" .null) with
  | error e => rfl
  | ok createAt =>
    cases integer (v.memberOr "delete_at" (.int 0)) with
    | error e => rfl
    | ok deleteAt =>
      simp only [ok_bind, pure_bind, h]
      cases fit [createAt, deleteAt] <;> rfl

/-- Objects of a kind are kept by their required fields and their times. -/
def Keeps {ρ : Type} (required : List String) (row : Json → Int × Int → ρ)
    (kept? : Json → Except ImportError (Option ρ)) : Prop :=
  ∀ v : Json, v.isObject = true →
    kept? v = if isComplete required v then (times v).map fun t => some (row v t) else .ok none

theorem postKey?_eq {v : Json} (h : v.isObject = true) :
    postKey? v = .ok (if isComplete postFields v then
      some (v.memberOr "id" .null, v.memberOr "channel_id" .null, v.memberOr "user_id" .null,
        v.memberOr "create_at" .null) else none) := by
  unfold postKey? get
  simp only [Json.getOr_of_isObject h, ok_bind]
  refine (key_of_createAt _ _ _).trans ?_
  simp [isComplete, postFields, and_assoc]

theorem keeps_posts : Keeps postFields postRow keptPost? := by
  intro v h
  unfold keptPost? kept?
  rw [postKey?_eq h, ok_bind]
  split_ifs
  · rw [← row_of_times v (postRow v) (fun p => [p.createAt, p.deleteAt]) fun _ => rfl]
    unfold post integerOr
    simp only [Json.getOr_of_isObject h, Json.textOr_of_isObject h, ok_bind, bind_assoc]
    rfl
  · rfl

theorem fileKey?_eq {v : Json} (h : v.isObject = true) :
    fileKey? v = .ok (if isComplete fileFields v then
      some (v.memberOr "id" .null, v.memberOr "channel_id" .null, v.memberOr "creator_id" .null,
        v.memberOr "name" .null, v.memberOr "create_at" .null) else none) := by
  unfold fileKey? get
  simp only [Json.getOr_of_isObject h, ok_bind]
  refine (key_of_createAt _ _ _).trans ?_
  simp [isComplete, fileFields, and_assoc]

theorem keeps_files : Keeps fileFields fileRow keptFile? := by
  intro v h
  unfold keptFile? kept?
  rw [fileKey?_eq h, ok_bind]
  split_ifs
  · rw [← row_of_times v (fileRow v) (fun f => [f.createAt, f.deleteAt]) fun _ => rfl]
    unfold file integerOr
    simp only [Json.getOr_of_isObject h, Json.textOr_of_isObject h, ok_bind, bind_assoc]
    rfl
  · rfl

/-- The row that is kept of a record, if it has its fields and its times. -/
def keptRow {ρ : Type} (required : List String) (row : Json → Int × Int → ρ) (v : Json) : Option ρ :=
  if isComplete required v then (times v).toOption.map (row v) else none

section Keeps

variable {ρ : Type} {required : List String} {row : Json → Int × Int → ρ}
  {kept? : Json → Except ImportError (Option ρ)} {v : Json} {vs : List Json}

theorem exists_times_of_not_stops (hcomplete : isComplete required v = true)
    (hstops : ¬ Stops required v) : ∃ t, times v = .ok t := by
  rw [exists_times, ← Bool.not_eq_false]
  exact fun hfalse => hstops ⟨hcomplete, hfalse⟩

theorem Keeps.of_not_stops (h : Keeps required row kept?) (hv : v.isObject = true)
    (hstops : ¬ Stops required v) : kept? v = .ok (keptRow required row v) := by
  rw [h v hv, keptRow]
  split_ifs with hcomplete
  · obtain ⟨t, ht⟩ := exists_times_of_not_stops hcomplete hstops
    rw [ht]
    rfl
  · rfl

theorem Keeps.of_stops (h : Keeps required row kept?) (hv : v.isObject = true)
    (hstops : Stops required v) : ∃ e, times v = .error e ∧ kept? v = .error e := by
  rw [h v hv, if_pos hstops.1]
  cases ht : times v with
  | error e => exact ⟨e, rfl, rfl⟩
  | ok t =>
    have htimed := exists_times.mp ⟨t, ht⟩
    rw [hstops.2] at htimed
    cases htimed

theorem Keeps.mapM (h : Keeps required row kept?) (hvs : ∀ v ∈ vs, v.isObject = true)
    (hstops : ∀ v ∈ vs, ¬ Stops required v) : vs.mapM kept? = .ok (vs.map (keptRow required row)) := by
  induction vs with
  | nil => rfl
  | cons v vs ih =>
    obtain ⟨hv, hvs⟩ := List.forall_mem_cons.mp hvs
    obtain ⟨hstop, hstops⟩ := List.forall_mem_cons.mp hstops
    exact mapM_cons_eq_ok.mpr ⟨_, _, h.of_not_stops hv hstop, ih hvs hstops, rfl⟩

/-- Where no record stops the import, those with their required fields are kept. -/
theorem isSome_keptRow (hstops : ¬ Stops required v) :
    (keptRow required row v).isSome = isComplete required v := by
  unfold keptRow
  split_ifs with hcomplete
  · obtain ⟨t, ht⟩ := exists_times_of_not_stops hcomplete hstops
    rw [ht, hcomplete]
    rfl
  · exact (Bool.not_eq_true _ ▸ hcomplete : isComplete required v = false).symm

/-- Records of which none stops the import count by their required fields. -/
theorem afterRecords_keptRows (hstops : ∀ v ∈ vs, ¬ Stops required v) (n : ImportStats) :
    n.afterRecords (vs.map (keptRow required row)) =
      { n with
        skipped := n.skipped + vs.countP (!isComplete required ·)
        imported := n.imported + vs.countP (isComplete required) } := by
  have hsome : ((vs.map (keptRow required row)).filterMap id).length =
      vs.countP (isComplete required) := by
    rw [List.length_filterMap_eq_countP, List.countP_map]
    refine List.countP_congr fun v hv => ?_
    show (keptRow required row v).isSome = true ↔ _
    rw [isSome_keptRow (hstops v hv)]
  have hnone : (vs.map (keptRow required row)).countP Option.isNone =
      vs.countP (!isComplete required ·) := by
    rw [List.countP_map]
    refine List.countP_congr fun v hv => ?_
    show (keptRow required row v).isNone = true ↔ _
    rw [← Option.not_isSome, isSome_keptRow (hstops v hv)]
  unfold ImportStats.afterRecords
  rw [hsome, hnone]

end Keeps

end Record

/-- The lists of an export, as they are given. -/
structure ExportLists where
  teams : List Json
  users : List Json
  channels : List Json
  posts : List Json
  files : List Json

def Json.lists? (data : Json) : Option ExportLists := do
  let teams ← data.list? "teams"
  let users ← data.list? "users"
  let channels ← data.list? "channels"
  let posts ← data.list? "posts"
  let files ← data.list? "files"
  pure { teams, users, channels, posts, files }

theorem Json.lists?_eq_some {data : Json} {d : ExportLists} :
    data.lists? = some d ↔ data.list? "teams" = some d.teams ∧ data.list? "users" = some d.users ∧
      data.list? "channels" = some d.channels ∧ data.list? "posts" = some d.posts ∧
        data.list? "files" = some d.files := by
  unfold lists?
  simp only [Option.bind_eq_bind, Option.bind_eq_some_iff]
  constructor
  · rintro ⟨_, hteams, _, husers, _, hchannels, _, hposts, _, hfiles, hd⟩
    obtain rfl := Option.some.inj hd
    exact ⟨hteams, husers, hchannels, hposts, hfiles⟩
  · rintro ⟨hteams, husers, hchannels, hposts, hfiles⟩
    exact ⟨_, hteams, _, husers, _, hchannels, _, hposts, _, hfiles, rfl⟩

namespace ExportLists

/-- Teams, users and channels have their required fields, times and members; of posts and files, it is
only asked that they are objects. -/
@[mk_iff wellFormed_iff]
structure WellFormed (d : ExportLists) : Prop where
  teams : ∀ v ∈ d.teams, v.has "id" = true
  users : ∀ v ∈ d.users, v.has "id" = true ∧ v.has "username" = true ∧
    (v.memberOr "delete_at" (.int 0)).isTime = true ∧ (v.list? "teams").isSome = true
  channels : ∀ v ∈ d.channels, v.has "id" = true ∧ v.has "name" = true ∧
    (v.memberOr "delete_at" (.int 0)).isTime = true ∧ (v.list? "members").isSome = true
  posts : ∀ v ∈ d.posts, v.isObject = true
  files : ∀ v ∈ d.files, v.isObject = true

instance (d : ExportLists) : Decidable d.WellFormed := decidable_of_iff' _ (wellFormed_iff d)

end ExportLists

namespace Record

theorem exists_team {v : Json} (hid : v.has "id" = true) : ∃ r, team v = .ok r := by
  obtain ⟨id, hrequire⟩ := Json.require_of_has hid
  refine ⟨{ id := id.shown, name := (v.memberOr "name" id).shown }, ?_⟩
  unfold team
  rw [hrequire, ok_bind, Json.getOr_of_isObject (Json.isObject_of_has hid), ok_bind]
  rfl

theorem exists_userRecord {v : Json} (hid : v.has "id" = true) (hname : v.has "username" = true)
    (htime : (v.memberOr "delete_at" (.int 0)).isTime = true) {ts : List Json}
    (hteams : v.list? "teams" = some ts) : ∃ r, userRecord v = .ok r ∧ ∃ ms, r.teams = .ok ms := by
  obtain ⟨id, hid'⟩ := Json.require_of_has hid
  obtain ⟨name, hname'⟩ := Json.require_of_has hname
  obtain ⟨n, hn, hfit⟩ := Json.isTime_iff.mp htime
  have huser : user v = .ok { id := id.shown, username := name.shown, deleteAt := n } := by
    unfold user integerOr
    rw [hid', ok_bind, hname', ok_bind, Json.getOr_of_isObject (Json.isObject_of_has hid), ok_bind, hn,
      ok_bind]
    rfl
  exact ⟨_, userRecord_eq_ok.mpr ⟨_, huser, hfit, rfl⟩, _,
    map_eq_ok.mpr ⟨ts, Json.listOf_of_list? hteams, rfl⟩⟩

theorem exists_channelRecord {v : Json} (hid : v.has "id" = true) (hname : v.has "name" = true)
    (htime : (v.memberOr "delete_at" (.int 0)).isTime = true) {ms : List Json}
    (hmembers : v.list? "members" = some ms) : ∃ r, channelRecord v = .ok r := by
  obtain ⟨id, hid'⟩ := Json.require_of_has hid
  obtain ⟨name, hname'⟩ := Json.require_of_has hname
  obtain ⟨n, hn, hfit⟩ := Json.isTime_iff.mp htime
  have hobject := Json.isObject_of_has hid
  have hchannel : channel v = .ok
      { id := id.shown, name := name.shown
        teamId := (v.memberOr "team_id" (.text [])).shown
        displayName := (v.memberOr "display_name" (.text [])).shown
        kind := (v.memberOr "type" (.text ['O'])).shown
        deleteAt := n } := by
    unfold channel integerOr
    simp only [hid', hname', Json.getOr_of_isObject hobject, Json.textOr_of_isObject hobject, ok_bind, hn]
    rfl
  exact ⟨_, channelRecord_eq_ok.mpr ⟨_, ms, hchannel, hfit, Json.listOf_of_list? hmembers, rfl⟩⟩

/-- A list is read when each value is, and what is read has what is asked of each. -/
theorem exists_listed {ρ : Type} {data : Json} {key : String} {vs : List Json}
    {reads : Json → Except ImportError ρ} {P : ρ → Prop} (hlist : data.list? key = some vs)
    (h : ∀ v ∈ vs, ∃ r, reads v = .ok r ∧ P r) :
    ∃ rs, listed data key reads = .ok rs ∧ ∀ r ∈ rs, P r := by
  obtain ⟨rs, hrs, hP⟩ := exists_mapM h
  exact ⟨rs, bind_eq_ok.mpr ⟨vs, Json.listOf_of_list? hlist, hrs⟩, hP⟩

end Record

/-- Well-formed teams, users and channels can be read. -/
theorem ExportLists.WellFormed.exists_people {data : Json} {d : ExportLists} (hwell : d.WellFormed)
    (hd : data.lists? = some d) : ∃ c, data.people = .ok c ∧ ∀ users, c.TeamsListed users := by
  obtain ⟨hteams, husers, hchannels, -⟩ := Json.lists?_eq_some.mp hd
  obtain ⟨ts, hts, -⟩ := Record.exists_listed (P := fun _ => True) hteams fun v hv => by
    obtain ⟨r, hr⟩ := Record.exists_team (hwell.teams v hv)
    exact ⟨r, hr, trivial⟩
  obtain ⟨rs, hrs, hlisted⟩ := Record.exists_listed husers fun v hv => by
    obtain ⟨hid, hname, htime, hlist⟩ := hwell.users v hv
    obtain ⟨ts, hts⟩ := Option.isSome_iff_exists.mp hlist
    exact Record.exists_userRecord hid hname htime hts
  obtain ⟨cs, hcs, -⟩ := Record.exists_listed (P := fun _ => True) hchannels fun v hv => by
    obtain ⟨hid, hname, htime, hlist⟩ := hwell.channels v hv
    obtain ⟨ms, hms⟩ := Option.isSome_iff_exists.mp hlist
    obtain ⟨r, hr⟩ := Record.exists_channelRecord hid hname htime hms
    exact ⟨r, hr, trivial⟩
  exact ⟨⟨ts, rs, cs⟩, Json.people_eq_ok.mpr ⟨hts, hrs, hcs⟩, fun users r hr =>
    hlisted r ((acceptedUsers_sublist users rs).subset hr)⟩

namespace Import

/-- An import comes to the posts with teams, users and channels written. -/
theorem runFrom_document {data : Json} {d : ExportLists} (hd : data.lists? = some d) {s : Store}
    {c : ExportPeople} (hc : data.people = .ok c) (hteams : c.TeamsListed s.users) :
    ∃ p, p.kept = (s.withPeople c,
        { total := d.posts.length + d.files.length, skippedUsers := c.skippedUsers s.users }) ∧
      (document data false).runFrom { store := s } =
        (each (post false) d.posts >>= fun _ => each (file false) d.files >>= fun _ =>
          report).runFrom p := by
  obtain ⟨-, -, -, hposts, hfiles⟩ := Json.lists?_eq_some.mp hd
  have hposts : read (Record.getOr data "posts" (.array [])) = pure (.array d.posts) := by
    rw [Json.list?_eq_some.mp hposts]
    rfl
  have hfiles : read (Record.getOr data "files" (.array [])) = pure (.array d.files) := by
    rw [Json.list?_eq_some.mp hfiles]
    rfl
  have hlength (vs : List Json) : read (Record.count (.array vs)) = pure vs.length := rfl
  have helements (vs : List Json) : read (Record.elements (.array vs)) = pure vs := rfl
  obtain ⟨p, hrun, hkept⟩ := (does_people data
    { store := s, stats := { total := d.posts.length + d.files.length } } () _).mpr
      ⟨c, hc, hteams, rfl⟩
  refine ⟨p, hkept.trans ?_, ?_⟩
  · simp [ImportProgress.kept]
  · rw [document_eq]
    simp only [peopleUnless, hposts, hfiles, hlength, helements, pure_bind, Bool.false_eq_true, if_false]
    rw [runFrom_bind_of_ok (runFrom_count _), runFrom_bind_of_ok hrun]

/-- A step that fails ends a loop, and nothing of the rest is done. -/
theorem runFrom_each_stop {f : Json → Import Unit} {before : List Json} {v : Json} {e : ImportError}
    {p q : ImportProgress} (hbefore : (each f before).runFrom p = (.ok (), q))
    (hv : (f v).runFrom q = (.error e, q)) (after : List Json) :
    (each f (before ++ v :: after)).runFrom p = (.error e, q) := by
  rw [each_append, runFrom_bind_of_ok hbefore, each_cons]
  exact runFrom_bind_of_error hv

/-- A record with its fields but without times that can be stored ends the records of its kind. -/
theorem runFrom_each_untimed {ρ : Type} {f : Json → Import Unit} {required : List String}
    {row : Json → Int × Int → ρ} {kept? : Json → Except ImportError (Option ρ)}
    {put : Store → ρ → Store}
    (h : ∀ p v, (f v).runFrom p = ImportProgress.keepOrStop put p (kept? v))
    (hkeeps : Record.Keeps required row kept?) {before : List Json} {v : Json} {p q : ImportProgress}
    (hbefore : (each f before).runFrom p = (.ok (), q)) (hobject : v.isObject = true)
    (hv : Record.Stops required v) (after : List Json) :
    ∃ e, Record.times v = .error e ∧ (each f (before ++ v :: after)).runFrom p = (.error e, q) := by
  obtain ⟨e, htimes, hkept?⟩ := hkeeps.of_stops hobject hv
  have hstep : (f v).runFrom q = (.error e, q) := by
    rw [h, hkept?]
    rfl
  exact ⟨e, htimes, runFrom_each_stop hbefore hstep after⟩

theorem runFrom_report (p : ImportProgress) :
    ∃ q, report.runFrom p = (.ok p.stats, q) ∧ q.store = p.store := by
  obtain ⟨q, hrun, hkept⟩ := (does_report p p.stats p.kept).mpr ⟨rfl, rfl⟩
  exact ⟨q, hrun, congrArg Prod.fst hkept⟩

end Import

/-- The store after teams, users and channels, and the posts and files of which a row is kept. -/
def Store.withRecords (s : Store) (c : ExportPeople) (posts files : List Json) : Store :=
  ((s.withPeople c).withPosts (posts.map (Record.keptRow Record.postFields Record.postRow))).withFiles
    (files.map (Record.keptRow Record.fileFields Record.fileRow))

/-- The lists of the text of an export. -/
def Text.lists? (text : Text) : Option ExportLists :=
  (Json.read text.unifyNewlines).toOption.bind Json.lists?

/-- What the teams, users and channels of the text of an export are read as. -/
def Text.people (text : Text) : Except ImportError ExportPeople :=
  (Json.read text.unifyNewlines).mapError .document >>= Json.people

/-- An export of a user, a post with a time and one without, and a file. -/
def recordsExport (createAt deleteAt : String) : Text :=
  "\x7b\"users\": [\x7b\"id\": \"u3\", \"username\": \"carol\"\x7d], \"posts\": [\x7b\"id\": \"p3\"\x7d, ".toList ++
    "\x7b\"id\": \"p4\", \"channel_id\": \"C1\", \"user_id\": \"u3\", \"create_at\": ".toList ++
    createAt.toList ++ "\x7d], \"files\": [\x7b\"id\": \"f1\", \"channel_id\": \"C1\", ".toList ++
    "\"creator_id\": \"u3\", \"name\": \"a.txt\", \"create_at\": 9, \"delete_at\": ".toList ++
    deleteAt.toList ++ "\x7d]\x7d".toList

end ChannelSearch
