import ChannelSearch.Proofs.ImportRuns
import ChannelSearch.Proofs.StoreWrites

/-!
The steps of an import, one for each kind of record: what a value is read as, and what the step for it
writes and counts.
-/

namespace ChannelSearch

open Import (each Does)

/-- A channel of an export, with its members. -/
structure ChannelRecord where
  channel : Channel
  members : List ChannelMember
deriving DecidableEq

/-- A user of an export, with the teams if they can be listed. -/
structure UserRecord where
  user : User
  teams : Except ImportError (List TeamMember)
deriving DecidableEq

/-- The memberships that a record adds. -/
def UserRecord.memberships (r : UserRecord) : List TeamMember := r.teams.toOption.getD []

/-- What the record of a user leaves: a user whose name another one holds is counted, and any other is
put and joins the teams. -/
def afterUser (s : Store × ImportStats) (r : UserRecord) : Store × ImportStats :=
  if NameHeld s.1.users r.user then (s.1, { s.2 with skippedUsers := s.2.skippedUsers + 1 })
  else
    ({ s.1 with
      users := putRow User.id r.user s.1.users
      teamMembers := addRows r.memberships s.1.teamMembers }, s.2)

namespace Record

/-- Integers that are written must fit the store. -/
def fit (ns : List Int) : Except ImportError Unit := (Store.requireFit ns).mapError .write

/-- A value is read as a channel that can be stored, with its members. -/
def channelRecord (v : Json) : Except ImportError ChannelRecord := do
  let c ← channel v
  fit [c.deleteAt]
  let ms ← listOf v "members"
  pure ⟨c.stored, ms.map fun m => ⟨c.id, m.shown⟩⟩

/-- A value is read as a user that can be stored where the name is free. -/
def userRecord (v : Json) : Except ImportError UserRecord := do
  let u ← user v
  fit [u.deleteAt]
  pure ⟨u.stored, (listOf v "teams").map fun ts => ts.map fun t => ⟨t.shown, u.id⟩⟩

theorem fit_singleton {n : Int} : fit [n] = .ok () ↔ fitsStore n = true :=
  mapError_eq_ok.trans (Store.requireFit_eq_ok.trans List.forall_mem_singleton)

theorem channelRecord_eq_ok {v : Json} {r : ChannelRecord} :
    channelRecord v = .ok r ↔ ∃ c ms, channel v = .ok c ∧ fitsStore c.deleteAt = true ∧
      listOf v "members" = .ok ms ∧ r = ⟨c.stored, ms.map fun m => ⟨c.id, m.shown⟩⟩ := by
  unfold channelRecord
  simp only [bind_eq_ok]
  constructor
  · rintro ⟨c, hc, _, hfit, ms, hms, hr⟩
    exact ⟨c, ms, hc, fit_singleton.mp hfit, hms, (Except.ok.inj hr).symm⟩
  · rintro ⟨c, ms, hc, hfit, hms, rfl⟩
    exact ⟨c, hc, (), fit_singleton.mpr hfit, ms, hms, rfl⟩

theorem userRecord_eq_ok {v : Json} {r : UserRecord} :
    userRecord v = .ok r ↔ ∃ u, user v = .ok u ∧ fitsStore u.deleteAt = true ∧
      r = ⟨u.stored, (listOf v "teams").map fun ts => ts.map fun t => ⟨t.shown, u.id⟩⟩ := by
  unfold userRecord
  simp only [bind_eq_ok]
  constructor
  · rintro ⟨u, hu, _, hfit, hr⟩
    exact ⟨u, hu, fit_singleton.mp hfit, (Except.ok.inj hr).symm⟩
  · rintro ⟨u, hu, hfit, rfl⟩
    exact ⟨u, hu, (), fit_singleton.mpr hfit, rfl⟩

/-- What is kept of a record: nothing where a required field is missing. Its integers must fit the
store. -/
def kept? {κ ρ : Type} (key? : Json → Except ImportError (Option κ))
    (row : Json → κ → Except ImportError ρ) (times : ρ → List Int) (v : Json) :
    Except ImportError (Option ρ) := do
  match ← key? v with
  | none => pure none
  | some key =>
    let r ← row v key
    fit (times r)
    pure (some r)

def keptPost? (v : Json) : Except ImportError (Option Post) :=
  kept? postKey? post (fun p => [p.createAt, p.deleteAt]) v

def keptFile? (v : Json) : Except ImportError (Option FileInfo) :=
  kept? fileKey? file (fun f => [f.createAt, f.deleteAt]) v

end Record

/-- A record that is kept is put and counts as imported, and one that is not as skipped. -/
def keepRecord {ρ : Type} (put : Store → ρ → Store) (s : Store × ImportStats) :
    Option ρ → Store × ImportStats
  | none => (s.1, { s.2 with skipped := s.2.skipped + 1 })
  | some row => (put s.1 row, { s.2 with imported := s.2.imported + 1 })

/-- The progress after a record, with the same log. -/
def ImportProgress.keep {ρ : Type} (put : Store → ρ → Store) (p : ImportProgress) (r : Option ρ) :
    ImportProgress :=
  { p with store := (keepRecord put p.kept r).1, stats := (keepRecord put p.kept r).2 }

/-- How the step for a record ends. One that cannot be kept stops the import, and nothing of it is
written. -/
def ImportProgress.keepOrStop {ρ : Type} (put : Store → ρ → Store) (p : ImportProgress) :
    Except ImportError (Option ρ) → Except ImportError Unit × ImportProgress
  | .ok r => (.ok (), p.keep put r)
  | .error e => (.error e, p)

namespace Import

theorem does_team (v : Json) :
    (team v).Does fun s _ t => ∃ r, Record.team v = .ok r ∧
      t = ({ s.1 with teams := putRow Team.id r s.1.teams }, s.2) := by
  have hfits {r : Team} (h : Record.team v = .ok r) : fitsStore r.deleteAt = true := by
    obtain ⟨id, -, h⟩ := bind_eq_ok.mp h
    obtain ⟨name, -, h⟩ := bind_eq_ok.mp h
    rw [← Except.ok.inj h]
    exact (by decide : fitsStore 0 = true)
  refine (does_read_bind _ fun r => does_write (.team r)).congr fun s _ t => ?_
  refine exists_congr fun r => and_congr_right fun hr => ?_
  show s.1.putTeam r = _ ∧ _ ↔ _
  rw [Store.putTeam_eq_ok, Prod.ext_iff]
  simp [hfits hr]

/-- A channel is put, and its members are added. -/
theorem does_channel (v : Json) :
    (channel v).Does fun s _ t => ∃ r, Record.channelRecord v = .ok r ∧
      t = ({ s.1 with
        channels := putRow Channel.id r.channel s.1.channels
        channelMembers := addRows r.members s.1.channelMembers }, s.2) := by
  have hmembers (c : Channel) (ms : List Json) :
      (each (fun m => write (.channelMember ⟨c.id, m.shown⟩)) ms).Does fun s _ t =>
        t = ({ s.1 with
          channelMembers := addRows (ms.map fun m => ⟨c.id, m.shown⟩) s.1.channelMembers }, s.2) := by
    refine (does_each_row (fun m => ChannelMember.mk c.id m.shown)
      (fun s m => (s.1.addChannelMember m, s.2)) (fun m => ?_) ms).congr fun s _ t => ?_
    · exact does_write_of_ok (g := fun s => s.addChannelMember ⟨c.id, m.shown⟩) fun _ => rfl
    · rw [← Store.foldl_channelMembers]
      rfl
  refine (does_read_bind _ fun c => (does_write (.channel c)).bind fun _ =>
    does_read_bind _ (hmembers c)).congr fun s _ t => ?_
  constructor
  · rintro ⟨c, hc, -, u, ⟨hput, hstats⟩, ms, hms, rfl⟩
    obtain ⟨hfit, hstore⟩ := Store.putChannel_eq_ok.mp hput
    refine ⟨_, Record.channelRecord_eq_ok.mpr ⟨c, ms, hc, hfit, hms, rfl⟩, ?_⟩
    rw [hstore, hstats]
  · rintro ⟨r, hr, rfl⟩
    obtain ⟨c, ms, hc, hfit, hms, rfl⟩ := Record.channelRecord_eq_ok.mp hr
    exact ⟨c, hc, (), (_, s.2), ⟨Store.putChannel_eq_ok.mpr ⟨hfit, rfl⟩, rfl⟩, ms, hms, rfl⟩

/-- A user whose name is taken is logged and counted. -/
def skipUser (v : Json) : Import Unit := do
  let id ← read (Record.require v "id")
  let username ← read (Record.require v "username")
  log .warning ("import skipped user id=".toList ++ id.shown ++ " username=".toList ++
    username.quoted ++ " error=".toList ++ WriteError.message .usernameTaken)
  count fun s => { s with skippedUsers := s.skippedUsers + 1 }

/-- A user is written, and joins the teams. -/
def enterUser (v : Json) (u : User) : Import Unit := do
  write (.user u)
  each (fun t => write (.teamMember ⟨t.shown, u.id⟩)) (← read (Record.listOf v "teams"))

theorem user_eq (v : Json) :
    user v = read (Record.user v) >>= fun u => get >>= fun p =>
      if p.store.putUser u = .error .usernameTaken then skipUser v else enterUser v u := by
  unfold user
  congr
  funext u
  congr
  funext p
  split
  · next htaken => exact (if_pos htaken).symm
  · next hother => exact (if_neg hother).symm

theorem does_skipUser (v : Json) :
    (skipUser v).Does fun s _ t => (∃ id, Record.require v "id" = .ok id) ∧
      (∃ name, Record.require v "username" = .ok name) ∧
        t = (s.1, { s.2 with skippedUsers := s.2.skippedUsers + 1 }) := by
  refine (does_read_bind _ fun id => does_read_bind _ fun name =>
    (does_log _ _).bind fun _ => does_count _).congr fun s _ t => ?_
  constructor
  · rintro ⟨id, hid, name, hname, -, _, rfl, rfl⟩
    exact ⟨⟨id, hid⟩, ⟨name, hname⟩, rfl⟩
  · rintro ⟨⟨id, hid⟩, ⟨name, hname⟩, rfl⟩
    exact ⟨id, hid, name, hname, (), s, rfl, rfl⟩

theorem does_enterUser (v : Json) (u : User) :
    (enterUser v u).Does fun s _ t => ∃ store ts, s.1.putUser u = .ok store ∧
      Record.listOf v "teams" = .ok ts ∧ t = ({ store with
        teamMembers := addRows (ts.map fun m => ⟨m.shown, u.id⟩) store.teamMembers }, s.2) := by
  have hmembers (ts : List Json) :
      (each (fun m => write (.teamMember ⟨m.shown, u.id⟩)) ts).Does fun s _ t =>
        t = ({ s.1 with
          teamMembers := addRows (ts.map fun m => ⟨m.shown, u.id⟩) s.1.teamMembers }, s.2) := by
    refine (does_each_row (fun m => TeamMember.mk m.shown u.id)
      (fun s m => (s.1.addTeamMember m, s.2)) (fun m => ?_) ts).congr fun s _ t => ?_
    · exact does_write_of_ok (g := fun s => s.addTeamMember ⟨m.shown, u.id⟩) fun _ => rfl
    · rw [← Store.foldl_teamMembers]
      rfl
  refine ((does_write (.user u)).bind fun _ => does_read_bind _ hmembers).congr fun s _ t => ?_
  constructor
  · rintro ⟨-, w, ⟨hput, hstats⟩, ts, hts, rfl⟩
    exact ⟨w.1, ts, hput, hts, by rw [hstats]⟩
  · rintro ⟨store, ts, hput, hts, rfl⟩
    exact ⟨(), (store, s.2), ⟨hput, rfl⟩, ts, hts, rfl⟩

/-- The teams of a user are listed only where the user is put. -/
theorem does_user (v : Json) :
    (user v).Does fun s _ t => ∃ r, Record.userRecord v = .ok r ∧
      (¬ NameHeld s.1.users r.user → ∃ ms, r.teams = .ok ms) ∧ t = afterUser s r := by
  rw [user_eq]
  refine (does_read_bind _ fun u => does_get_ite (c := fun s => s.putUser u = .error .usernameTaken)
    (does_skipUser v) (does_enterUser v u)).congr fun s _ t => ?_
  constructor
  · rintro ⟨u, hu, h⟩
    split_ifs at h with htaken
    · obtain ⟨hfit, hheld⟩ := Store.putUser_eq_taken.mp htaken
      refine ⟨_, Record.userRecord_eq_ok.mpr ⟨u, hu, hfit, rfl⟩, absurd hheld, ?_⟩
      rw [afterUser, if_pos hheld]
      exact h.2.2
    · obtain ⟨store, ts, hput, hts, rfl⟩ := h
      obtain ⟨hfit, hfree, rfl⟩ := Store.putUser_eq_ok.mp hput
      refine ⟨_, Record.userRecord_eq_ok.mpr ⟨u, hu, hfit, rfl⟩,
        fun _ => ⟨_, map_eq_ok.mpr ⟨ts, hts, rfl⟩⟩, ?_⟩
      rw [afterUser, if_neg hfree, UserRecord.memberships, hts]
      rfl
  · rintro ⟨r, hr, hteams, rfl⟩
    obtain ⟨u, hu, hfit, rfl⟩ := Record.userRecord_eq_ok.mp hr
    refine ⟨u, hu, ?_⟩
    by_cases hheld : NameHeld s.1.users u.stored
    · obtain ⟨id, hid, hrest⟩ := bind_eq_ok.mp hu
      obtain ⟨name, hname, -⟩ := bind_eq_ok.mp hrest
      rw [if_pos (Store.putUser_eq_taken.mpr ⟨hfit, hheld⟩), afterUser, if_pos hheld]
      exact ⟨⟨id, hid⟩, ⟨name, hname⟩, rfl⟩
    · -- The name is free, so the teams are listed after the user is put.
      obtain ⟨ms, hms⟩ := hteams hheld
      obtain ⟨ts, hts, -⟩ := map_eq_ok.mp hms
      rw [if_neg fun htaken => hheld (Store.putUser_eq_taken.mp htaken).2, afterUser, if_neg hheld,
        UserRecord.memberships, hts]
      exact ⟨_, ts, Store.putUser_eq_ok.mpr ⟨hfit, hheld, rfl⟩, rfl, rfl⟩

section Keep

variable {ρ : Type}

/-- The step for a record of a kind: it is skipped, or written and counted. -/
def keepStep {κ : Type} (key? : Json → Except ImportError (Option κ))
    (row : Json → κ → Except ImportError ρ) (write : ρ → Write) (v : Json) : Import Unit := do
  match ← read (key? v) with
  | none => skip
  | some key =>
    Import.write (write (← read (row v key)))
    imported

theorem runFrom_keepStep {κ : Type} (key? : Json → Except ImportError (Option κ))
    (row : Json → κ → Except ImportError ρ) {write : ρ → Write} {times : ρ → List Int}
    {put : Store → ρ → Store}
    (hwrite : ∀ s r, Store.write s (write r) = Store.requireFit (times r) >>= fun _ => pure (put s r))
    (p : ImportProgress) (v : Json) :
    (keepStep key? row write v).runFrom p = p.keepOrStop put (Record.kept? key? row times v) := by
  unfold keepStep Record.kept? Record.fit
  cases key? v with
  | error e => rfl
  | ok key =>
    cases key with
    | none => rfl
    | some key =>
      simp only [runFrom_bind, runFrom_read, ok_bind]
      cases row v key with
      | error e => rfl
      | ok r =>
        simp only [runFrom_write, hwrite, ok_bind]
        cases Store.requireFit (times r) <;> rfl

theorem kept_keep (put : Store → ρ → Store) (p : ImportProgress) (r : Option ρ) :
    (p.keep put r).kept = keepRecord put p.kept r := by cases r <;> rfl

/-- A step that keeps a record or is stopped by it. -/
theorem does_keep {f : Json → Import Unit} {kept? : Json → Except ImportError (Option ρ)}
    {put : Store → ρ → Store}
    (h : ∀ p v, (f v).runFrom p = ImportProgress.keepOrStop put p (kept? v)) (v : Json) :
    (f v).Does fun s _ t => ∃ r, kept? v = .ok r ∧ t = keepRecord put s r := by
  intro p _ t
  rw [h]
  cases kept? v with
  | error e => simp [ImportProgress.keepOrStop]
  | ok r =>
    constructor
    · rintro ⟨p', hp, rfl⟩
      obtain ⟨-, rfl⟩ := Prod.mk.inj hp
      exact ⟨r, rfl, kept_keep put p r⟩
    · rintro ⟨r', hr, rfl⟩
      obtain rfl := Except.ok.inj hr
      exact ⟨_, rfl, kept_keep put p r⟩

theorem post_eq (v : Json) : post false v = keepStep Record.postKey? Record.post .post v := by
  unfold post keepStep
  congr
  funext key
  cases key <;> rfl

theorem file_eq (v : Json) : file false v = keepStep Record.fileKey? Record.file .file v := by
  unfold file keepStep
  congr
  funext key
  cases key <;> rfl

theorem runFrom_post (p : ImportProgress) (v : Json) :
    (post false v).runFrom p = p.keepOrStop Store.withPost (Record.keptPost? v) := by
  rw [post_eq]
  exact runFrom_keepStep Record.postKey? Record.post Store.write_post p v

theorem runFrom_file (p : ImportProgress) (v : Json) :
    (file false v).runFrom p = p.keepOrStop Store.withFile (Record.keptFile? v) := by
  rw [file_eq]
  exact runFrom_keepStep Record.fileKey? Record.file Store.write_file p v

end Keep

end Import

end ChannelSearch
