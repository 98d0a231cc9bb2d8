import ChannelSearch.Proofs.ImportSteps

/-!
What a completed import of an export leaves. Main statement: it completes with these counts and this
store exactly when every record can be read and stored: rows are put one after the other, and of
users only those whose name no other user holds then.
-/

namespace ChannelSearch

open Import (each Does)

/-- The records that are put, one after the other: those whose name no other user holds then. -/
def acceptedUsers (users : List User) : List UserRecord → List UserRecord
  | [] => []
  | r :: rs =>
    if NameHeld users r.user then acceptedUsers users rs
    else r :: acceptedUsers (putRow User.id r.user users) rs

theorem acceptedUsers_of_held {users : List User} {r : UserRecord} (h : NameHeld users r.user)
    (rs : List UserRecord) : acceptedUsers users (r :: rs) = acceptedUsers users rs := if_pos h

theorem acceptedUsers_of_free {users : List User} {r : UserRecord} (h : ¬ NameHeld users r.user)
    (rs : List UserRecord) :
    acceptedUsers users (r :: rs) = r :: acceptedUsers (putRow User.id r.user users) rs := if_neg h

theorem acceptedUsers_sublist (users : List User) (rs : List UserRecord) :
    (acceptedUsers users rs).Sublist rs := by
  induction rs generalizing users with
  | nil => exact .slnil
  | cons r rs ih =>
    unfold acceptedUsers
    split_ifs
    · exact (ih users).cons r
    · exact (ih _).cons_cons r

namespace Store

variable (s : Store)

def withTeams (ts : List Team) : Store := { s with teams := putRows Team.id ts s.teams }

/-- Users are put, and join their teams. -/
def withUsers (rs : List UserRecord) : Store :=
  { s with
    users := putRows User.id (rs.map (·.user)) s.users
    teamMembers := addRows (rs.flatMap (·.memberships)) s.teamMembers }

def withChannels (cs : List ChannelRecord) : Store :=
  { s with
    channels := putRows Channel.id (cs.map (·.channel)) s.channels
    channelMembers := addRows (cs.flatMap (·.members)) s.channelMembers }

def withPosts (ps : List (Option Post)) : Store :=
  { s with posts := putRows Post.id (ps.filterMap id) s.posts }

def withFiles (fs : List (Option FileInfo)) : Store :=
  { s with files := putRows FileInfo.id ((fs.filterMap id).map FileInfo.stored) s.files }

end Store

/-- What the records of users leave. -/
def afterUsers (s : Store × ImportStats) (rs : List UserRecord) : Store × ImportStats :=
  (s.1.withUsers (acceptedUsers s.1.users rs), { s.2 with
    skippedUsers := s.2.skippedUsers + (rs.length - (acceptedUsers s.1.users rs).length) })

theorem afterUsers_cons (s : Store × ImportStats) (r : UserRecord) (rs : List UserRecord) :
    afterUsers s (r :: rs) = afterUsers (afterUser s r) rs := by
  by_cases hheld : NameHeld s.1.users r.user
  · have hle := (acceptedUsers_sublist s.1.users rs).length_le
    have hcount : s.2.skippedUsers + ((r :: rs).length - (acceptedUsers s.1.users rs).length) =
        s.2.skippedUsers + 1 + (rs.length - (acceptedUsers s.1.users rs).length) := by
      rw [List.length_cons]
      omega
    rw [afterUsers, acceptedUsers_of_held hheld, hcount, afterUser, if_pos hheld]
    rfl
  · rw [afterUsers, acceptedUsers_of_free hheld, List.length_cons, List.length_cons,
      Nat.add_sub_add_right, afterUser, if_neg hheld]
    unfold afterUsers Store.withUsers
    rw [List.map_cons, putRows_cons, List.flatMap_cons, addRows_append]

theorem forall_acceptedUsers_cons {P : UserRecord → Prop} {s : Store × ImportStats} {r : UserRecord}
    {rs : List UserRecord} :
    (∀ r' ∈ acceptedUsers s.1.users (r :: rs), P r') ↔
      (¬ NameHeld s.1.users r.user → P r) ∧ ∀ r' ∈ acceptedUsers (afterUser s r).1.users rs, P r' := by
  by_cases hheld : NameHeld s.1.users r.user
  · rw [acceptedUsers_of_held hheld, afterUser, if_pos hheld]
    exact ⟨fun h => ⟨absurd hheld, h⟩, fun h => h.2⟩
  · rw [acceptedUsers_of_free hheld, List.forall_mem_cons, afterUser, if_neg hheld]
    exact and_congr_left' ⟨fun h _ => h, fun h => h hheld⟩

/-- The counts after records of which some are kept. -/
def ImportStats.afterRecords {ρ : Type} (n : ImportStats) (rs : List (Option ρ)) : ImportStats :=
  { n with
    skipped := n.skipped + rs.countP Option.isNone
    imported := n.imported + (rs.filterMap id).length }

theorem foldl_keepRecord {ρ : Type} (put : Store → ρ → Store) (rs : List (Option ρ))
    (s : Store × ImportStats) :
    rs.foldl (keepRecord put) s = ((rs.filterMap id).foldl put s.1, s.2.afterRecords rs) := by
  induction rs generalizing s with
  | nil => rfl
  | cons r rs ih =>
    rw [List.foldl_cons, ih]
    unfold ImportStats.afterRecords
    cases r with
    | none =>
      simp only [keepRecord, List.filterMap_cons, id, List.countP_cons, Option.isNone_none, if_true]
      rw [Nat.add_right_comm, Nat.add_assoc]
    | some row =>
      simp only [keepRecord, List.filterMap_cons, id, List.countP_cons, Option.isNone_some,
        Bool.false_eq_true, if_false, List.foldl_cons, List.length_cons, Nat.add_zero]
      rw [Nat.add_right_comm, Nat.add_assoc]

namespace Import

theorem does_teams (vs : List Json) :
    (each team vs).Does fun s _ t => ∃ ts, vs.mapM Record.team = .ok ts ∧
      t = (s.1.withTeams ts, s.2) := by
  refine (does_each does_team vs).congr fun s _ t => exists_congr fun ts => ?_
  have hteams : ts.foldl (fun s r => ({ s.1 with teams := putRow Team.id r s.1.teams }, s.2)) s =
      (s.1.withTeams ts, s.2) :=
    List.foldl_hom (fun rows => ({ s.1 with teams := rows }, s.2)) fun _ _ => rfl
  rw [hteams]

theorem does_channels (vs : List Json) :
    (each channel vs).Does fun s _ t => ∃ cs, vs.mapM Record.channelRecord = .ok cs ∧
      t = (s.1.withChannels cs, s.2) := by
  refine (does_each does_channel vs).congr fun s _ t => exists_congr fun cs => ?_
  have hchannels : cs.foldl (fun s r =>
      ({ s.1 with
        channels := putRow Channel.id r.channel s.1.channels
        channelMembers := addRows r.members s.1.channelMembers }, s.2)) s =
      (s.1.withChannels cs, s.2) := by
    induction cs generalizing s with
    | nil => rfl
    | cons c cs ih =>
      rw [List.foldl_cons, ih]
      unfold Store.withChannels
      rw [List.map_cons, putRows_cons, List.flatMap_cons, addRows_append]
  rw [hchannels]

/-- Each user is put or skipped by the names that are held when its turn comes. -/
theorem does_users (vs : List Json) :
    (each user vs).Does fun s _ t => ∃ rs, vs.mapM Record.userRecord = .ok rs ∧
      (∀ r ∈ acceptedUsers s.1.users rs, ∃ ms, r.teams = .ok ms) ∧ t = afterUsers s rs := by
  -- Which teams must be listed depends on what the users before leave, so `does_each` does not apply.
  induction vs with
  | nil =>
    refine (does_pure ()).congr fun s _ t => ?_
    constructor
    · rintro ⟨-, rfl⟩
      exact ⟨[], rfl, nofun, rfl⟩
    · rintro ⟨rs, hrs, -, rfl⟩
      obtain rfl := Except.ok.inj hrs
      exact ⟨rfl, rfl⟩
  | cons v vs ih =>
    rw [each_cons]
    refine ((does_user v).bind fun _ => ih).congr fun s _ t => ?_
    constructor
    · rintro ⟨-, _, ⟨r, hr, hteam, rfl⟩, rs, hrs, hteams, rfl⟩
      exact ⟨r :: rs, mapM_cons_eq_ok.mpr ⟨r, rs, hr, hrs, rfl⟩,
        forall_acceptedUsers_cons.mpr ⟨hteam, hteams⟩, (afterUsers_cons s r rs).symm⟩
    · rintro ⟨_, hall, hteams, rfl⟩
      obtain ⟨r, rs, hr, hrs, rfl⟩ := mapM_cons_eq_ok.mp hall
      obtain ⟨hteam, hteams⟩ := forall_acceptedUsers_cons.mp hteams
      exact ⟨(), _, ⟨r, hr, hteam, rfl⟩, rs, hrs, hteams, afterUsers_cons s r rs⟩

theorem does_posts (vs : List Json) :
    (each (post false) vs).Does fun s _ t =>
      ∃ ps, vs.mapM Record.keptPost? = .ok ps ∧
        t = (s.1.withPosts ps, s.2.afterRecords ps) := by
  refine (does_each (does_keep runFrom_post) vs).congr fun s _ t => ?_
  simp only [foldl_keepRecord, Store.foldl_withPost]
  rfl

theorem does_files (vs : List Json) :
    (each (file false) vs).Does fun s _ t =>
      ∃ fs, vs.mapM Record.keptFile? = .ok fs ∧
        t = (s.1.withFiles fs, s.2.afterRecords fs) := by
  refine (does_each (does_keep runFrom_file) vs).congr fun s _ t => ?_
  simp only [foldl_keepRecord, Store.foldl_withFile]
  rfl

end Import

/-- The list under a key, read value by value. -/
def Record.listed {ρ : Type} (data : Json) (key : String) (reads : Json → Except ImportError ρ) :
    Except ImportError (List ρ) :=
  listOf data key >>= List.mapM reads

/-- What the teams, users and channels of an export are read as. -/
structure ExportPeople where
  teams : List Team
  users : List UserRecord
  channels : List ChannelRecord
deriving DecidableEq

/-- What the lists of an export are read as. -/
structure ExportContents extends ExportPeople where
  posts : List (Option Post)
  files : List (Option FileInfo)
deriving DecidableEq

namespace Json

def people (data : Json) : Except ImportError ExportPeople := do
  let teams ← Record.listed data "teams" Record.team
  let users ← Record.listed data "users" Record.userRecord
  let channels ← Record.listed data "channels" Record.channelRecord
  pure { teams, users, channels }

def contents (data : Json) : Except ImportError ExportContents := do
  let people ← data.people
  let posts ← Record.listed data "posts" Record.keptPost?
  let files ← Record.listed data "files" Record.keptFile?
  pure { people with posts, files }

theorem people_eq_ok {data : Json} {c : ExportPeople} :
    data.people = .ok c ↔
      Record.listed data "teams" Record.team = .ok c.teams ∧
        Record.listed data "users" Record.userRecord = .ok c.users ∧
          Record.listed data "channels" Record.channelRecord = .ok c.channels := by
  unfold people
  simp only [bind_eq_ok]
  constructor
  · rintro ⟨teams, hteams, users, husers, channels, hchannels, hc⟩
    obtain rfl := Except.ok.inj hc
    exact ⟨hteams, husers, hchannels⟩
  · rintro ⟨hteams, husers, hchannels⟩
    exact ⟨_, hteams, _, husers, _, hchannels, rfl⟩

theorem contents_eq_ok {data : Json} {c : ExportContents} :
    data.contents = .ok c ↔
      data.people = .ok c.toExportPeople ∧
        Record.listed data "posts" Record.keptPost? = .ok c.posts ∧
          Record.listed data "files" Record.keptFile? = .ok c.files := by
  unfold contents
  simp only [bind_eq_ok]
  constructor
  · rintro ⟨people, hpeople, posts, hposts, files, hfiles, hc⟩
    obtain rfl := Except.ok.inj hc
    exact ⟨hpeople, hposts, hfiles⟩
  · rintro ⟨hpeople, hposts, hfiles⟩
    exact ⟨_, hpeople, _, hposts, _, hfiles, rfl⟩

end Json

/-- The teams of the users that are put can be listed. -/
def ExportPeople.TeamsListed (c : ExportPeople) (users : List User) : Prop :=
  ∀ r ∈ acceptedUsers users c.users, ∃ ms, r.teams = .ok ms

/-- The number of users whose name another one holds when their turn comes. -/
def ExportPeople.skippedUsers (c : ExportPeople) (users : List User) : Nat :=
  c.users.length - (acceptedUsers users c.users).length

/-- The counts of an import of the contents over stored users. -/
def ExportContents.stats (c : ExportContents) (users : List User) : ImportStats :=
  { total := c.posts.length + c.files.length
    skipped := c.posts.countP Option.isNone + c.files.countP Option.isNone
    imported := (c.posts.filterMap id).length + (c.files.filterMap id).length
    skippedUsers := c.skippedUsers users }

namespace Store

/-- The store after teams, users and channels. -/
def withPeople (s : Store) (c : ExportPeople) : Store :=
  ((s.withTeams c.teams).withUsers (acceptedUsers s.users c.users)).withChannels c.channels

def withContents (s : Store) (c : ExportContents) : Store :=
  ((s.withPeople c.toExportPeople).withPosts c.posts).withFiles c.files

end Store

namespace Import

/-- The teams, users and channels of an export. -/
def people (data : Json) : Import Unit := do
  each team (← read (Record.listOf data "teams"))
  each user (← read (Record.listOf data "users"))
  each channel (← read (Record.listOf data "channels"))

/-- A dry run leaves them out. -/
def peopleUnless (dryRun : Bool) (data : Json) : Import Unit :=
  if dryRun then pure () else people data

/-- The counts at the end, and a line of the log if anything was skipped. -/
def report : Import ImportStats := do
  let stats := (← get).stats
  if 0 < stats.skipped then
    log .info ("import skipped malformed records count=".toList ++ Text.ofNat stats.skipped)
  pure stats

theorem document_eq (data : Json) (dryRun : Bool) :
    document data dryRun = (do
      let posts ← read (Record.getOr data "posts" (.array []))
      let files ← read (Record.getOr data "files" (.array []))
      let n ← read (Record.count posts)
      let m ← read (Record.count files)
      count fun s => { s with total := n + m }
      peopleUnless dryRun data
      each (post dryRun) (← read (Record.elements posts))
      each (file dryRun) (← read (Record.elements files))
      report) := by
  cases dryRun with
  | true =>
    simp only [document, peopleUnless, report, each, bind_assoc, pure_bind, if_true]
  | false =>
    simp only [document, peopleUnless, people, report, each, bind_assoc, pure_bind, Bool.false_eq_true,
      if_false]

theorem does_report : report.Does fun s stats t => stats = s.2 ∧ t = s := by
  intro p stats t
  show (∃ p', (if 0 < p.stats.skipped then log .info _ >>= fun _ => pure p.stats
    else pure p.stats : Import ImportStats).runFrom p = (.ok stats, p') ∧ p'.kept = t) ↔ _
  split_ifs
  · refine (((does_log _ _).bind fun _ => does_pure p.stats) p stats t).trans ?_
    constructor
    · rintro ⟨-, _, rfl, rfl, rfl⟩
      exact ⟨rfl, rfl⟩
    · rintro ⟨rfl, rfl⟩
      exact ⟨(), _, rfl, rfl, rfl⟩
  · exact does_pure p.stats p stats t

/-- The steps for the list under a key. -/
theorem does_list {ρ : Type} {data : Json} {key : String} {f : Json → Import Unit}
    {reads : Json → Except ImportError ρ}
    {Q : List ρ → Store × ImportStats → Store × ImportStats → Prop}
    (h : ∀ vs, (each f vs).Does fun s _ t => ∃ rs, vs.mapM reads = .ok rs ∧ Q rs s t) :
    (read (Record.listOf data key) >>= each f).Does fun s _ t =>
      ∃ rs, Record.listed data key reads = .ok rs ∧ Q rs s t := by
  refine (does_read_bind _ h).congr fun s _ t => ?_
  constructor
  · rintro ⟨vs, hvs, rs, hrs, hQ⟩
    exact ⟨rs, bind_eq_ok.mpr ⟨vs, hvs, hrs⟩, hQ⟩
  · rintro ⟨rs, hlist, hQ⟩
    obtain ⟨vs, hvs, hrs⟩ := bind_eq_ok.mp hlist
    exact ⟨vs, hvs, rs, hrs, hQ⟩

theorem people_eq (data : Json) :
    people data = (read (Record.listOf data "teams") >>= each team) >>= fun _ =>
      (read (Record.listOf data "users") >>= each user) >>= fun _ =>
        read (Record.listOf data "channels") >>= each channel := by
  simp only [people, bind_assoc]

theorem does_people (data : Json) :
    (people data).Does fun s _ t => ∃ c, data.people = .ok c ∧ c.TeamsListed s.1.users ∧
      t = (s.1.withPeople c,
        { s.2 with skippedUsers := s.2.skippedUsers + c.skippedUsers s.1.users }) := by
  rw [people_eq]
  refine ((does_list does_teams).bind fun _ => (does_list does_users).bind fun _ =>
    does_list does_channels).congr fun s _ t => ?_
  constructor
  · rintro ⟨-, _, ⟨ts, hts, rfl⟩, -, _, ⟨rs, hrs, hteams, rfl⟩, cs, hcs, rfl⟩
    exact ⟨⟨ts, rs, cs⟩, Json.people_eq_ok.mpr ⟨hts, hrs, hcs⟩, hteams, rfl⟩
  · rintro ⟨c, hc, hteams, rfl⟩
    obtain ⟨hts, hrs, hcs⟩ := Json.people_eq_ok.mp hc
    exact ⟨(), _, ⟨c.teams, hts, rfl⟩, (), _, ⟨c.users, hrs, hteams, rfl⟩, c.channels, hcs, rfl⟩

/-- A collection has as many members as it lists. -/
theorem count_of_elements {v : Json} {vs : List Json} (h : Record.elements v = .ok vs) :
    Record.count v = .ok vs.length := by
  have h := mapError_eq_ok.mp h
  cases v with
  | array items =>
    obtain rfl := Except.ok.inj h
    rfl
  | object fields =>
    obtain rfl := Except.ok.inj h
    rw [List.length_map]
    rfl
  | text t =>
    obtain rfl := Except.ok.inj h
    rw [List.length_map]
    rfl
  | _ => cases h

/-- An import completes exactly when the export can be read and the teams of the users that are put
can be listed; it leaves what the contents say. -/
theorem document_completes (s : Store) (data : Json) (stats : ImportStats) (s' : Store) :
    (∃ p, (document data false).runFrom { store := s } = (.ok stats, p) ∧ p.store = s') ↔
      ∃ c, data.contents = .ok c ∧ c.TeamsListed s.users ∧ stats = c.stats s.users ∧
        s' = s.withContents c := by
  have hdocument := does_read_bind (Record.getOr data "posts" (.array [])) fun posts =>
    does_read_bind (Record.getOr data "files" (.array [])) fun files =>
      does_read_bind (Record.count posts) fun n => does_read_bind (Record.count files) fun m =>
        (does_count fun s => { s with total := n + m }).bind fun _ => (does_people data).bind fun _ =>
          does_read_bind (Record.elements posts) fun vs => (does_posts vs).bind fun _ =>
            does_read_bind (Record.elements files) fun ws => (does_files ws).bind fun _ => does_report
  have hstats (c : ExportContents) : (ImportStats.afterRecords
      { total := c.posts.length + c.files.length, skippedUsers := 0 + c.skippedUsers s.users }
        c.posts).afterRecords c.files = c.stats s.users := by
    simp [ImportStats.afterRecords, ExportContents.stats]
  rw [document_eq]
  simp only [peopleUnless, Bool.false_eq_true, if_false]
  constructor
  · rintro ⟨p, hrun, rfl⟩
    obtain ⟨posts, hposts, files, hfiles, n, hn, m, hm, -, _, rfl, -, _,
      ⟨people, hpeople, hteams, rfl⟩, vs, hvs, -, _, ⟨ps, hps, rfl⟩, ws, hws, -, _, ⟨fs, hfs, rfl⟩,
        hreport, hkept⟩ := (hdocument { store := s } stats p.kept).mp ⟨p, hrun, rfl⟩
    have hcontents : data.contents = .ok { people with posts := ps, files := fs } :=
      Json.contents_eq_ok.mpr ⟨hpeople,
        bind_eq_ok.mpr ⟨vs, bind_eq_ok.mpr ⟨posts, hposts, hvs⟩, hps⟩,
        bind_eq_ok.mpr ⟨ws, bind_eq_ok.mpr ⟨files, hfiles, hws⟩, hfs⟩⟩
    refine ⟨_, hcontents, hteams, ?_, congrArg Prod.fst hkept⟩
    obtain rfl := Except.ok.inj ((count_of_elements hvs).symm.trans hn)
    obtain rfl := Except.ok.inj ((count_of_elements hws).symm.trans hm)
    rw [hreport, ← hstats, length_of_mapM hps, length_of_mapM hfs]
    rfl
  · rintro ⟨c, hc, hteams, rfl, rfl⟩
    obtain ⟨hpeople, hposts, hfiles⟩ := Json.contents_eq_ok.mp hc
    obtain ⟨vs, hlist, hps⟩ := bind_eq_ok.mp hposts
    obtain ⟨posts, hposts, hvs⟩ := bind_eq_ok.mp hlist
    obtain ⟨ws, hlist, hfs⟩ := bind_eq_ok.mp hfiles
    obtain ⟨files, hfiles, hws⟩ := bind_eq_ok.mp hlist
    obtain ⟨p, hrun, hkept⟩ := (hdocument { store := s } (c.stats s.users) _).mpr
      ⟨posts, hposts, files, hfiles, _, count_of_elements hvs, _, count_of_elements hws, (), _, rfl,
        (), _, ⟨_, hpeople, hteams, rfl⟩, vs, hvs, (), _, ⟨_, hps, rfl⟩, ws, hws, (), _,
          ⟨_, hfs, rfl⟩, by rw [← hstats, length_of_mapM hps, length_of_mapM hfs]; rfl, rfl⟩
    exact ⟨p, hrun, congrArg Prod.fst hkept⟩

end Import

end ChannelSearch
