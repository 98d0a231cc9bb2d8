import ChannelSearch.Proofs.RowWrites
import ChannelSearch.Proofs.SearchRuns

/-!
When writes are taken, and what they leave: rows in the form in which they are stored. A user is not
put while another user holds the name.
-/

namespace ChannelSearch

/-- A user as stored, with the name in lower case. -/
def User.stored (u : User) : User := { u with username := u.username.lower }

/-- A channel as stored: without a name for display it shows its name. -/
def Channel.stored (c : Channel) : Channel :=
  if c.displayName.isEmpty then { c with displayName := c.name } else c

def FileInfo.stored (f : FileInfo) : FileInfo :=
  { f with extension := Store.storedExtension f.extension f.name }

/-- Another user holds the name of this one. -/
def NameHeld (users : List User) (u : User) : Prop := ∃ v ∈ users, v.id ≠ u.id ∧ v.username = u.username

instance (users : List User) (u : User) : Decidable (NameHeld users u) :=
  inferInstanceAs (Decidable (∃ v ∈ users, _))

namespace Store

variable {s s' : Store}

theorem requireFit_eq_ok {ns : List Int} :
    requireFit ns = .ok () ↔ ∀ n ∈ ns, fitsStore n = true := by
  unfold requireFit
  split_ifs with h
  · exact iff_of_true rfl (List.all_eq_true.mp h)
  · exact iff_of_false nofun fun hall => h (List.all_eq_true.mpr hall)

theorem requireFit_eq_overflow {ns : List Int} (h : ¬ ∀ n ∈ ns, fitsStore n = true) :
    requireFit ns = .error .integerOverflow := by
  unfold requireFit
  exact if_neg fun hall => h (List.all_eq_true.mp hall)

/-- A write of a row that checks its integers. -/
theorem requireFit_bind_eq_ok {ns : List Int} :
    (requireFit ns >>= fun _ => pure s) = .ok s' ↔ (∀ n ∈ ns, fitsStore n = true) ∧ s' = s := by
  rw [bind_eq_ok]
  constructor
  · rintro ⟨_, hfit, hs⟩
    exact ⟨requireFit_eq_ok.mp hfit, (Except.ok.inj hs).symm⟩
  · rintro ⟨hfit, rfl⟩
    exact ⟨(), requireFit_eq_ok.mpr hfit, rfl⟩

theorem putTeam_eq_ok {t : Team} :
    s.putTeam t = .ok s' ↔
      fitsStore t.deleteAt = true ∧ s' = { s with teams := putRow Team.id t s.teams } := by
  unfold putTeam
  rw [requireFit_bind_eq_ok, List.forall_mem_singleton]

theorem putChannel_eq_ok {c : Channel} :
    s.putChannel c = .ok s' ↔ fitsStore c.deleteAt = true ∧
      s' = { s with channels := putRow Channel.id c.stored s.channels } := by
  unfold putChannel
  rw [requireFit_bind_eq_ok, List.forall_mem_singleton]
  rfl

/-- A user is put unless the time does not fit, or another user holds the name. -/
theorem putUser_eq {u : User} :
    s.putUser u =
      if fitsStore u.deleteAt = true then
        if NameHeld s.users u.stored then .error .usernameTaken
        else .ok { s with users := putRow User.id u.stored s.users }
      else .error .integerOverflow := by
  have hheld : (s.users.any fun v => v.id ≠ u.id && v.username = u.username.lower) = true ↔
      NameHeld s.users u.stored := by
    rw [List.any_eq_true]
    simp only [Bool.and_eq_true, decide_eq_true_eq]
    rfl
  unfold putUser
  split_ifs with hfit hname
  · rw [requireFit_eq_ok.mpr (List.forall_mem_singleton.mpr hfit), ok_bind]
    exact if_pos (hheld.mpr hname)
  · rw [requireFit_eq_ok.mpr (List.forall_mem_singleton.mpr hfit), ok_bind]
    exact if_neg (mt hheld.mp hname)
  · rw [requireFit_eq_overflow (mt List.forall_mem_singleton.mp hfit)]
    rfl

theorem putUser_eq_taken {u : User} :
    s.putUser u = .error .usernameTaken ↔
      fitsStore u.deleteAt = true ∧ NameHeld s.users u.stored := by
  rw [putUser_eq]
  split_ifs with hfit hheld
  · exact iff_of_true rfl ⟨hfit, hheld⟩
  · exact iff_of_false nofun fun h => hheld h.2
  · exact iff_of_false nofun fun h => hfit h.1

theorem putUser_eq_ok {u : User} :
    s.putUser u = .ok s' ↔ fitsStore u.deleteAt = true ∧ ¬ NameHeld s.users u.stored ∧
      s' = { s with users := putRow User.id u.stored s.users } := by
  rw [putUser_eq]
  split_ifs with hfit hheld
  · exact iff_of_false nofun fun h => h.2.1 hheld
  · rw [Except.ok.injEq, eq_comm]
    exact ⟨fun h => ⟨hfit, hheld, h⟩, fun h => h.2.2⟩
  · exact iff_of_false nofun fun h => hfit h.1

def withPost (s : Store) (p : Post) : Store := { s with posts := putRow Post.id p s.posts }

def withFile (s : Store) (f : FileInfo) : Store :=
  { s with files := putRow FileInfo.id f.stored s.files }

theorem write_post (s : Store) (p : Post) :
    s.write (.post p) = requireFit [p.createAt, p.deleteAt] >>= fun _ => pure (s.withPost p) := rfl

theorem write_file (s : Store) (f : FileInfo) :
    s.write (.file f) = requireFit [f.createAt, f.deleteAt] >>= fun _ => pure (s.withFile f) := rfl

/-- Rows of one table, put one after the other. -/
theorem foldl_withPost (rs : List Post) (s : Store) :
    rs.foldl withPost s = { s with posts := putRows Post.id rs s.posts } :=
  List.foldl_hom (fun rows => { s with posts := rows }) fun _ _ => rfl

theorem foldl_withFile (rs : List FileInfo) (s : Store) :
    rs.foldl withFile s =
      { s with files := putRows FileInfo.id (rs.map FileInfo.stored) s.files } := by
  induction rs generalizing s with
  | nil => rfl
  | cons r rs ih =>
    rw [List.foldl_cons, ih]
    rfl

/-- Members of one table, added one after the other. -/
theorem foldl_teamMembers {σ : Type} (ms : List TeamMember) (s : Store × σ) :
    ms.foldl (fun s m => ({ s.1 with teamMembers := addRow m s.1.teamMembers }, s.2)) s =
      ({ s.1 with teamMembers := addRows ms s.1.teamMembers }, s.2) :=
  List.foldl_hom (fun rows => ({ s.1 with teamMembers := rows }, s.2)) fun _ _ => rfl

theorem foldl_channelMembers {σ : Type} (ms : List ChannelMember) (s : Store × σ) :
    ms.foldl (fun s m => ({ s.1 with channelMembers := addRow m s.1.channelMembers }, s.2)) s =
      ({ s.1 with channelMembers := addRows ms s.1.channelMembers }, s.2) :=
  List.foldl_hom (fun rows => ({ s.1 with channelMembers := rows }, s.2)) fun _ _ => rfl

end Store

end ChannelSearch
