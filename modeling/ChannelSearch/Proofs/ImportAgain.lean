import ChannelSearch.Proofs.ImportedContents
import ChannelSearch.Proofs.VisibleChannels

/-!
Importing an export a second time. Main statement: it changes nothing and counts the same, unless a
user name that the export asks for has changed hands; then the users and their teams alone may differ,
and the count of users that were skipped.
-/

namespace ChannelSearch

/-- What the text of an export is read as. -/
def Text.contents (text : Text) : Except ImportError ExportContents :=
  (Json.read text.unifyNewlines).mapError .document >>= Json.contents

/-- The users that no record of a list puts. -/
def notPut (users : List User) (rs : List UserRecord) : List User :=
  users.filter fun u => u.id ∉ rs.map (·.user.id)

/-- Of the users that no earlier record has put, another one holds the name of a record afterwards
exactly when one held it before. -/
def NamesSettled (before after : List User) (rs : List UserRecord) : Prop :=
  ∀ i : Fin rs.length,
    NameHeld (notPut before (acceptedUsers before (rs.take i))) rs[i].user ↔
      NameHeld (notPut after (acceptedUsers before (rs.take i))) rs[i].user

instance (before after : List User) (rs : List UserRecord) : Decidable (NamesSettled before after rs) :=
  inferInstanceAs (Decidable (∀ _ : Fin rs.length, _))

section Accepted

variable {before after users : List User} {rs : List UserRecord} {r : UserRecord}

/-- The users once some records are put. -/
def putUsers (users : List User) (rs : List UserRecord) : List User :=
  putRows User.id (rs.map (·.user)) users

/-- A name is held by a user that no record has put, or by one that a record has put. -/
theorem nameHeld_putUsers (users : List User) (rs : List UserRecord) (u : User) :
    NameHeld (putUsers users rs) u ↔ NameHeld (notPut users rs) u ∨ NameHeld (putUsers [] rs) u := by
  have hput (v : User) : v ∈ putUsers users rs ↔ v ∈ notPut users rs ∨ v ∈ putUsers [] rs := by
    rw [putUsers, mem_putRows, notPut, List.mem_filter, decide_eq_true_eq, List.map_map]
    rfl
  unfold NameHeld
  simp only [hput, or_and_right, exists_or]

theorem acceptedUsers_concat (users : List User) (rs : List UserRecord) (r : UserRecord) :
    acceptedUsers users (rs ++ [r]) = acceptedUsers users rs ++
      if NameHeld (putUsers users (acceptedUsers users rs)) r.user then [] else [r] := by
  induction rs generalizing users with
  | nil => rfl
  | cons q rs ih =>
    by_cases hheld : NameHeld users q.user
    · rw [List.cons_append, acceptedUsers_of_held hheld, acceptedUsers_of_held hheld, ih]
    · rw [List.cons_append, acceptedUsers_of_free hheld, acceptedUsers_of_free hheld, ih]
      rfl

/-- Where the names are settled, the same records are put in both lists of users: of each record in
turn, both decide alike whether another user holds the name. -/
theorem NamesSettled.acceptedUsers_eq (h : NamesSettled before after rs) :
    acceptedUsers after rs = acceptedUsers before rs := by
  -- On the records that remain, with those that are done put in both lists of users.
  have hrest (rest done : List UserRecord) (hsplit : rs = done ++ rest) :
      acceptedUsers (putUsers after (acceptedUsers before done)) rest =
        acceptedUsers (putUsers before (acceptedUsers before done)) rest := by
    induction rest generalizing done with
    | nil => rfl
    | cons r rest ih =>
      have hlength : done.length < rs.length := by
        rw [hsplit, List.length_append, List.length_cons]
        omega
      have hsettled : NameHeld (notPut before (acceptedUsers before done)) r.user ↔
          NameHeld (notPut after (acceptedUsers before done)) r.user := by
        have hat := h ⟨done.length, hlength⟩
        simpa [hsplit] using hat
      have hheld : NameHeld (putUsers before (acceptedUsers before done)) r.user ↔
          NameHeld (putUsers after (acceptedUsers before done)) r.user := by
        rw [nameHeld_putUsers, nameHeld_putUsers after]
        exact or_congr_left hsettled
      have ih := ih (done ++ [r]) (by rw [hsplit, List.append_assoc]; rfl)
      rw [acceptedUsers_concat] at ih
      by_cases hname : NameHeld (putUsers before (acceptedUsers before done)) r.user
      · rw [if_pos hname, List.append_nil] at ih
        rw [acceptedUsers_of_held hname, acceptedUsers_of_held (hheld.mp hname), ih]
      · rw [if_neg hname] at ih
        rw [acceptedUsers_of_free hname, acceptedUsers_of_free (mt hheld.mpr hname)]
        simp only [putUsers, List.map_append, List.map_singleton, putRows_concat] at ih
        exact congrArg (r :: ·) ih
  exact hrest rs [] rfl

end Accepted

namespace Store

theorem withContents_eq (s : Store) (c : ExportContents) :
    s.withContents c =
      { teams := putRows Team.id c.teams s.teams
        users := putUsers s.users (acceptedUsers s.users c.users)
        teamMembers :=
          addRows ((acceptedUsers s.users c.users).flatMap (·.memberships)) s.teamMembers
        channels := putRows Channel.id (c.channels.map (·.channel)) s.channels
        channelMembers := addRows (c.channels.flatMap (·.members)) s.channelMembers
        posts := putRows Post.id (c.posts.filterMap id) s.posts
        files := putRows FileInfo.id ((c.files.filterMap id).map FileInfo.stored) s.files } := rfl

/-- Apart from the users and their teams, the same contents again leave a store as it is. -/
theorem withContents_again (s : Store) (c : ExportContents) :
    (s.withContents c).withContents c =
      { s.withContents c with
        users := ((s.withContents c).withContents c).users
        teamMembers := ((s.withContents c).withContents c).teamMembers } := by
  rw [withContents_eq (s.withContents c), withContents_eq s]
  simp only [putRows_again, addRows_again]

/-- Where the same users are put again, they are left as they are, too. -/
theorem withContents_again_of_accepted {s : Store} {c : ExportContents}
    (h : acceptedUsers (s.withContents c).users c.users = acceptedUsers s.users c.users) :
    (s.withContents c).withContents c = s.withContents c := by
  rw [withContents_eq (s.withContents c), h, withContents_eq s]
  simp only [putUsers, putRows_again, addRows_again]

end Store

/-- A completed import leaves what the contents of the export say. -/
theorem importExport_completes {s : Store} {text : Text} {c : ExportContents} (hc : text.contents = .ok c)
    {stats : ImportStats} {s' : Store} :
    (∃ p, importExport s text false = (.ok stats, p) ∧ p.store = s') ↔
      c.TeamsListed s.users ∧ stats = c.stats s.users ∧ s' = s.withContents c := by
  obtain ⟨data, hread, hdata⟩ := bind_eq_ok.mp hc
  have hrun : importExport s text false = (Import.document data false).runFrom { store := s } := by
    unfold importExport
    rw [mapError_eq_ok.mp hread]
    rfl
  rw [hrun, Import.document_completes]
  constructor
  · rintro ⟨c', hc', h⟩
    obtain rfl := Except.ok.inj (hdata.symm.trans hc')
    exact h
  · exact fun h => ⟨c, hdata, h⟩

theorem contents_of_importExport {s : Store} {text : Text} {stats : ImportStats} {p : ImportProgress}
    (h : importExport s text false = (.ok stats, p)) : ∃ c, text.contents = .ok c := by
  unfold importExport at h
  split at h
  · cases h
  · next data hread =>
    obtain ⟨c, hc, -⟩ := (Import.document_completes s data stats p.store).mp ⟨p, h, rfl⟩
    exact ⟨c, bind_eq_ok.mpr ⟨data, mapError_eq_ok.mpr hread, hc⟩⟩

/-- After a completed import, the same import again completes with the same counts and changes nothing,
unless a user name has changed hands. In any case it completes if the teams of every user of the export
can be listed; and where it completes, only users, their teams and the count of those that were
skipped may differ. -/
theorem importExport_again {s : Store} {text : Text} {stats : ImportStats} {p : ImportProgress}
    (h : importExport s text false = (.ok stats, p)) :
    ∃ c, text.contents = .ok c ∧
      (NamesSettled s.users p.store.users c.users →
        ∃ q, importExport p.store text false = (.ok stats, q) ∧ q.store = p.store) ∧
      ((∀ r ∈ c.users, ∃ ms, r.teams = .ok ms) →
        ∃ stats' q, importExport p.store text false = (.ok stats', q)) ∧
      ∀ stats' q, importExport p.store text false = (.ok stats', q) →
        stats' = { stats with skippedUsers := stats'.skippedUsers } ∧
          q.store =
            { p.store with users := q.store.users, teamMembers := q.store.teamMembers } := by
  obtain ⟨c, hc⟩ := contents_of_importExport h
  obtain ⟨hteams, rfl, hstore⟩ := (importExport_completes hc).mp ⟨p, h, rfl⟩
  refine ⟨c, hc, fun hsettled => ?_, fun hlisted => ?_, fun stats' q hagain => ?_⟩
  · have hsame := hsettled.acceptedUsers_eq
    have hcounts : c.stats s.users = c.stats p.store.users := by
      unfold ExportContents.stats ExportPeople.skippedUsers
      rw [hsame]
    rw [importExport_completes hc]
    refine ⟨?_, hcounts, ?_⟩
    · rw [ExportPeople.TeamsListed, hsame]
      exact hteams
    · rw [hstore] at hsame ⊢
      exact (Store.withContents_again_of_accepted hsame).symm
  · have hall : c.TeamsListed p.store.users :=
      fun r hr => hlisted r ((acceptedUsers_sublist _ _).subset hr)
    obtain ⟨q, hq, -⟩ := (importExport_completes hc).mpr ⟨hall, rfl, rfl⟩
    exact ⟨_, q, hq⟩
  · obtain ⟨-, rfl, hleft⟩ := (importExport_completes hc).mp ⟨q, hagain, rfl⟩
    rw [hleft, hstore]
    exact ⟨rfl, Store.withContents_again s c⟩

/-- An export in which a user takes a name that another one gives up. -/
def renamingExport : Text :=
  ("\x7b\"users\": [\x7b\"id\": \"u1\", \"username\": \"carol\"\x7d, " ++
    "\x7b\"id\": \"u2\", \"username\": \"alice\", \"teams\": [\"T2\"]\x7d, " ++
    "\x7b\"id\": \"u3\", \"username\": \"carol\"\x7d], \"posts\": [\x7b\"id\": \"p1\"\x7d]\x7d").toList

theorem importExport_again_renaming :
    ∃ p q, importExport sampleStore renamingExport false =
        (.ok { total := 1, skipped := 1, skippedUsers := 1 }, p) ∧
      p.store.users = [⟨"u1".toList, "carol".toList, 0⟩, ⟨"u2".toList, "alice".toList, 0⟩] ∧
      importExport p.store renamingExport false =
        (.ok { total := 1, skipped := 1, skippedUsers := 1 }, q) ∧ q.store = p.store := by
  have hfirst : importExport sampleStore renamingExport false =
      (.ok { total := 1, skipped := 1, skippedUsers := 1 },
        (importExport sampleStore renamingExport false).2) := by
    delta renamingExport
    rw [String.toList_append, String.toList_append]
    -- Long texts are slow to evaluate, their letters are not.
    repeat rw [String.toList_ofList]
    decide +kernel
  have hsettled : ∀ c ∈ renamingExport.contents.toOption, NamesSettled sampleStore.users
      (importExport sampleStore renamingExport false).2.store.users c.users := by
    delta renamingExport
    rw [String.toList_append, String.toList_append]
    repeat rw [String.toList_ofList]
    decide +kernel
  obtain ⟨c, hc, hsame, -⟩ := importExport_again hfirst
  have husers : (importExport sampleStore renamingExport false).2.store.users =
      [⟨"u1".toList, "carol".toList, 0⟩, ⟨"u2".toList, "alice".toList, 0⟩] := by
    delta renamingExport
    rw [String.toList_append, String.toList_append]
    repeat rw [String.toList_ofList]
    decide +kernel
  obtain ⟨q, hq, hstore⟩ := hsame (hsettled c (by rw [hc]; rfl))
  exact ⟨_, q, hfirst, husers, hq, hstore⟩

/-- An export in which a user asks for a name before another one gives it up. -/
def freedNameExport (teams : String) : Text :=
  "\x7b\"users\": [\x7b\"id\": \"u2\", \"username\": \"alice\", \"teams\": ".toList ++ teams.toList ++
    "\x7d, \x7b\"id\": \"u1\", \"username\": \"carol\"\x7d]\x7d".toList

/-- The name is free the second time, and the user whose record was skipped is put, or stops the
import. -/
theorem freed_name_is_taken_again :
    (let first := importExport sampleStore (freedNameExport "[]") false
      let second := importExport first.2.store (freedNameExport "[]") false
      first.1 = .ok { skippedUsers := 1 } ∧ second.1 = .ok {} ∧
        first.2.store.users = [⟨"u1".toList, "carol".toList, 0⟩, ⟨"u2".toList, "bob".toList, 0⟩] ∧
          second.2.store.users =
            [⟨"u1".toList, "carol".toList, 0⟩, ⟨"u2".toList, "alice".toList, 0⟩]) ∧
      let first := importExport sampleStore (freedNameExport "5") false
      first.1 = .ok { skippedUsers := 1 } ∧ (importExport first.2.store (freedNameExport "5") false).1 =
        .error (.conversion (.notIterable "int".toList)) := by
  delta freedNameExport
  repeat rw [String.toList_ofList]
  decide +kernel

end ChannelSearch
