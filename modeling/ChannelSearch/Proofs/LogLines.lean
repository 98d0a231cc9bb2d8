import ChannelSearch.Proofs.ImportedContents
import ChannelSearch.Proofs.LogTexts
import ChannelSearch.Proofs.ReadProtocol
import ChannelSearch.Program.Workspace

/-!
The lines of the log. Main statement: over any imports and searches, whatever is stored, imported, asked for
or said by a store that fails, each record of the log is one line, except that of a skipped user whose id holds
a control character.
-/

namespace ChannelSearch

def LogRecord.IsOneLine (r : LogRecord) : Prop := IsLine r.message

instance (r : LogRecord) : Decidable r.IsOneLine := inferInstanceAs (Decidable (IsLine r.message))

namespace Traced

variable {ε δ α β : Type} {x : Traced ε α}

/-- All that is logged on the way is told line by line. -/
def LogsLines (x : Traced ε α) : Prop := ∀ r ∈ x.logs, r.IsOneLine

theorem logsLines_pure (a : α) : (Pure.pure a : Traced ε α).LogsLines := nofun

theorem logsLines_ofExcept (y : Except ε α) : (ofExcept y).LogsLines := nofun

theorem logsLines_fail (e : ε) : (fail e : Traced ε α).LogsLines := nofun

theorem logsLines_sent (read : Read) (s : Sql.Statement) : (tell (.sent read s) : Traced ε Unit).LogsLines :=
  nofun

theorem logsLines_log {level : LogLevel} {source : LogSource} {message : Text} (h : IsLine message) :
    (log level source message : Traced ε Unit).LogsLines :=
  List.forall_mem_singleton.mpr h

theorem LogsLines.bind {f : α → Traced ε β} (hx : x.LogsLines) (hf : ∀ a, (f a).LogsLines) :
    (x >>= f).LogsLines := by
  cases hresult : x.result with
  | ok a =>
    intro r hr
    rw [logs_bind_of_ok hresult, List.mem_append] at hr
    exact hr.elim (hx r) (hf a r)
  | error e =>
    have hlogs : (x >>= f).logs = x.logs := by
      show (Traced.bind x f).logs = _
      rw [Traced.bind, hresult]
      rfl
    intro r hr
    exact hx r (hlogs ▸ hr)

theorem LogsLines.mapError (h : x.LogsLines) (f : ε → δ) : (x.mapError f).LogsLines := h

end Traced

open Traced

section Searches

theorem logsLines_searchDate (now : Int) (value : Text) (offset : Int) :
    (searchDate now value offset).LogsLines := by
  unfold searchDate
  split
  · exact logsLines_pure _
  · refine (logsLines_log ?_).bind fun _ => logsLines_ofExcept _
    exact isLine_append.mpr ⟨isLine_append.mpr ⟨by decide, value.isLine_quoted⟩, by decide⟩

theorem logsLines_boundConditions {C : Type} {date : Text} {test : Int → Sql.Test C}
    {millis : Traced DateError Int} (h : millis.LogsLines) :
    (SearchRequest.boundConditions date test millis).LogsLines := by
  unfold SearchRequest.boundConditions
  split_ifs
  · exact logsLines_pure _
  · exact h.bind fun _ => logsLines_pure _

theorem logsLines_dateConditions {C : Type} (now : Int) (column : C) (r : SearchRequest) :
    (r.dateConditions now column).LogsLines := by
  by_cases hon : r.onDate = []
  · rw [SearchRequest.dateConditions_of_not_on hon]
    have hafter : (r.afterMillis now).LogsLines :=
      (logsLines_searchDate _ _ _).bind fun _ => logsLines_ofExcept _
    have hbefore : (r.beforeMillis now).LogsLines :=
      (logsLines_searchDate _ _ _).bind fun _ => logsLines_ofExcept _
    exact (logsLines_boundConditions hafter).bind fun _ =>
      (logsLines_boundConditions hbefore).bind fun _ => logsLines_pure _
  · rw [SearchRequest.dateConditions_of_on hon]
    have hbounds : (r.onBounds now).LogsLines := (logsLines_searchDate _ _ _).bind fun _ =>
      (logsLines_ofExcept _).bind fun _ => (logsLines_ofExcept _).bind fun _ => logsLines_pure _
    exact hbounds.bind fun _ => logsLines_pure _

variable {reader : Reader} {lookup : Lookup} {c : SearchContext}

theorem logsLines_check (c : SearchContext) (point : Checkpoint) : (c.check point).LogsLines := by
  unfold SearchContext.check
  split_ifs
  · exact logsLines_fail _
  · exact logsLines_pure _

theorem logsLines_visibleChannels (reader : Reader) (q : ScopeQuery) :
    (visibleChannels reader q).LogsLines := by
  refine (logsLines_ofExcept _).bind fun _ => (logsLines_sent _ _).bind fun _ => ?_
  split
  · exact logsLines_pure _
  · exact logsLines_fail _
  · next message _ =>
    refine (logsLines_log ?_).bind fun _ => logsLines_pure _
    exact isLine_append.mpr ⟨by decide, message.isLine_logLine _⟩

theorem logsLines_readPage {α : Type} {select : Sql.Select} {read : Read} {source : LogSource}
    {failure : String} {deleteAt : α → Int} {answer : Except ReadError (List α)}
    (hfailure : IsLine failure.toList) :
    (readPage c select read source failure deleteAt answer).LogsLines := by
  refine (logsLines_ofExcept _).bind fun _ => (logsLines_check c _).bind fun _ =>
    (logsLines_sent _ _).bind fun _ => ?_
  split
  · exact logsLines_pure _
  · exact logsLines_fail _
  · next message =>
    refine (logsLines_log ?_).bind fun _ => logsLines_pure _
    exact isLine_append.mpr ⟨hfailure, message.isLine_logLine _⟩

theorem logsLines_scopedSearch {α C : Type} {first : SearchRequest} {column : C}
    {build : Traced SearchError (Option (PageQuery C))}
    {read : PageQuery C → Traced SearchError (Page α)} (hbuild : build.LogsLines)
    (hread : ∀ q, (read q).LogsLines) :
    (scopedSearch reader lookup c first column build read).LogsLines := by
  refine hbuild.bind fun query => ?_
  cases query with
  | none => exact logsLines_pure _
  | some q =>
    refine (logsLines_check c _).bind fun _ => (logsLines_visibleChannels reader _).bind fun ids => ?_
    split_ifs
    · exact logsLines_pure _
    · exact hread _

theorem logsLines_searchPosts (reader : Reader) (lookup : Lookup) (c : SearchContext)
    (requests : List SearchRequest) : (searchPosts reader lookup c requests).LogsLines := by
  cases requests with
  | nil => exact logsLines_pure _
  | cons first rest =>
    rw [searchPosts_cons]
    split_ifs
    · exact logsLines_pure _
    · refine logsLines_scopedSearch ?_ fun q => ?_
      · refine ((logsLines_dateConditions _ _ _).mapError _).bind fun _ => ?_
        dsimp only
        split_ifs
        · exact logsLines_pure _
        · exact logsLines_pure _
      · rw [readPosts_eq]
        exact logsLines_readPage (by decide)

theorem logsLines_searchFiles (reader : Reader) (lookup : Lookup) (c : SearchContext)
    (requests : List SearchRequest) : (searchFiles reader lookup c requests).LogsLines := by
  cases requests with
  | nil => exact logsLines_pure _
  | cons first rest =>
    rw [searchFiles_cons]
    split_ifs
    · exact logsLines_pure _
    · refine logsLines_scopedSearch ?_ fun q => ?_
      · refine ((logsLines_dateConditions _ _ _).mapError _).bind fun _ => ?_
        dsimp only
        split_ifs
        · exact logsLines_pure _
        · exact logsLines_pure _
      · rw [readFiles_eq]
        exact logsLines_readPage (by decide)

end Searches

/-- The record of a user that is skipped: the id is shown as it is, and the name is quoted. -/
def skipRecord (id username : Json) : LogRecord :=
  ⟨.warning, .imports, "import skipped user id=".toList ++ id.shown ++ " username=".toList ++
    username.quoted ++ " error=".toList ++ WriteError.message .usernameTaken⟩

theorem isOneLine_skipRecord {id username : Json} : (skipRecord id username).IsOneLine ↔ IsLine id.shown := by
  have hbefore : IsLine "import skipped user id=".toList := by decide
  have hbetween : IsLine " username=".toList := by decide
  have hafter : IsLine (" error=".toList ++ WriteError.message .usernameTaken) := by decide
  simp only [isLine_append] at hafter
  simp only [LogRecord.IsOneLine, skipRecord, isLine_append, hbefore, hbetween, hafter,
    username.isLine_quoted, true_and, and_true]

/-- A value among the users of an export has the id and the name. -/
def Record.ListsUser (data id username : Json) : Prop :=
  ∃ users v, listOf data "users" = .ok users ∧ v ∈ users ∧ require v "id" = .ok id ∧
    require v "username" = .ok username

namespace Import

variable {α β : Type} {x : Import α} {P Q : LogRecord → Prop}

/-- All that a step logs, also on the way to a failure, has a property. -/
def Logs (x : Import α) (P : LogRecord → Prop) : Prop :=
  ∀ p, ∃ rs, (x.runFrom p).2.logs = p.logs ++ rs ∧ ∀ r ∈ rs, P r

theorem Logs.imp (h : x.Logs P) (hPQ : ∀ r, P r → Q r) : x.Logs Q := by
  intro p
  obtain ⟨rs, hlogs, hrs⟩ := h p
  exact ⟨rs, hlogs, fun r hr => hPQ r (hrs r hr)⟩

/-- A step that leaves the log as it is. -/
theorem logs_of_eq (h : ∀ p, (x.runFrom p).2.logs = p.logs) : x.Logs P :=
  fun p => ⟨[], by rw [h, List.append_nil], nofun⟩

theorem logs_pure (a : α) : (pure a : Import α).Logs P := logs_of_eq fun _ => rfl

theorem logs_read (y : Except ImportError α) : (read y).Logs P := logs_of_eq fun _ => rfl

theorem logs_count (f : ImportStats → ImportStats) : (count f).Logs P := logs_of_eq fun _ => rfl

theorem logs_write (w : Write) : (write w).Logs P := by
  refine logs_of_eq fun p => ?_
  rw [runFrom_write]
  cases p.store.write w <;> rfl

theorem logs_log {level : LogLevel} {message : Text} (h : P ⟨level, .imports, message⟩) :
    (log level message).Logs P :=
  fun _ => ⟨[⟨level, .imports, message⟩], rfl, List.forall_mem_singleton.mpr h⟩

theorem Logs.bind {f : α → Import β} (hx : x.Logs P) (hf : ∀ a, (f a).Logs P) : (x >>= f).Logs P := by
  intro p
  obtain ⟨rs, hlogs, hrs⟩ := hx p
  rw [runFrom_bind]
  cases hrun : x.runFrom p with
  | mk result q =>
    rw [hrun] at hlogs
    cases result with
    | error e => exact ⟨rs, hlogs, hrs⟩
    | ok a =>
      obtain ⟨ts, hlater, hts⟩ := hf a q
      refine ⟨rs ++ ts, ?_, List.forall_mem_append.mpr ⟨hrs, hts⟩⟩
      rw [← List.append_assoc, ← hlogs, ← hlater]

theorem logs_read_bind {y : Except ImportError α} {f : α → Import β}
    (hf : ∀ a, y = .ok a → (f a).Logs P) : (read y >>= f).Logs P := by
  cases y with
  | error e => exact logs_of_eq fun _ => rfl
  | ok a => exact hf a rfl

theorem logs_get_bind {f : ImportProgress → Import β} (hf : ∀ p, (f p).Logs P) : (get >>= f).Logs P :=
  fun p => hf p p

theorem logs_each {f : Json → Import Unit} {vs : List Json} (h : ∀ v ∈ vs, (f v).Logs P) :
    (each f vs).Logs P := by
  induction vs with
  | nil => exact logs_pure _
  | cons v vs ih =>
    obtain ⟨hv, hvs⟩ := List.forall_mem_cons.mp h
    rw [each_cons]
    exact hv.bind fun _ => ih hvs

theorem logs_team (v : Json) : (team v).Logs P := (logs_read _).bind fun _ => logs_write _

theorem logs_channel (v : Json) : (channel v).Logs P :=
  (logs_read _).bind fun _ => (logs_write _).bind fun _ => (logs_read _).bind fun _ =>
    logs_each fun _ _ => logs_write _

/-- Only a user that is skipped is logged. -/
theorem logs_user (v : Json) : (user v).Logs fun r => ∃ id username,
    Record.require v "id" = .ok id ∧ Record.require v "username" = .ok username ∧
      r = skipRecord id username := by
  rw [user_eq]
  refine (logs_read _).bind fun _ => logs_get_bind fun _ => ?_
  split_ifs
  · exact logs_read_bind fun id hid => logs_read_bind fun username husername =>
      (logs_log ⟨id, username, hid, husername, rfl⟩).bind fun _ => logs_count _
  · exact (logs_write _).bind fun _ => (logs_read _).bind fun _ => logs_each fun _ _ => logs_write _

/-- A record that is written, or only counted, is not logged. -/
theorem logs_keep {ρ : Type} (dryRun : Bool) (row : Except ImportError ρ) (w : ρ → Write) :
    (do
      unless dryRun do write (w (← read row))
      imported : Import Unit).Logs P := by
  cases dryRun with
  | true =>
    show imported.Logs P
    exact logs_count _
  | false => exact (logs_read _).bind fun _ => (logs_write _).bind fun _ => logs_count _

theorem logs_post (dryRun : Bool) (v : Json) : (post dryRun v).Logs P := by
  refine (logs_read _).bind fun key => ?_
  cases key with
  | none => exact logs_count _
  | some key => exact logs_keep dryRun _ .post

theorem logs_file (dryRun : Bool) (v : Json) : (file dryRun v).Logs P := by
  refine (logs_read _).bind fun key => ?_
  cases key with
  | none => exact logs_count _
  | some key => exact logs_keep dryRun _ .file

theorem logs_report : report.Logs LogRecord.IsOneLine := by
  refine logs_get_bind fun p => ?_
  dsimp only
  split_ifs
  · refine (logs_log ?_).bind fun _ => logs_pure _
    exact isLine_append.mpr ⟨by decide, Text.isLine_ofNat _⟩
  · exact logs_pure _

/-- The record is one line, or that of a user that the import reads. -/
def Reports (data : Json) (dryRun : Bool) (r : LogRecord) : Prop :=
  r.IsOneLine ∨ dryRun = false ∧ ∃ id username, Record.ListsUser data id username ∧
    r = skipRecord id username

theorem logs_peopleUnless (data : Json) (dryRun : Bool) :
    (peopleUnless dryRun data).Logs (Reports data dryRun) := by
  cases dryRun with
  | true => exact logs_pure _
  | false =>
    refine (logs_read _).bind fun _ => (logs_each fun v _ => logs_team v).bind fun _ =>
      logs_read_bind fun users husers => (logs_each fun v hv => ?_).bind fun _ =>
        (logs_read _).bind fun _ => logs_each fun v _ => logs_channel v
    refine (logs_user v).imp fun r hr => ?_
    obtain ⟨id, username, hid, husername, rfl⟩ := hr
    exact .inr ⟨rfl, id, username, ⟨users, v, husers, hv, hid, husername⟩, rfl⟩

theorem logs_document (data : Json) (dryRun : Bool) :
    (document data dryRun).Logs (Reports data dryRun) := by
  rw [document_eq]
  exact (logs_read _).bind fun _ => (logs_read _).bind fun _ => (logs_read _).bind fun _ =>
    (logs_read _).bind fun _ => (logs_count _).bind fun _ => (logs_peopleUnless data dryRun).bind fun _ =>
      (logs_read _).bind fun _ => (logs_each fun v _ => logs_post dryRun v).bind fun _ =>
        (logs_read _).bind fun _ => (logs_each fun v _ => logs_file dryRun v).bind fun _ =>
          logs_report.imp fun _ hr => .inl hr

end Import

/-- What is done with a store. A search reads the store as it is then, or any reader that depends on it. -/
inductive Activity where
  | importExport (text : Text) (dryRun : Bool)
  | searchPosts (reader : Store → Reader) (lookup : Lookup) (c : SearchContext)
      (requests : List SearchRequest)
  | searchFiles (reader : Store → Reader) (lookup : Lookup) (c : SearchContext)
      (requests : List SearchRequest)

namespace Activity

/-- The records that are logged, and the store that is left. -/
def run (s : Store) : Activity → List LogRecord × Store
  | .importExport text dryRun =>
    ((ChannelSearch.importExport s text dryRun).2.logs, (ChannelSearch.importExport s text dryRun).2.store)
  | .searchPosts reader lookup c requests => ((ChannelSearch.searchPosts (reader s) lookup c requests).logs, s)
  | .searchFiles reader lookup c requests => ((ChannelSearch.searchFiles (reader s) lookup c requests).logs, s)

/-- One activity after the other. -/
def runAll (s : Store) : List Activity → List LogRecord × Store
  | [] => ([], s)
  | a :: as => ((a.run s).1 ++ (runAll (a.run s).2 as).1, (runAll (a.run s).2 as).2)

/-- The activity imports an export that lists a user with the id and the name. -/
def ImportsUser (a : Activity) (id username : Json) : Prop :=
  ∃ text data, a = .importExport text false ∧ Json.read text.unifyNewlines = .ok data ∧
    Record.ListsUser data id username

/-- A record of one activity is one line, or that of a user that the activity imports. -/
theorem logs_run (s : Store) (a : Activity) {r : LogRecord} (h : r ∈ (a.run s).1) :
    r.IsOneLine ∨ ∃ id username, a.ImportsUser id username ∧ r = skipRecord id username := by
  cases a with
  | searchPosts reader lookup c requests => exact .inl (logsLines_searchPosts _ lookup c requests r h)
  | searchFiles reader lookup c requests => exact .inl (logsLines_searchFiles _ lookup c requests r h)
  | importExport text dryRun =>
    unfold run ChannelSearch.importExport at h
    cases hread : Json.read text.unifyNewlines with
    | error e => simp [hread] at h
    | ok data =>
      simp only [hread] at h
      obtain ⟨rs, hlogs, hrs⟩ := Import.logs_document data dryRun { store := s }
      rw [List.nil_append] at hlogs
      obtain hline | ⟨rfl, id, username, hlists, rfl⟩ := hrs r (hlogs ▸ h)
      · exact .inl hline
      · exact .inr ⟨id, username, ⟨text, data, rfl, hread, hlists⟩, rfl⟩

theorem logs_runAll (as : List Activity) {s : Store} {r : LogRecord} (h : r ∈ (runAll s as).1) :
    r.IsOneLine ∨ ∃ a ∈ as, ∃ id username, a.ImportsUser id username ∧ r = skipRecord id username := by
  induction as generalizing s with
  | nil => cases h
  | cons a as ih =>
    obtain hfirst | hlater := List.mem_append.mp h
    · exact (logs_run s a hfirst).imp_right fun hskip => ⟨a, List.mem_cons_self, hskip⟩
    · exact (ih hlater).imp_right fun ⟨b, hb, hskip⟩ => ⟨b, List.mem_cons_of_mem a hb, hskip⟩

/-- Over all imports and searches, with whatever store, export, request and failure of a store, a record is one
line, unless it tells of a skipped user whose id is a text with a control character: the name is quoted, and
the id is not. -/
theorem records_are_lines (s : Store) (as : List Activity) :
    ∀ r ∈ (runAll s as).1, ¬ r.IsOneLine ↔
      ∃ a ∈ as, ∃ t username, a.ImportsUser (.text t) username ∧ r = skipRecord (.text t) username ∧
        ¬ IsLine t := by
  intro r hr
  constructor
  · intro hbroken
    obtain ⟨a, ha, id, username, himports, rfl⟩ := (logs_runAll as hr).resolve_left hbroken
    have hid := mt isOneLine_skipRecord.mpr hbroken
    simp only [Json.isLine_shown, not_forall] at hid
    obtain ⟨t, rfl, ht⟩ := hid
    exact ⟨a, ha, t, username, himports, rfl, ht⟩
  · rintro ⟨a, -, t, username, -, rfl, ht⟩
    exact mt isOneLine_skipRecord.mp ht

/-- A search for a date that breaks its line, in a store whose error breaks its own. -/
def brokenSearch : Activity :=
  .searchPosts (fun _ => Workspace.brokenReader "no such table\nERROR forged") {}
    { userId := "u1".toList, teamId := [], now := 0 }
    [{ terms := "deploy".toList, onDate := "never\r\n".toList }]

theorem records_are_lines_broken :
    let date : LogRecord :=
      ⟨.warning, .dates, "invalid_search_date value='never\\r\\n' falling back to today".toList⟩
    let scope : LogRecord :=
      ⟨.warning, .scope, "search_channel_scope_failed error=no such table ERROR forged".toList⟩
    (date ∈ (runAll {} [brokenSearch]).1 ∧ scope ∈ (runAll {} [brokenSearch]).1) ∧
      date.IsOneLine ∧ scope.IsOneLine := by
  intro date scope
  have hline {r : LogRecord} (hr : r ∈ (runAll {} [brokenSearch]).1) : r.IsOneLine := by
    by_contra hbroken
    obtain ⟨a, ha, t, username, ⟨text, data, himport, -⟩, -⟩ :=
      (records_are_lines {} _ r hr).mp hbroken
    rw [List.mem_singleton.mp ha] at himport
    cases himport
  have hlogs : (runAll {} [brokenSearch]).1 = [date, scope] := by
    dsimp only [date, scope, brokenSearch]
    repeat rw [String.toList_ofList]
    decide +kernel
  have hdate : date ∈ (runAll {} [brokenSearch]).1 := by simp [hlogs]
  have hscope : scope ∈ (runAll {} [brokenSearch]).1 := by simp [hlogs]
  exact ⟨⟨hdate, hscope⟩, hline hdate, hline hscope⟩

/-- An export whose second user has the name of the first one and breaks the line with its id. -/
def forgedExport : Text :=
  "\x7b\"users\": [\x7b\"id\": \"u1\", \"username\": \"alice\"\x7d, ".toList ++
    "\x7b\"id\": \"u2\\nERROR forged\", \"username\": \"alice\"\x7d]\x7d".toList

/-- The id of a skipped user begins a line of its own. -/
theorem skipped_id_breaks_its_line :
    (runAll {} [.importExport forgedExport false]).1.map LogRecord.message =
        ["import skipped user id=u2\nERROR forged username='alice' error=".toList ++
          "UNIQUE constraint failed: users.username".toList] ∧
      ∃ r ∈ (runAll {} [.importExport forgedExport false]).1, ¬ r.IsOneLine := by
  have hmessages : (runAll {} [.importExport forgedExport false]).1.map LogRecord.message =
      ["import skipped user id=u2\nERROR forged username='alice' error=".toList ++
        "UNIQUE constraint failed: users.username".toList] := by
    delta forgedExport
    repeat rw [String.toList_ofList]
    decide +kernel
  obtain ⟨r, hr, hmessage⟩ := List.mem_map.mp (hmessages ▸ List.mem_singleton_self _)
  refine ⟨hmessages, r, hr, ?_⟩
  rw [LogRecord.IsOneLine, hmessage]
  decide +kernel

end Activity

end ChannelSearch
