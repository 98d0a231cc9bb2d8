import ChannelSearch.Calendar.Moment
import ChannelSearch.CommandLine.Command
import ChannelSearch.Export.Load
import ChannelSearch.Program.Workspace
import ChannelSearch.Search.Files
import ChannelSearch.Search.Posts
import ChannelSearch.SearchBox.Contents
import ChannelSearch.Settings.Basic

/-!
One run of the program: what it prints and logs, how it ends, and the files it leaves.
-/

namespace ChannelSearch

inductive ProgramError where
  | usage (e : CommandLine.UsageError)
  | settings (e : SettingsError)
  | file (e : FileError)
  | importExport (e : ImportError)
  | search (e : SearchError)
  | moment (e : MomentError)
deriving DecidableEq, Repr

def ProgramError.message : ProgramError → Text
  | .usage e => e.message
  | .settings e => e.message
  | .file e => e.message
  | .importExport e => e.message
  | .search e => e.message
  | .moment e => e.message

structure RunResult where
  outcome : Except ProgramError Unit
  output : Text := []
  logs : List LogRecord := []

namespace RunResult

def failed (e : ProgramError) (logs : List LogRecord := []) : RunResult :=
  { outcome := .error e, logs }

end RunResult

namespace Program

def info (message : Text) : LogRecord := ⟨.info, .program, message⟩

/-- What a run works with once its settings are read. -/
structure Setup where
  settings : Settings
  store : Store
  reader : Reader
  logs : List LogRecord

def Setup.lookup (s : Setup) : Lookup :=
  { channelsByName := s.settings.channelsByName, usersByUsername := s.settings.usersByUsername }

def dotenvPath : Text := ".env".toList

def loadSettings (w : Workspace) : Except ProgramError Settings :=
  let file := match w.file? dotenvPath with
    | some (.text t) => some t
    | _ => none
  (Settings.load w.environment file).mapError .settings

/-- The line of a post; answers are counted when there are any. -/
def postLine (p : PostRow) : Except MomentError Text := do
  let time ← Moment.text p.createAt
  let replies :=
    if p.replyCount = 0 then []
    else " (".toList ++ Text.ofInt p.replyCount ++ " replies)".toList
  pure (time ++ "  ".toList ++ p.channelId ++ "  ".toList ++ p.message ++ replies)

def fileLine (f : FileRow) : Except MomentError Text := do
  let time ← Moment.text f.createAt
  pure (time ++ "  ".toList ++ f.channelId ++ "  ".toList ++ f.name)

/-- The lines up to the first row that has none. -/
def printLines {α : Type} (line : α → Except MomentError Text) :
    List α → Text × Except MomentError Unit
  | [] => ([], .ok ())
  | row :: rows =>
    match line row with
    | .error e => ([], .error e)
    | .ok t =>
      let (output, outcome) := printLines line rows
      (t ++ '\n' :: output, outcome)

def searchDone (hits : Nat) : LogRecord := info ("search done hits=".toList ++ Text.ofNat hits)

/-- The result of a search whose page is printed with a line for every hit. -/
def printed {α : Type} (s : Setup) (line : α → Except MomentError Text)
    (found : Traced SearchError (Page α)) : RunResult :=
  match found.result with
  | .error e => .failed (.search e) (s.logs ++ found.logs)
  | .ok page =>
    let (output, outcome) := printLines line page.rows
    match outcome with
    | .error e => { outcome := .error (.moment e), output, logs := s.logs ++ found.logs }
    | .ok () =>
      { outcome := .ok (), output, logs := s.logs ++ found.logs ++ [searchDone page.rows.length] }

def runSearch (s : Setup) (now : Int) (c : CommandLine.SearchCommand) : RunResult :=
  let requests := SearchBox.parse c.query c.timeZoneOffset
  if requests.isEmpty then
    { outcome := .ok (), output := "empty query\n".toList, logs := s.logs ++ [searchDone 0] }
  else
    let context : SearchContext :=
      { userId := c.user, teamId := c.team, page := c.page
        perPage := if c.perPage = 0 then s.settings.perPage else c.perPage
        now }
    if c.files then printed s fileLine (searchFiles s.reader s.lookup context requests)
    else printed s postLine (searchPosts s.reader s.lookup context requests)

def importDone (stats : ImportStats) (dryRun : Bool) : LogRecord :=
  info ("import done total=".toList ++ Text.ofNat stats.total ++ " imported=".toList ++
    Text.ofNat stats.imported ++ " skipped=".toList ++ Text.ofNat stats.skipped ++
    " dry_run=".toList ++ (if dryRun then "True" else "False").toList)

/-- An import, and the store that it leaves. -/
def runImport (s : Setup) (w : Workspace) (path : Text) (dryRun : Bool) : RunResult × Store :=
  match w.readText path with
  | .error e => (.failed (.file e) s.logs, s.store)
  | .ok text =>
    let (outcome, progress) := importExport s.store text dryRun
    let logs := s.logs ++ progress.logs
    match outcome with
    | .error e => (.failed (.importExport e) logs, progress.store)
    | .ok stats =>
      ({ outcome := .ok (), logs := logs ++ [importDone stats dryRun] }, progress.store)

/-- Opens the store, which is kept from then on, and what searches read from. -/
def setUp (w : Workspace) (settings : Settings) : Except ProgramError Setup × Workspace :=
  match w.openStore settings.storePath with
  | .error e => (.error (.file e), w)
  | .ok store =>
    let w := w.saveStore settings.storePath store
    match settings.replicaPath with
    | none => (.ok { settings, store, reader := store.reader, logs := [] }, w)
    | some path =>
      match w.openReader path with
      | .error e => (.error (.file e), w)
      | .ok reader =>
        let opened := info ("search reads use replica path=".toList ++ path)
        (.ok { settings, store, reader, logs := [opened] }, w)

/-- The command line is read before the settings, and the settings before any store is opened. -/
def run (w : Workspace) (args : List Text) : RunResult × Workspace :=
  match CommandLine.Command.parse args with
  | .error e => (.failed (.usage e), w)
  | .ok command =>
    match loadSettings w with
    | .error e => (.failed e, w)
    | .ok settings =>
      match setUp w settings with
      | (.error e, w) => (.failed e, w)
      | (.ok s, w) =>
        match command with
        | .importExport path dryRun =>
          let (result, store) := runImport s w path dryRun
          (result, w.saveStore settings.storePath store)
        | .search c => (runSearch s w.now c, w)

/-- The paths of the files that a run may read, once the settings file is among the files. -/
def inputPaths (w : Workspace) (args : List Text) : List Text :=
  let given := match CommandLine.Command.parse args with
    | .ok (.importExport path _) => [path]
    | _ => []
  match loadSettings w with
  | .ok settings => given ++ settings.storePath :: settings.replicaPath.toList
  | .error _ => given

end Program

end ChannelSearch
