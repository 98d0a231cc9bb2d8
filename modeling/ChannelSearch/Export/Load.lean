import ChannelSearch.Export.Record
import ChannelSearch.Trace

/-!
Importing an export: teams, users, channels, posts and files are written one by one. What was written
before a failure stays. A dry run writes nothing and counts the posts and files that are records.
-/

namespace ChannelSearch

structure ImportStats where
  total : Nat := 0
  skipped : Nat := 0
  imported : Nat := 0
  skippedUsers : Nat := 0
deriving DecidableEq, Repr

/-- How far an import has come. -/
structure ImportProgress where
  store : Store
  stats : ImportStats := {}
  logs : List LogRecord := []
deriving DecidableEq, Repr

/-- A step of an import. A step that fails keeps the progress made before. -/
abbrev Import (α : Type) := ExceptT ImportError (StateM ImportProgress) α

namespace Import

def read {α : Type} (x : Except ImportError α) : Import α := ExceptT.mk (pure x)

def write (w : Write) : Import Unit := do
  match (← get).store.write w with
  | .ok store => modify fun p => { p with store }
  | .error e => throw (.write e)

def count (f : ImportStats → ImportStats) : Import Unit :=
  modify fun p => { p with stats := f p.stats }

def log (level : LogLevel) (message : Text) : Import Unit :=
  modify fun p => { p with logs := p.logs ++ [⟨level, .imports, message⟩] }

def team (v : Json) : Import Unit := do
  write (.team (← read (Record.team v)))

/-- A user whose name is taken is skipped, with the teams. -/
def user (v : Json) : Import Unit := do
  let u ← read (Record.user v)
  match (← get).store.putUser u with
  | .error .usernameTaken =>
    let id ← read (Record.require v "id")
    let username ← read (Record.require v "username")
    log .warning ("import skipped user id=".toList ++ id.shown ++ " username=".toList ++
      username.quoted ++ " error=".toList ++ WriteError.message .usernameTaken)
    count fun s => { s with skippedUsers := s.skippedUsers + 1 }
  | _ =>
    write (.user u)
    for teamId in ← read (Record.listOf v "teams") do
      write (.teamMember ⟨teamId.shown, u.id⟩)

def channel (v : Json) : Import Unit := do
  let c ← read (Record.channel v)
  write (.channel c)
  for member in ← read (Record.listOf v "members") do
    write (.channelMember ⟨c.id, member.shown⟩)

def skip : Import Unit := count fun s => { s with skipped := s.skipped + 1 }

def imported : Import Unit := count fun s => { s with imported := s.imported + 1 }

def post (dryRun : Bool) (v : Json) : Import Unit := do
  match ← read (Record.postKey? v) with
  | none => skip
  | some key =>
    unless dryRun do write (.post (← read (Record.post v key)))
    imported

def file (dryRun : Bool) (v : Json) : Import Unit := do
  match ← read (Record.fileKey? v) with
  | none => skip
  | some key =>
    unless dryRun do write (.file (← read (Record.file v key)))
    imported

/-- Posts and files are counted first; a list of either that is absent is empty. -/
def document (data : Json) (dryRun : Bool) : Import ImportStats := do
  let posts ← read (Record.getOr data "posts" (.array []))
  let files ← read (Record.getOr data "files" (.array []))
  let total := (← read (Record.count posts)) + (← read (Record.count files))
  count fun s => { s with total }
  unless dryRun do
    for v in ← read (Record.listOf data "teams") do team v
    for v in ← read (Record.listOf data "users") do user v
    for v in ← read (Record.listOf data "channels") do channel v
  for v in ← read (Record.elements posts) do post dryRun v
  for v in ← read (Record.elements files) do file dryRun v
  let stats := (← get).stats
  if 0 < stats.skipped then
    log .info ("import skipped malformed records count=".toList ++ Text.ofNat stats.skipped)
  pure stats

end Import

/-- Imports the text of an export into a store: the outcome, and the progress that was made. -/
def importExport (s : Store) (text : Text) (dryRun : Bool) :
    Except ImportError ImportStats × ImportProgress :=
  match Json.read text.unifyNewlines with
  | .error e => (.error (.document e), { store := s })
  | .ok data => (Import.document data dryRun).run { store := s }

end ChannelSearch
