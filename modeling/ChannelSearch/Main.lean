import ChannelSearch.Json.Reader
import ChannelSearch.Json.Writer
import ChannelSearch.Program.Run
import ChannelSearch.Store.Snapshot
import Std.Time.DateTime.Timestamp

/-!
The program. A store is kept in a file as a document of its tables.
-/

namespace ChannelSearch.Program

def environmentNames : List String :=
  ["SQLITE_PATH", "SEARCH_REPLICA_PATH", "DEFAULT_PER_PAGE", "LOG_LEVEL", "CHANNELS_BY_NAME",
    "USERS_BY_USERNAME"]

def readEnvironment : IO Environment := do
  let values ← environmentNames.mapM fun name => do
    pure ((← IO.getEnv name).map fun value => (name.toList, value.toList))
  pure (values.filterMap id)

/-- A file that holds the document of a store holds that store. -/
def contentOf (t : String) : FileContent :=
  match (Json.read t.toList).toOption.bind Store.ofJson? with
  | some s => .database s
  | none => .text t.toList

def loadFile (w : Workspace) (path : Text) : IO Workspace := do
  match ← (IO.FS.readFile (String.ofList path)).toBaseIO with
  | .ok t => pure (w.setFile path (contentOf t))
  | .error _ => pure w

def saveFile (path : Text) (content : FileContent) : IO Unit := do
  match content with
  | .text _ => pure ()
  | .database s =>
    let parent := FilePath.ofParts (FilePath.isAbsolute path) (FilePath.parts path).dropLast
    unless parent.isEmpty do IO.FS.createDirAll (String.ofList parent)
    IO.FS.writeFile (String.ofList path) (String.ofList s.toJson.write)

def levelName : LogLevel → String
  | .info => "INFO"
  | .warning => "WARNING"

def report (result : RunResult) : IO UInt32 := do
  let err ← IO.getStderr
  (← IO.getStdout).putStr (String.ofList result.output)
  for r in result.logs do
    err.putStrLn (levelName r.level ++ " " ++ String.ofList r.message)
  match result.outcome with
  | .ok () => pure 0
  | .error (.usage e) =>
    unless e.exitCode = 0 do err.putStrLn ("error: " ++ String.ofList e.message)
    pure e.exitCode.toUInt32
  | .error e =>
    err.putStrLn ("error: " ++ String.ofList e.message)
    pure 1

end ChannelSearch.Program

open ChannelSearch ChannelSearch.Program in
def main (args : List String) : IO UInt32 := do
  let args := args.map String.toList
  let now ← Std.Time.Timestamp.now
  let start : Workspace :=
    { environment := ← readEnvironment, now := now.toSecondsSinceUnixEpoch.val }
  let start ← loadFile start dotenvPath
  let start ← (inputPaths start args).foldlM loadFile start
  let (result, finish) := run start args
  for (path, content) in finish.files do
    saveFile path content
  report result
