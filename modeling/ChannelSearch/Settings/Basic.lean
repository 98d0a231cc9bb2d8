import ChannelSearch.Settings.Environment
import ChannelSearch.Text.Flag
import ChannelSearch.Text.Integer

/-!
The settings of the program, read from the environment and a settings file.
-/

namespace ChannelSearch

structure Settings where
  storePath : Text
  /-- Where searches read from, when it is not the store itself. -/
  replicaPath : Option Text
  perPage : Int
  logLevel : Text
  channelsByName : Bool
  usersByUsername : Bool
deriving DecidableEq, Repr

inductive SettingsError where
  | line (e : Environment.LineError)
  | nullCharacter
  | logLevel (given : Text)
  | perPage (e : IntegerError)
  | perPageNotPositive
deriving DecidableEq, Repr

def SettingsError.message : SettingsError → Text
  | .line e => e.message
  | .nullCharacter => Environment.LineError.message .nullCharacter
  | .logLevel given =>
    "LOG_LEVEL must be one of ['CRITICAL', 'DEBUG', 'ERROR', 'INFO', 'WARNING'], got ".toList ++
      given.quoted
  | .perPage e => e.message
  | .perPageNotPositive => "DEFAULT_PER_PAGE must be positive".toList

/-- A line without a name is an error of its own kind; a null character spoils a name or a value. -/
def SettingsError.ofLine : Environment.LineError → SettingsError
  | .emptyName => .line .emptyName
  | .nullCharacter => .nullCharacter

namespace Settings

def logLevels : List Text := ["CRITICAL", "DEBUG", "ERROR", "INFO", "WARNING"].map String.toList

/-- Any word but the true ones is false, even an empty one. -/
def flagOf (value : Option Text) (default : Bool) : Bool :=
  (value.map Text.meansTrue).getD default

def ofEnvironment (e : Environment) : Except SettingsError Settings := do
  let get := fun (name default : String) => (e.get? name.toList).getD default.toList
  let logLevel := (Text.strip (get "LOG_LEVEL" "INFO")).upper
  if !logLevels.contains logLevel then throw (.logLevel logLevel)
  let perPage ← (Text.readInteger (get "DEFAULT_PER_PAGE" "20")).mapError .perPage
  if perPage ≤ 0 then throw .perPageNotPositive
  let replica := Text.strip (get "SEARCH_REPLICA_PATH" "")
  pure
    { storePath := Text.strip (get "SQLITE_PATH" "data/likesearch.db")
      replicaPath := if replica.isEmpty then none else some replica
      perPage
      logLevel
      channelsByName := flagOf (e.get? "CHANNELS_BY_NAME".toList) true
      usersByUsername := flagOf (e.get? "USERS_BY_USERNAME".toList) true }

def load (e : Environment) (file : Option Text) : Except SettingsError Settings := do
  let e ← match file with
    | none => pure e
    | some t => (e.addFile t).mapError .ofLine
  ofEnvironment e

end Settings

end ChannelSearch
