import ChannelSearch.Json.Convert
import ChannelSearch.Json.Reader
import ChannelSearch.Store.Write

/-!
The records of an export: how a value is read as a team, a user, a channel, a post or a file. Text and
integers are converted from values of any kind; a post or a file that lacks a required field is no
record.
-/

namespace ChannelSearch

/-- Why an import stops. Kinds of values are given by name. -/
inductive ImportError where
  | document (e : Json.DocumentError)
  | conversion (e : ConversionError)
  | noFields (kind : Text)
  | missingKey (key : Text)
  | textIndex
  | listIndex
  | notSubscriptable (kind : Text)
  | write (e : WriteError)
deriving DecidableEq, Repr

def ImportError.message : ImportError → Text
  | .document e => e.message
  | .conversion e => e.message
  | .noFields kind => '\'' :: (kind ++ "' object has no attribute 'get'".toList)
  | .missingKey key => key.quoted
  | .textIndex => "string indices must be integers, not 'str'".toList
  | .listIndex => "list indices must be integers or slices, not str".toList
  | .notSubscriptable kind => '\'' :: (kind ++ "' object is not subscriptable".toList)
  | .write e => e.message

namespace Record

/-- The value of a key, or a default when the key is absent. Only an object has keys. -/
def getOr (v : Json) (key : String) (default : Json) : Except ImportError Json :=
  match v with
  | .object fields => .ok ((Json.field? fields key.toList).getD default)
  | v => .error (.noFields v.kindName)

def get (v : Json) (key : String) : Except ImportError Json := getOr v key .null

/-- The value of a key that must be there. -/
def require (v : Json) (key : String) : Except ImportError Json :=
  match v with
  | .object fields =>
    match Json.field? fields key.toList with
    | some value => .ok value
    | none => .error (.missingKey key.toList)
  | .text _ => .error .textIndex
  | .array _ => .error .listIndex
  | v => .error (.notSubscriptable v.kindName)

def textOr (v : Json) (key : String) (default : Text) : Except ImportError Text :=
  (getOr v key (.text default)).map Json.shown

def integer (v : Json) : Except ImportError Int := v.toInteger.mapError .conversion

def integerOr (v : Json) (key : String) (default : Int) : Except ImportError Int := do
  integer (← getOr v key (.int default))

def elements (v : Json) : Except ImportError (List Json) := v.elements.mapError .conversion

def count (v : Json) : Except ImportError Nat := v.length.mapError .conversion

/-- The members listed under a key; none when the key is absent. -/
def listOf (v : Json) (key : String) : Except ImportError (List Json) := do
  elements (← getOr v key (.array []))

/-- A team without a name is named by its id. -/
def team (v : Json) : Except ImportError Team := do
  let id ← require v "id"
  let name ← getOr v "name" id
  pure { id := id.shown, name := name.shown }

def user (v : Json) : Except ImportError User := do
  let id ← require v "id"
  let username ← require v "username"
  let deleteAt ← integerOr v "delete_at" 0
  pure { id := id.shown, username := username.shown, deleteAt }

def channel (v : Json) : Except ImportError Channel := do
  let id ← require v "id"
  let name ← require v "name"
  let teamId ← textOr v "team_id" []
  let displayName ← textOr v "display_name" []
  let kind ← textOr v "type" ['O']
  let deleteAt ← integerOr v "delete_at" 0
  pure { id := id.shown, name := name.shown, teamId, displayName, kind, deleteAt }

/-- The required fields of a post: id, channel, author and time. -/
def postKey? (v : Json) : Except ImportError (Option (Json × Json × Json × Json)) := do
  let id ← get v "id"
  let channelId ← get v "channel_id"
  let userId ← get v "user_id"
  let createAt ← get v "create_at"
  match createAt with
  | .null => pure none
  | _ =>
    if id.isTruthy && channelId.isTruthy && userId.isTruthy then
      pure (some (id, channelId, userId, createAt))
    else pure none

def post (v : Json) (key : Json × Json × Json × Json) : Except ImportError Post := do
  let (id, channelId, userId, createAt) := key
  let message ← textOr v "message" []
  let createAt ← integer createAt
  let rootId ← textOr v "root_id" []
  let kind ← textOr v "type" []
  let deleteAt ← integerOr v "delete_at" 0
  pure
    { id := id.shown, channelId := channelId.shown, userId := userId.shown, rootId, message, kind
      createAt, deleteAt }

/-- The required fields of a file: id, channel, creator, name and time. -/
def fileKey? (v : Json) : Except ImportError (Option (Json × Json × Json × Json × Json)) := do
  let id ← get v "id"
  let channelId ← get v "channel_id"
  let creatorId ← get v "creator_id"
  let name ← get v "name"
  let createAt ← get v "create_at"
  match createAt with
  | .null => pure none
  | _ =>
    if id.isTruthy && channelId.isTruthy && creatorId.isTruthy && name.isTruthy then
      pure (some (id, channelId, creatorId, name, createAt))
    else pure none

def file (v : Json) (key : Json × Json × Json × Json × Json) : Except ImportError FileInfo := do
  let (id, channelId, creatorId, name, createAt) := key
  let createAt ← integer createAt
  let postId ← textOr v "post_id" []
  let extension ← textOr v "extension" []
  let content ← textOr v "content" []
  let deleteAt ← integerOr v "delete_at" 0
  pure
    { id := id.shown, postId, channelId := channelId.shown, creatorId := creatorId.shown
      name := name.shown, extension, content, createAt, deleteAt }

end Record

end ChannelSearch
