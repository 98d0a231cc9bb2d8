import ChannelSearch.Json.Convert
import ChannelSearch.Store.Basic

/-!
The tables of a store as a document. Rows are ordered by their keys.
-/

namespace ChannelSearch

namespace Store

/-- A row with the names of its columns. -/
abbrev Row := List (Text × Json)

def row (columns : List (String × Json)) : Row := columns.map fun (name, v) => (name.toList, v)

def teamRow (t : Team) : Row :=
  row [("id", .text t.id), ("name", .text t.name), ("delete_at", .int t.deleteAt)]

def userRow (u : User) : Row :=
  row [("id", .text u.id), ("username", .text u.username), ("delete_at", .int u.deleteAt)]

def teamMemberRow (m : TeamMember) : Row :=
  row [("team_id", .text m.teamId), ("user_id", .text m.userId)]

def channelRow (c : Channel) : Row :=
  row [("id", .text c.id), ("team_id", .text c.teamId), ("name", .text c.name),
    ("display_name", .text c.displayName), ("type", .text c.kind), ("delete_at", .int c.deleteAt)]

def channelMemberRow (m : ChannelMember) : Row :=
  row [("channel_id", .text m.channelId), ("user_id", .text m.userId)]

def postRowOf (p : Post) : Row :=
  row [("id", .text p.id), ("channel_id", .text p.channelId), ("user_id", .text p.userId),
    ("root_id", .text p.rootId), ("message", .text p.message), ("type", .text p.kind),
    ("create_at", .int p.createAt), ("delete_at", .int p.deleteAt)]

def fileRowOf (f : FileInfo) : Row :=
  row [("id", .text f.id), ("post_id", .text f.postId), ("channel_id", .text f.channelId),
    ("creator_id", .text f.creatorId), ("name", .text f.name), ("extension", .text f.extension),
    ("content", .text f.content), ("create_at", .int f.createAt), ("delete_at", .int f.deleteAt)]

/-- Rows in the order of a key. -/
def sortedBy {α : Type} (key : α → Text) (rows : List α) : List α :=
  rows.mergeSort fun a b => !decide (key b < key a)

/-- Pairs in the order of the first and then of the second id. -/
def sortedPairs {α : Type} (first second : α → Text) (rows : List α) : List α :=
  sortedBy first (sortedBy second rows)

def tables (s : Store) : List (Text × List Row) :=
  [("teams".toList, (sortedBy Team.id s.teams).map teamRow),
    ("users".toList, (sortedBy User.id s.users).map userRow),
    ("team_members".toList,
      (sortedPairs TeamMember.teamId TeamMember.userId s.teamMembers).map teamMemberRow),
    ("channels".toList, (sortedBy Channel.id s.channels).map channelRow),
    ("channel_members".toList,
      (sortedPairs ChannelMember.channelId ChannelMember.userId s.channelMembers).map
        channelMemberRow),
    ("posts".toList, (sortedBy Post.id s.posts).map postRowOf),
    ("file_infos".toList, (sortedBy FileInfo.id s.files).map fileRowOf)]

def toJson (s : Store) : Json :=
  .object (s.tables.map fun (name, rows) => (name, .array (rows.map .object)))

/-- The columns of a stored row. -/
def textAt (v : Json) (name : String) : Option Text :=
  match v with
  | .object fields =>
    match Json.field? fields name.toList with
    | some (.text t) => some t
    | _ => none
  | _ => none

def intAt (v : Json) (name : String) : Option Int :=
  match v with
  | .object fields =>
    match Json.field? fields name.toList with
    | some (.int n) => some n
    | _ => none
  | _ => none

def rowsAt (v : Json) (name : String) : Option (List Json) :=
  match v with
  | .object fields =>
    match Json.field? fields name.toList with
    | some (.array items) => some items
    | _ => none
  | _ => none

def readTeam (v : Json) : Option Team := do
  pure { id := ← textAt v "id", name := ← textAt v "name", deleteAt := ← intAt v "delete_at" }

def readUser (v : Json) : Option User := do
  pure
    { id := ← textAt v "id", username := ← textAt v "username", deleteAt := ← intAt v "delete_at" }

def readTeamMember (v : Json) : Option TeamMember := do
  pure { teamId := ← textAt v "team_id", userId := ← textAt v "user_id" }

def readChannel (v : Json) : Option Channel := do
  pure
    { id := ← textAt v "id", teamId := ← textAt v "team_id", name := ← textAt v "name"
      displayName := ← textAt v "display_name", kind := ← textAt v "type"
      deleteAt := ← intAt v "delete_at" }

def readChannelMember (v : Json) : Option ChannelMember := do
  pure { channelId := ← textAt v "channel_id", userId := ← textAt v "user_id" }

def readPost (v : Json) : Option Post := do
  pure
    { id := ← textAt v "id", channelId := ← textAt v "channel_id", userId := ← textAt v "user_id"
      rootId := ← textAt v "root_id", message := ← textAt v "message", kind := ← textAt v "type"
      createAt := ← intAt v "create_at", deleteAt := ← intAt v "delete_at" }

def readFile (v : Json) : Option FileInfo := do
  pure
    { id := ← textAt v "id", postId := ← textAt v "post_id", channelId := ← textAt v "channel_id"
      creatorId := ← textAt v "creator_id", name := ← textAt v "name"
      extension := ← textAt v "extension", content := ← textAt v "content"
      createAt := ← intAt v "create_at", deleteAt := ← intAt v "delete_at" }

/-- The store that a document holds, if it is one. -/
def ofJson? (v : Json) : Option Store := do
  pure
    { teams := ← (← rowsAt v "teams").mapM readTeam
      users := ← (← rowsAt v "users").mapM readUser
      teamMembers := ← (← rowsAt v "team_members").mapM readTeamMember
      channels := ← (← rowsAt v "channels").mapM readChannel
      channelMembers := ← (← rowsAt v "channel_members").mapM readChannelMember
      posts := ← (← rowsAt v "posts").mapM readPost
      files := ← (← rowsAt v "file_infos").mapM readFile }

end Store

end ChannelSearch
