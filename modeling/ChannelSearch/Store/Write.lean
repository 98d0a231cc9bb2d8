import ChannelSearch.Store.Basic
import ChannelSearch.Text.LetterCase

/-!
Writes. A row takes the place of the one with the same key, and a member is written once. A write that
is refused changes nothing.
-/

namespace ChannelSearch

inductive WriteError where
  | usernameTaken
  | integerOverflow
deriving DecidableEq, Repr

def WriteError.message : WriteError → Text
  | .usernameTaken => "UNIQUE constraint failed: users.username".toList
  | .integerOverflow => "Python int too large to convert to SQLite INTEGER".toList

/-- The row in place of the one with its key, or at the end. -/
def putRow {α : Type} (key : α → Text) (row : α) (rows : List α) : List α :=
  if rows.any fun r => key r = key row then rows.map fun r => if key r = key row then row else r
  else rows ++ [row]

def addRow {α : Type} [DecidableEq α] (row : α) (rows : List α) : List α :=
  if row ∈ rows then rows else rows ++ [row]

namespace Store

def requireFit (ns : List Int) : Except WriteError Unit :=
  if ns.all fitsStore then .ok () else .error .integerOverflow

def putTeam (s : Store) (t : Team) : Except WriteError Store := do
  requireFit [t.deleteAt]
  pure { s with teams := putRow Team.id t s.teams }

/-- User names are kept in lower case, and no two users share one. -/
def putUser (s : Store) (u : User) : Except WriteError Store := do
  requireFit [u.deleteAt]
  let u := { u with username := u.username.lower }
  if s.users.any fun v => v.id ≠ u.id && v.username = u.username then throw .usernameTaken
  pure { s with users := putRow User.id u s.users }

def addTeamMember (s : Store) (m : TeamMember) : Store :=
  { s with teamMembers := addRow m s.teamMembers }

/-- A channel without a name for display shows its name. -/
def putChannel (s : Store) (c : Channel) : Except WriteError Store := do
  requireFit [c.deleteAt]
  let c := if c.displayName.isEmpty then { c with displayName := c.name } else c
  pure { s with channels := putRow Channel.id c s.channels }

def addChannelMember (s : Store) (m : ChannelMember) : Store :=
  { s with channelMembers := addRow m s.channelMembers }

def putPost (s : Store) (p : Post) : Except WriteError Store := do
  requireFit [p.createAt, p.deleteAt]
  pure { s with posts := putRow Post.id p s.posts }

/-- The extension as given, or else what follows the last point of the name, in lower case. -/
def storedExtension (extension name : Text) : Text :=
  Text.lower (if extension.isEmpty then (name.afterLast? '.').getD [] else extension)

def putFile (s : Store) (f : FileInfo) : Except WriteError Store := do
  requireFit [f.createAt, f.deleteAt]
  let f := { f with extension := storedExtension f.extension f.name }
  pure { s with files := putRow FileInfo.id f s.files }

end Store

/-- The writes that a store takes. -/
inductive Write where
  | team (t : Team)
  | user (u : User)
  | teamMember (m : TeamMember)
  | channel (c : Channel)
  | channelMember (m : ChannelMember)
  | post (p : Post)
  | file (f : FileInfo)
deriving DecidableEq, Repr

def Store.write (s : Store) : Write → Except WriteError Store
  | .team t => s.putTeam t
  | .user u => s.putUser u
  | .teamMember m => .ok (s.addTeamMember m)
  | .channel c => s.putChannel c
  | .channelMember m => .ok (s.addChannelMember m)
  | .post p => s.putPost p
  | .file f => s.putFile f

/-- The store after a sequence of writes, whichever of them are refused. -/
def Store.writeAll (s : Store) (ws : List Write) : Store :=
  ws.foldl (fun s w => (s.write w).toOption.getD s) s

end ChannelSearch
