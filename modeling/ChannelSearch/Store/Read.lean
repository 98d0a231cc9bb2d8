import ChannelSearch.Search.Reader

/-!
The answers of a store to the selects of a search.
-/

namespace ChannelSearch

namespace User

/-- The columns of a user joined with a member of a team. -/
def values (u : User) (m : TeamMember) : UserQuery.Column → Sql.Value
  | .id => .text u.id
  | .username => .text u.username
  | .memberTeam => .text m.teamId
  | .memberUser => .text m.userId

end User

namespace Channel

/-- The columns of a channel joined with one of the members of channels. -/
def values (c : Channel) (m : ChannelMember) : ScopeQuery.Column → Sql.Value
  | .id => .text c.id
  | .name => .text c.name
  | .teamId => .text c.teamId
  | .deleteAt => .int c.deleteAt
  | .memberChannel => .text m.channelId
  | .memberUser => .text m.userId

end Channel

def Post.values (p : Post) : PostColumn → Sql.Value
  | .userId => .text p.userId
  | .message => .text p.message
  | .kind => .text p.kind
  | .createAt => .int p.createAt
  | .deleteAt => .int p.deleteAt
  | .channelId => .text p.channelId

def FileInfo.values (f : FileInfo) : FileColumn → Sql.Value
  | .creatorId => .text f.creatorId
  | .name => .text f.name
  | .content => .text f.content
  | .extension => .text f.extension
  | .createAt => .int f.createAt
  | .deleteAt => .int f.deleteAt
  | .channelId => .text f.channelId

def FileInfo.row (f : FileInfo) : FileRow :=
  { id := f.id, postId := f.postId, channelId := f.channelId, creatorId := f.creatorId
    name := f.name, extension := f.extension, createAt := f.createAt, deleteAt := f.deleteAt }

namespace PageQuery

variable {C : Type}

/-- The rows that make the page: newest first, rows of one time in their stored order. -/
def page {α : Type} (q : PageQuery C) (createAt : α → Int) (rows : List α) : List α :=
  let sorted := rows.mergeSort fun a b => createAt b ≤ createAt a
  let rest := sorted.drop (q.offset.getD 0).toNat
  if q.limit < 0 then rest else rest.take q.limit.toNat

/-- Conditions without a pattern are decided before those with one. -/
def inOrder (q : PageQuery C) : List (Condition C) :=
  q.conditions.filter (fun x => !x.hasPattern) ++ q.conditions.filter Condition.hasPattern

/-- The height of the conditions; a select inside them counts on top of the whole. -/
def height (q : PageQuery C) : Nat :=
  Condition.chainHeight (Condition.heights q.conditions) + Condition.nestingOfAll q.conditions

/-- What the store checks before it reads any row. -/
def check (q : PageQuery C) (args : List Json) : Except ReadError Unit :=
  if Condition.maxHeight < q.height then
    .error (.store "Expression tree is too large (maximum depth 1000)".toList)
  else if args.any fun | .int n => !fitsStore n | _ => false then .error .integerOverflow
  else .ok ()

/-- The rows that satisfy all conditions, unless a pattern turns out too long on the way. -/
def hits {α : Type} (q : PageQuery C) (users : UserQuery → List Text)
    (values : α → C → Sql.Value) (rows : List α) : Except ReadError (List α) :=
  if rows.any fun r => Condition.allMeetOverlong users (values r) q.inOrder then
    .error (.store "LIKE or GLOB pattern too complex".toList)
  else .ok (rows.filter fun r => Condition.holdsAll users (values r) q.conditions)

end PageQuery

namespace Store

/-- The ids of the users that satisfy all tests, alone or joined with the members of teams. -/
def userIds (s : Store) (q : UserQuery) : List Text :=
  let members := if q.joinsTeams then s.teamMembers else [⟨[], []⟩]
  s.users.flatMap fun u =>
    (members.filter fun m => q.tests.all (·.holds (u.values m))).map fun _ => u.id

/-- The ids of the channels that satisfy all conditions, each once. -/
def channelIds (s : Store) (q : ScopeQuery) : List Text :=
  let members := if q.joinsMembers then s.channelMembers else [⟨[], []⟩]
  (s.channels.filter fun c =>
    members.any fun m => Condition.holdsAll s.userIds (c.values m) q.conditions).map Channel.id |>.eraseDups

/-- A thread is named by its first post. -/
def replyCount (s : Store) (p : Post) : Nat :=
  let thread := if p.rootId.isEmpty then p.id else p.rootId
  (s.posts.filter fun r => r.rootId = thread && r.deleteAt = 0).length

def postRow (s : Store) (p : Post) : PostRow :=
  { id := p.id, channelId := p.channelId, userId := p.userId, rootId := p.rootId
    message := p.message, kind := p.kind, createAt := p.createAt, deleteAt := p.deleteAt
    replyCount := s.replyCount p }

def readPosts (s : Store) (q : PostQuery) : Except ReadError (List PostRow) := do
  q.check (PostQuery.select q).clause.args
  let hits ← q.hits s.userIds Post.values s.posts
  pure ((q.page Post.createAt hits).map s.postRow)

def readFiles (s : Store) (q : FileQuery) : Except ReadError (List FileRow) := do
  q.check (FileQuery.select q).clause.args
  let hits ← q.hits s.userIds FileInfo.values s.files
  pure ((q.page FileInfo.createAt hits).map FileInfo.row)

/-- Channels read from one store and posts and files from another. -/
def readerOf (scope main : Store) : Reader :=
  { channels := fun q => .ok (scope.channelIds q)
    posts := main.readPosts
    files := main.readFiles }

def reader (s : Store) : Reader := readerOf s s

end Store

end ChannelSearch
