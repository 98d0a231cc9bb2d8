import ChannelSearch.Condition.Basic
import ChannelSearch.Request.Basic
import ChannelSearch.Text.Blank

/-!
The select of the channels that a search may read: those the user is a member of, and of these the ones
that the request names.
-/

namespace ChannelSearch

namespace ScopeQuery

inductive Column where
  | id | name | teamId | deleteAt | memberChannel | memberUser
deriving DecidableEq, Repr

def Column.text : Column → Text
  | .id => "channels.id".toList
  | .name => "channels.name".toList
  | .teamId => "channels.team_id".toList
  | .deleteAt => "channels.delete_at".toList
  | .memberChannel => "channel_members.channel_id".toList
  | .memberUser => "channel_members.user_id".toList

end ScopeQuery

structure ScopeQuery where
  /-- Whether channels are joined with their members. -/
  joinsMembers : Bool
  conditions : List (Condition ScopeQuery.Column)
deriving Repr

namespace ScopeQuery

/-- Channel names are listed with or without the channel mark. -/
def nameKey (name : Text) : Text := Text.strip (name.dropWhile (· = '~'))

/-- Channels without a team, such as direct messages, are searched from every team. -/
def teamConditions (teamId : Text) : List (Condition Column) :=
  if teamId.isEmpty then []
  else [.group .any [.test (.equals .teamId teamId), .test (.isEmpty .teamId)]]

def build (userId teamId : Text) (r : SearchRequest) (byName : Bool) : ScopeQuery :=
  let column := if byName then Column.name else Column.id
  let keys := fun channels : List Text => if byName then channels.map nameKey else channels
  let membership : List (Condition Column) :=
    if r.searchWithoutUserId then []
    else [.test (.sameAs .id .memberChannel), .test (.equals .memberUser userId)]
  let live : List (Condition Column) :=
    if r.includeDeletedChannels then [] else [.test (.isZero .deleteAt)]
  let included : List (Condition Column) :=
    if r.inChannels.isEmpty then [] else [.test (.oneOf column (keys r.inChannels))]
  let excluded : List (Condition Column) :=
    if r.excludedChannels.isEmpty then [] else [.test (.noneOf column (keys r.excludedChannels))]
  { joinsMembers := !r.searchWithoutUserId
    conditions := membership ++ live ++ teamConditions teamId ++ included ++ excluded }

def select (q : ScopeQuery) : Sql.Select :=
  { columns := [Column.id.text]
    source := if q.joinsMembers then "channels, channel_members".toList else "channels".toList
    wheres := Condition.clauses Column.text q.conditions
    distinct := true }

end ScopeQuery

end ChannelSearch
