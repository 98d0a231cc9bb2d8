import ChannelSearch.Sql.Select
import ChannelSearch.Sql.Test

/-!
The select of user ids that a filter on authors stands for: users on two lists of ids or names, and
of one team when a team is given.
-/

namespace ChannelSearch

namespace UserQuery

inductive Column where
  | id | username | memberTeam | memberUser
deriving DecidableEq, Repr

def Column.name : Column → Text
  | .id => "users.id".toList
  | .username => "users.username".toList
  | .memberTeam => "team_members.team_id".toList
  | .memberUser => "team_members.user_id".toList

end UserQuery

structure UserQuery where
  /-- Whether users are joined with the members of teams. -/
  joinsTeams : Bool
  tests : List (Sql.Test UserQuery.Column)
deriving Repr

namespace UserQuery

/-- Authors on the first list if it names any, and not on the second; no select without either. -/
def build? (teamId : Text) (fromUsers excludedUsers : List Text) (byUsername : Bool) :
    Option UserQuery :=
  if fromUsers.isEmpty && excludedUsers.isEmpty then none
  else
    let column := if byUsername then Column.username else Column.id
    let keys := fun users : List Text => if byUsername then users.map Text.mentionKey else users
    let team :=
      if teamId.isEmpty then []
      else [.equals .memberTeam teamId, .sameAs .id .memberUser]
    let included := if fromUsers.isEmpty then [] else [.oneOf column (keys fromUsers)]
    let excluded := if excludedUsers.isEmpty then [] else [.noneOf column (keys excludedUsers)]
    some { joinsTeams := !teamId.isEmpty, tests := team ++ included ++ excluded }

def select (q : UserQuery) : Sql.Select :=
  { columns := [Column.id.name]
    source := if q.joinsTeams then "users, team_members".toList else "users".toList
    wheres := q.tests.map (·.clause Column.name) }

end UserQuery

end ChannelSearch
