import ChannelSearch.ChannelScope
import ChannelSearch.Condition.Limits

/-!
The selects of a page of posts and of a page of files: conditions on a row, newest first, and the part
of the list that makes the page.
-/

namespace ChannelSearch

structure PageQuery (C : Type) where
  conditions : List (Condition C)
  limit : Int
  offset : Option Int

namespace PageQuery

variable {C : Type}

def filter (q : PageQuery C) (xs : List (Condition C)) : PageQuery C :=
  { q with conditions := q.conditions ++ xs }

/-- Only rows whose channel is one of a list. -/
def within (q : PageQuery C) (column : C) (channelIds : List Text) : PageQuery C :=
  q.filter [.test (.oneOfJson column channelIds)]

end PageQuery

inductive PostColumn where
  | userId | message | kind | createAt | deleteAt | channelId
deriving DecidableEq, Repr

def PostColumn.name : PostColumn → Text
  | .userId => "q2.user_id".toList
  | .message => "q2.message".toList
  | .kind => "q2.type".toList
  | .createAt => "q2.create_at".toList
  | .deleteAt => "q2.delete_at".toList
  | .channelId => "q2.channel_id".toList

inductive FileColumn where
  | creatorId | name | content | extension | createAt | deleteAt | channelId
deriving DecidableEq, Repr

def FileColumn.text : FileColumn → Text
  | .creatorId => "f.creator_id".toList
  | .name => "f.name".toList
  | .content => "f.content".toList
  | .extension => "f.extension".toList
  | .createAt => "f.create_at".toList
  | .deleteAt => "f.delete_at".toList
  | .channelId => "f.channel_id".toList

abbrev PostQuery := PageQuery PostColumn

abbrev FileQuery := PageQuery FileColumn

/-- Counts the live posts of the thread of a post, its first post aside. -/
def replyCountColumn : Text :=
  ("(SELECT COUNT(*) FROM posts WHERE posts.root_id = " ++
    "(CASE WHEN q2.root_id = '' THEN q2.id ELSE q2.root_id END) " ++
    "AND posts.delete_at = 0) AS reply_count").toList

def PostQuery.select (q : PostQuery) : Sql.Select :=
  { columns := ["q2.*".toList, replyCountColumn]
    source := "posts q2".toList
    wheres := Condition.clauses PostColumn.name q.conditions
    orderBy := "q2.create_at DESC".toList
    limit := some q.limit
    offset := q.offset }

def FileQuery.select (q : FileQuery) : Sql.Select :=
  { columns := ["f.*".toList]
    source := "file_infos f".toList
    wheres := Condition.clauses FileColumn.text q.conditions
    orderBy := "f.create_at DESC".toList
    limit := some q.limit
    offset := q.offset }

end ChannelSearch
