import ChannelSearch.Search.Query
import ChannelSearch.Store.Basic

/-!
What a search reads from: something that answers the three selects, or fails.
-/

namespace ChannelSearch

/-- Failures of the store end in an empty page; an argument that the store cannot take does not. -/
inductive ReadError where
  | store (message : Text)
  | integerOverflow
deriving DecidableEq, Repr

structure PostRow where
  id : Text
  channelId : Text
  userId : Text
  rootId : Text
  message : Text
  kind : Text
  createAt : Int
  deleteAt : Int
  /-- The number of live posts that answer in its thread. -/
  replyCount : Int
deriving DecidableEq, Repr

structure FileRow where
  id : Text
  postId : Text
  channelId : Text
  creatorId : Text
  name : Text
  extension : Text
  createAt : Int
  deleteAt : Int
deriving DecidableEq, Repr

structure Reader where
  channels : ScopeQuery → Except ReadError (List Text)
  posts : PostQuery → Except ReadError (List PostRow)
  files : FileQuery → Except ReadError (List FileRow)

end ChannelSearch
