import ChannelSearch.Number.SignedWord
import ChannelSearch.Text.Basic

/-!
What is stored: teams, users, channels with their members, posts and files. Members may name teams,
users and channels that are not stored.
-/

namespace ChannelSearch

structure Team where
  id : Text
  name : Text
  deleteAt : Int := 0
deriving DecidableEq, Repr

structure User where
  id : Text
  username : Text
  deleteAt : Int := 0
deriving DecidableEq, Repr

structure TeamMember where
  teamId : Text
  userId : Text
deriving DecidableEq, Repr

structure Channel where
  id : Text
  teamId : Text := []
  name : Text
  displayName : Text := []
  kind : Text := ['O']
  deleteAt : Int := 0
deriving DecidableEq, Repr

structure ChannelMember where
  channelId : Text
  userId : Text
deriving DecidableEq, Repr

structure Post where
  id : Text
  channelId : Text
  userId : Text
  /-- The post that starts the thread, or nothing for a post that starts its own. -/
  rootId : Text := []
  message : Text
  kind : Text := []
  createAt : Int
  deleteAt : Int := 0
deriving DecidableEq, Repr

structure FileInfo where
  id : Text
  postId : Text := []
  channelId : Text
  creatorId : Text
  name : Text
  extension : Text := []
  content : Text := []
  createAt : Int
  deleteAt : Int := 0
deriving DecidableEq, Repr

structure Store where
  teams : List Team := []
  users : List User := []
  teamMembers : List TeamMember := []
  channels : List Channel := []
  channelMembers : List ChannelMember := []
  posts : List Post := []
  files : List FileInfo := []
deriving DecidableEq, Repr

/-- Integers are stored in 64 bits with a sign. -/
def fitsStore (n : Int) : Bool := SignedWord.holds 64 n

end ChannelSearch
