import ChannelSearch.DateFilter
import ChannelSearch.Search.Reader
import ChannelSearch.Text.LogLine

/-!
What searches share: the pages they return, the ways they fail, cancellation, and the reading of the
channels in scope.
-/

namespace ChannelSearch

/-- One page of what was found, newest first. -/
structure Page (α : Type) where
  rows : List α := []
  page : Int
  perPage : Int
deriving Repr

inductive SearchError where
  | cancelled
  | noRequests
  | integerOverflow
  | date (e : DateError)
  | select (e : Sql.SelectError)
deriving DecidableEq, Repr

def SearchError.message : SearchError → Text
  | .cancelled => "search cancelled".toList
  | .noRequests => "list index out of range".toList
  | .integerOverflow => "Python int too large to convert to SQLite INTEGER".toList
  | .date e => e.message
  | .select e => e.message

/-- When a search is cancelled, if it is. -/
inductive Cancellation where
  | never
  | before
  | duringScope
deriving DecidableEq, Repr

/-- The two moments at which a search looks for its cancellation: before each of its reads. -/
inductive Checkpoint where
  | beforeScope
  | beforeMain
deriving DecidableEq, Repr

def Cancellation.seenAt : Cancellation → Checkpoint → Bool
  | .never, _ => false
  | .before, _ => true
  | .duringScope, .beforeScope => false
  | .duringScope, .beforeMain => true

def maxPerPage : Int := 60

def clampPerPage (perPage : Int) : Int :=
  if perPage ≤ 0 || maxPerPage < perPage then maxPerPage else perPage

/-- How channels and users are named in filters. -/
structure Lookup where
  channelsByName : Bool := false
  usersByUsername : Bool := false
deriving DecidableEq, Repr

/-- Who searches, from which team, and for which page. -/
structure SearchContext where
  userId : Text
  teamId : Text
  page : Int := 0
  perPage : Int := maxPerPage
  cancellation : Cancellation := .never
  /-- The present, in seconds. -/
  now : Int
deriving Repr

namespace SearchContext

def pageNumber (c : SearchContext) : Int := max c.page 0

def limit (c : SearchContext) : Int := clampPerPage c.perPage

def pageOf {α : Type} (c : SearchContext) (rows : List α) : Page α :=
  { rows, page := c.pageNumber, perPage := c.limit }

def emptyPage {α : Type} (c : SearchContext) : Page α := c.pageOf []

def check (c : SearchContext) (point : Checkpoint) : Traced SearchError Unit :=
  if c.cancellation.seenAt point then .fail .cancelled else pure ()

end SearchContext

/-- The first page has no offset. -/
def pageOffset (page limit : Int) : Option Int := if 0 < page then some (page * limit) else none

/-- The conditions on the author of a row. -/
def userConditions {C : Type} (column : C) (teamId : Text) (r : SearchRequest) (byUsername : Bool) :
    List (Condition C) :=
  match UserQuery.build? teamId r.fromUsers r.excludedUsers byUsername with
  | some q => [.isUserIn column q]
  | none => []

/-- The channels in scope; none when they cannot be read. -/
def visibleChannels (reader : Reader) (q : ScopeQuery) : Traced SearchError (List Text) := do
  let s ← .ofExcept (q.select.statement.mapError .select)
  Traced.tell (.sent .channels s)
  match reader.channels q with
  | .ok ids => pure ids
  | .error .integerOverflow => .fail .integerOverflow
  | .error (.store message) => do
    Traced.log .warning .scope ("search_channel_scope_failed error=".toList ++ message.logLine)
    pure []

end ChannelSearch
