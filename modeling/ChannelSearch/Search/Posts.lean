import ChannelSearch.Condition.Words
import ChannelSearch.MergedText
import ChannelSearch.Search.Page

/-!
Searching posts: live posts that are not written by the system, in the channels of the user.
-/

namespace ChannelSearch

/-- The kinds of posts that the system writes. -/
def systemKindPattern : Text := "system\\_%".toList

namespace PostQuery

/-- The condition of the merged texts of all requests; words may match any or all. -/
def textCondition? (requests : List SearchRequest) (orTerms : Bool) :
    Option (Condition PostColumn) :=
  let merged := MergedText.ofRequests requests
  if merged.isEmpty then none
  else
    Condition.ofTokens? (.ofTexts merged.terms merged.excludedTerms merged.hashtagTerms)
      .message orTerms

/-- Channel, author and date filters come from the first request, texts from all of them. There is
nothing to select when no text asks for anything and no filter is set. -/
def build? (teamId : Text) (requests : List SearchRequest) (page limit : Int) (byUsername : Bool)
    (now : Int) : Traced SearchError (Option PostQuery) :=
  match requests with
  | [] => .fail .noRequests
  | first :: _ => do
    let dates ← (first.dateConditions now PostColumn.createAt).mapError .date
    let text := textCondition? requests first.orTerms
    if text.isNone && !first.hasFilters then pure none
    else
      let live : List (Condition PostColumn) :=
        [.test (.isZero .deleteAt),
          .test (.unlike (.column .kind) Tokens.messageEscape systemKindPattern)]
      pure (some
        { conditions :=
            live ++ userConditions .userId teamId first byUsername ++ dates ++ text.toList
          limit
          offset := pageOffset page limit })

end PostQuery

/-- Reads the page of a query, within the channels in scope. -/
def readPosts (reader : Reader) (c : SearchContext) (q : PostQuery) :
    Traced SearchError (Page PostRow) := do
  let s ← .ofExcept ((PostQuery.select q).statement.mapError .select)
  c.check .beforeMain
  Traced.tell (.sent .posts s)
  match reader.posts q with
  | .ok rows => pure (c.pageOf (rows.filter (·.deleteAt = 0)))
  | .error .integerOverflow => .fail .integerOverflow
  | .error (.store message) => do
    Traced.log .warning .posts ("search_posts_query_failed error=".toList ++ message.logLine)
    pure c.emptyPage

def searchPosts (reader : Reader) (lookup : Lookup) (c : SearchContext)
    (requests : List SearchRequest) : Traced SearchError (Page PostRow) :=
  match requests with
  | [] => pure c.emptyPage
  | first :: _ =>
    if requests.all (·.isEmpty) then pure c.emptyPage
    else do
      match ← PostQuery.build? c.teamId requests c.pageNumber c.limit lookup.usersByUsername c.now with
      | none => pure c.emptyPage
      | some q =>
        c.check .beforeScope
        let ids ← visibleChannels reader
          (ScopeQuery.build c.userId c.teamId first lookup.channelsByName)
        if ids.isEmpty then pure c.emptyPage else readPosts reader c (q.within .channelId ids)

end ChannelSearch
