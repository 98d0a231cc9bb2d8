import ChannelSearch.Condition.FileWords
import ChannelSearch.MergedText
import ChannelSearch.Search.Page

/-!
Searching files by name and content: live files in the channels of the user.
-/

namespace ChannelSearch

/-- An extension as it is stored, whether or not it is written with its point. -/
def extensionKey (extension : Text) : Text := Text.lower (extension.dropWhile (· = '.'))

namespace FileQuery

/-- The columns that words are looked for in. -/
def textColumns : List FileColumn := [.name, .content]

/-- Hashtags have no meaning for files and count as words. -/
def textCondition? (requests : List SearchRequest) (orTerms : Bool) :
    Option (Condition FileColumn) :=
  let merged := MergedText.ofRequests requests
  let words := Text.join [' '] ([merged.terms, merged.hashtagTerms].filter (· ≠ []))
  Condition.ofFileTexts? textColumns words merged.excludedTerms orTerms

def extensionConditions (r : SearchRequest) : List (Condition FileColumn) :=
  if r.extensions.isEmpty then [] else [.test (.oneOf .extension (r.extensions.map extensionKey))]

/-- Filters come from the first request, texts from all of them. -/
def build? (c : SearchContext) (first : SearchRequest) (requests : List SearchRequest)
    (byUsername : Bool) : Traced SearchError (Option FileQuery) := do
  let dates ← (first.dateConditions c.now FileColumn.createAt).mapError .date
  let text := textCondition? requests first.orTerms
  if text.isNone && !first.hasFilters && first.extensions.isEmpty then pure none
  else
    let live : List (Condition FileColumn) := [.test (.isZero .deleteAt)]
    pure (some
      { conditions :=
          live ++ userConditions .creatorId c.teamId first byUsername ++ dates ++
            extensionConditions first ++ text.toList
        limit := c.limit
        offset := pageOffset c.pageNumber c.limit })

end FileQuery

/-- Reads the page of a query, within the channels in scope. -/
def readFiles (reader : Reader) (c : SearchContext) (q : FileQuery) :
    Traced SearchError (Page FileRow) := do
  let s ← .ofExcept ((FileQuery.select q).statement.mapError .select)
  c.check .beforeMain
  Traced.tell (.sent .files s)
  match reader.files q with
  | .ok rows => pure (c.pageOf (rows.filter (·.deleteAt = 0)))
  | .error .integerOverflow => .fail .integerOverflow
  | .error (.store message) => do
    Traced.log .warning .files ("search_files_query_failed error=".toList ++ message.logLine)
    pure c.emptyPage

def searchFiles (reader : Reader) (lookup : Lookup) (c : SearchContext)
    (requests : List SearchRequest) : Traced SearchError (Page FileRow) :=
  match requests with
  | [] => pure c.emptyPage
  | first :: _ =>
    if requests.all fun r => r.isEmpty && r.extensions.isEmpty then pure c.emptyPage
    else do
      match ← FileQuery.build? c first requests lookup.usersByUsername with
      | none => pure c.emptyPage
      | some q =>
        c.check .beforeScope
        let ids ← visibleChannels reader
          (ScopeQuery.build c.userId c.teamId first lookup.channelsByName)
        if ids.isEmpty then pure c.emptyPage else readFiles reader c (q.within .channelId ids)

end ChannelSearch
