import ChannelSearch.Text.Blank

/-!
What a search asks for: words and phrases, and filters on channels, authors, dates and file kinds.
-/

namespace ChannelSearch

structure SearchRequest where
  terms : Text := []
  excludedTerms : Text := []
  phrases : List Text := []
  excludedPhrases : List Text := []
  isHashtag : Bool := false
  orTerms : Bool := false
  inChannels : List Text := []
  excludedChannels : List Text := []
  fromUsers : List Text := []
  excludedUsers : List Text := []
  onDate : Text := []
  afterDate : Text := []
  beforeDate : Text := []
  /-- Seconds east of UTC. -/
  timeZoneOffset : Int := 0
  includeDeletedChannels : Bool := false
  /-- Search every channel, whoever is a member. -/
  searchWithoutUserId : Bool := false
  extensions : List Text := []
deriving DecidableEq, Repr

namespace SearchRequest

def hasText (r : SearchRequest) : Bool :=
  !r.terms.isBlankText || !r.excludedTerms.isBlankText ||
    !r.phrases.isEmpty || !r.excludedPhrases.isEmpty

/-- Filters that make a search of their own; file extensions do so only for files. -/
def hasFilters (r : SearchRequest) : Bool :=
  !r.inChannels.isEmpty || !r.excludedChannels.isEmpty ||
    !r.fromUsers.isEmpty || !r.excludedUsers.isEmpty ||
    !r.onDate.isEmpty || !r.afterDate.isEmpty || !r.beforeDate.isEmpty

def isEmpty (r : SearchRequest) : Bool := !(r.hasText || r.hasFilters)

end SearchRequest

end ChannelSearch
