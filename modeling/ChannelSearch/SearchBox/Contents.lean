import ChannelSearch.Request.Basic
import ChannelSearch.SearchBox.Token
import ChannelSearch.Text.LetterCase

/-!
Sorting the pieces of a search box text into words, excluded words, hashtags and filters, and the
requests they make: one for the words and one for the hashtags, with the same filters.
-/

namespace ChannelSearch.SearchBox

/-- A filter that is written as `name:value`. -/
inductive Flag where
  | fromUser | notFromUser
  | inChannel | notInChannel
  | extension
  | on | after | before
deriving DecidableEq, Repr

def Flag.ofName? (name : Text) : Option Flag :=
  if name = "from".toList then some .fromUser
  else if name = "-from".toList then some .notFromUser
  else if name = "in".toList || name = "channel".toList then some .inChannel
  else if name = "-in".toList || name = "-channel".toList then some .notInChannel
  else if name = "ext".toList then some .extension
  else if name = "on".toList then some .on
  else if name = "after".toList then some .after
  else if name = "before".toList then some .before
  else none

/-- The flag and the value that a piece sets. What starts like a phrase is none, closed or not. -/
def flagOf? (token : Text) : Option (Flag × Text) :=
  match token with
  | '"' :: _ => none
  | '-' :: '"' :: _ => none
  | _ => do
    let (name, value) ← token.cutAt? ':'
    let flag ← Flag.ofName? (Text.lower name)
    if (Text.strip value).isEmpty then none else some (flag, Text.strip value)

/-- A list filter collects its values, and of several dates of one kind the last one counts. Users are
named with or without the mention mark, in any case. -/
def setFlag (filters : SearchRequest) (flag : Flag) (value : Text) : SearchRequest :=
  match flag with
  | .fromUser => { filters with fromUsers := filters.fromUsers ++ [value.mentionKey] }
  | .notFromUser => { filters with excludedUsers := filters.excludedUsers ++ [value.mentionKey] }
  | .inChannel => { filters with inChannels := filters.inChannels ++ [value] }
  | .notInChannel => { filters with excludedChannels := filters.excludedChannels ++ [value] }
  | .extension => { filters with extensions := filters.extensions ++ [value] }
  | .on => { filters with onDate := value }
  | .after => { filters with afterDate := value }
  | .before => { filters with beforeDate := value }

structure Contents where
  terms : List Text := []
  excluded : List Text := []
  hashtags : List Text := []
  /-- A request that holds nothing but filters. -/
  filters : SearchRequest := {}
deriving DecidableEq, Repr

/-- Only quotes and white space. -/
def isBlankWord (t : Text) : Bool := (t.trim (· = '"')).isBlankText

def Contents.add (c : Contents) (token : Text) : Contents :=
  match flagOf? token with
  | some (flag, value) => { c with filters := setFlag c.filters flag value }
  | none =>
    match token with
    | '-' :: d :: rest => { c with excluded := c.excluded ++ [d :: rest] }
    | '#' :: _ :: _ => { c with hashtags := c.hashtags ++ [token] }
    | _ => if isBlankWord token then c else { c with terms := c.terms ++ [token] }

def Contents.ofTokens (tokens : List Token) : Contents :=
  tokens.foldl (fun c token => c.add token.text) {}

def Contents.ofText (t : Text) : Contents := .ofTokens (lex t.strip)

/-- No words and no filters of any kind. -/
def Contents.isEmpty (c : Contents) : Bool :=
  c.terms.isEmpty && c.hashtags.isEmpty && c.excluded.isEmpty && !c.filters.hasFilters &&
    c.filters.extensions.isEmpty

/-- Excluded words go with the first request only. -/
def Contents.requests (c : Contents) (timeZoneOffset : Int) : List SearchRequest :=
  if c.isEmpty then []
  else
    let space := [' ']
    let filters := { c.filters with timeZoneOffset }
    let excludedTerms := Text.join space c.excluded
    let words := { filters with terms := Text.join space c.terms, excludedTerms }
    let tags := { filters with terms := Text.join space c.hashtags, isHashtag := true }
    if c.hashtags.isEmpty then [words]
    else if c.terms.isEmpty then [{ tags with excludedTerms }]
    else [words, tags]

/-- The requests that a search box text makes; none when there is nothing to search for. -/
def parse (t : Text) (timeZoneOffset : Int) : List SearchRequest :=
  (Contents.ofText t).requests timeZoneOffset

end ChannelSearch.SearchBox
