import ChannelSearch.Json.Convert
import ChannelSearch.Request.Basic
import ChannelSearch.Text.Flag

/-!
A request as a list of named fields, as it arrives from outside. Reading is lenient about the kinds
of values and strict about names and truth values.
-/

namespace ChannelSearch

inductive RequestError where
  | unknownFilters (names : List Text)
  | notABoolean (name : Text) (value : Json)
  | conversion (e : ConversionError)
deriving Repr

def RequestError.message : RequestError → Text
  | .unknownFilters names => "unknown search filter(s): ".toList ++ Text.join ", ".toList names
  | .notABoolean name value =>
    "search filter ".toList ++ name ++ " expects a boolean, got ".toList ++ value.quoted
  | .conversion e => e.message

namespace SearchRequest

/-- The fields of a request. -/
inductive Field where
  | terms | excludedTerms
  | phrases | excludedPhrases
  | isHashtag | orTerms
  | inChannels | excludedChannels
  | fromUsers | excludedUsers
  | onDate | afterDate | beforeDate
  | timeZoneOffset
  | includeDeletedChannels | searchWithoutUserId
  | extensions
deriving DecidableEq, Repr

def Field.all : List Field :=
  [.terms, .excludedTerms, .phrases, .excludedPhrases, .isHashtag, .orTerms, .inChannels,
    .excludedChannels, .fromUsers, .excludedUsers, .onDate, .afterDate, .beforeDate,
    .timeZoneOffset, .includeDeletedChannels, .searchWithoutUserId, .extensions]

def Field.name : Field → Text
  | .terms => "terms".toList
  | .excludedTerms => "excluded_terms".toList
  | .phrases => "phrases".toList
  | .excludedPhrases => "excluded_phrases".toList
  | .isHashtag => "is_hashtag".toList
  | .orTerms => "or_terms".toList
  | .inChannels => "in_channels".toList
  | .excludedChannels => "excluded_channels".toList
  | .fromUsers => "from_users".toList
  | .excludedUsers => "excluded_users".toList
  | .onDate => "on_date".toList
  | .afterDate => "after_date".toList
  | .beforeDate => "before_date".toList
  | .timeZoneOffset => "time_zone_offset".toList
  | .includeDeletedChannels => "include_deleted_channels".toList
  | .searchWithoutUserId => "search_without_user_id".toList
  | .extensions => "extensions".toList

def Field.ofName? (name : Text) : Option Field := Field.all.find? (·.name = name)

def readFlag (name : Text) (value : Json) : Except RequestError Bool :=
  match value with
  | .null => .ok false
  | .bool b => .ok b
  | .int n => .ok (n ≠ 0)
  | .text t =>
    if t.meansTrue then .ok true
    else if t.meansFalse then .ok false
    else .error (.notABoolean name value)
  | _ => .error (.notABoolean name value)

/-- A text stands for the list of itself, an absent or empty value for the empty list. -/
def readList (value : Json) : Except RequestError (List Text) :=
  match value with
  | .text t => .ok [t]
  | v =>
    if v.isTruthy then (v.elements.mapError .conversion).map fun items => items.map Json.shown
    else .ok []

def readOffset (value : Json) : Except RequestError Int :=
  if value.isTruthy then value.toInteger.mapError .conversion else .ok 0

def readText : Json → Text
  | .null => []
  | v => v.shown

/-- The request with one field read from a value. -/
def set (r : SearchRequest) (field : Field) (value : Json) : Except RequestError SearchRequest :=
  match field with
  | .terms => .ok { r with terms := readText value }
  | .excludedTerms => .ok { r with excludedTerms := readText value }
  | .phrases => do pure { r with phrases := ← readList value }
  | .excludedPhrases => do pure { r with excludedPhrases := ← readList value }
  | .isHashtag => do pure { r with isHashtag := ← readFlag field.name value }
  | .orTerms => do pure { r with orTerms := ← readFlag field.name value }
  | .inChannels => do pure { r with inChannels := ← readList value }
  | .excludedChannels => do pure { r with excludedChannels := ← readList value }
  | .fromUsers => do pure { r with fromUsers := ← readList value }
  | .excludedUsers => do pure { r with excludedUsers := ← readList value }
  | .onDate => .ok { r with onDate := readText value }
  | .afterDate => .ok { r with afterDate := readText value }
  | .beforeDate => .ok { r with beforeDate := readText value }
  | .timeZoneOffset => do pure { r with timeZoneOffset := ← readOffset value }
  | .includeDeletedChannels => do
    pure { r with includeDeletedChannels := ← readFlag field.name value }
  | .searchWithoutUserId => do
    pure { r with searchWithoutUserId := ← readFlag field.name value }
  | .extensions => do pure { r with extensions := ← readList value }

/-- The value of a field, as it would be given from outside. -/
def get (r : SearchRequest) : Field → Json
  | .terms => .text r.terms
  | .excludedTerms => .text r.excludedTerms
  | .phrases => .array (r.phrases.map .text)
  | .excludedPhrases => .array (r.excludedPhrases.map .text)
  | .isHashtag => .bool r.isHashtag
  | .orTerms => .bool r.orTerms
  | .inChannels => .array (r.inChannels.map .text)
  | .excludedChannels => .array (r.excludedChannels.map .text)
  | .fromUsers => .array (r.fromUsers.map .text)
  | .excludedUsers => .array (r.excludedUsers.map .text)
  | .onDate => .text r.onDate
  | .afterDate => .text r.afterDate
  | .beforeDate => .text r.beforeDate
  | .timeZoneOffset => .int r.timeZoneOffset
  | .includeDeletedChannels => .bool r.includeDeletedChannels
  | .searchWithoutUserId => .bool r.searchWithoutUserId
  | .extensions => .array (r.extensions.map .text)

def fields (r : SearchRequest) : List (Text × Json) :=
  Field.all.map fun f => (f.name, r.get f)

def setNamed (r : SearchRequest) (given : Text × Json) : Except RequestError SearchRequest :=
  match Field.ofName? given.1 with
  | some field => r.set field given.2
  | none => .error (.unknownFilters [given.1])

/-- Every name is checked before any value; unknown ones are listed in the order of code points. -/
def ofFields (given : List (Text × Json)) : Except RequestError SearchRequest :=
  let unknown := (given.map (·.1)).filter fun name => (Field.ofName? name).isNone
  if unknown.isEmpty then given.foldlM setNamed {}
  else .error (.unknownFilters (unknown.mergeSort fun a b => !decide (b < a)))

end SearchRequest

end ChannelSearch
