import ChannelSearch.Condition.Basic
import ChannelSearch.Tokens

/-!
The condition that search texts put on files. Every token matches anywhere in any of the columns; a
star is the escape mark of these patterns and is no part of a token.
-/

namespace ChannelSearch.Condition

variable {C : Type}

/-- The escape mark of file patterns. -/
def fileEscape : Char := '*'

/-- Any of the columns contains the token; no condition for a token without a visible character. -/
def containsAny? (columns : List C) (token : Text) : Option (Condition C) :=
  let clean := escapeWildcards ((token.trim (· = '"')).lower) [fileEscape]
  if Text.isBlankText clean then none
  else
    let pattern := '%' :: (clean ++ ['%'])
    some (.group .any (columns.map fun c => .test (.like (.lower c) fileEscape pattern)))

/-- The phrases of a text, then its words. -/
def fileTokens (t : Text) : List Text :=
  let (phrases, remainder) := t.extractPhrases
  phrases ++ remainder.words

/-- What the texts of a search ask of a file: any or all of the inclusions, and none of the
exclusions. -/
def ofFileTexts? (columns : List C) (terms excludedTerms : Text) (orTerms : Bool) :
    Option (Condition C) :=
  let included := (fileTokens terms).filterMap (containsAny? columns)
  let excluded := (fileTokens excludedTerms).filterMap fun token =>
    (containsAny? columns (token.dropLeading '-')).map .not
  let inclusion := if included.isEmpty then [] else [group (if orTerms then .any else .all) included]
  let exclusion := if excluded.isEmpty then [] else [group .all excluded]
  let groups := inclusion ++ exclusion
  if groups.isEmpty then none else some (.group .all groups)

end ChannelSearch.Condition
