import ChannelSearch.Condition.Basic
import ChannelSearch.Tokens

/-!
The condition that tokens put on a column of text. A word matches anywhere in the text; with a star at
its end it matches at the start of the text only. A word marked as a hashtag or a mention matches with
or without its mark.
-/

namespace ChannelSearch

/-- The pattern of a term. Phrases and marked words always match in the middle of a text. -/
def withWildcards (term : Text) (alwaysMiddle : Bool) : Text :=
  if term.getLast? ≠ some '*' || alwaysMiddle then '%' :: (term ++ ['%'])
  else term.dropLast ++ ['%']

def isMark (c : Char) : Bool := c = '#' || c = '@'

/-- Marked as a hashtag or a mention. -/
def isMarked (token : Text) : Bool :=
  match token with
  | c :: _ => isMark c
  | [] => false

/-- A token that asks for nothing. -/
def isBlankToken (token : Text) : Bool :=
  match token with
  | [] => true
  | [c] => c = '*' || isMark c
  | _ => false

namespace Condition

variable {C : Type}

/-- The column, or its lower case, matches a term of a message search. -/
def like (x : Sql.Operand C) (term : Text) (alwaysMiddle : Bool) : Condition C :=
  .test (.like x Tokens.messageEscape (withWildcards term alwaysMiddle))

def unlike (x : Sql.Operand C) (term : Text) (alwaysMiddle : Bool) : Condition C :=
  .test (.unlike x Tokens.messageEscape (withWildcards term alwaysMiddle))

def ofPhrases (x : Sql.Operand C) (phrases : List Text) : List (Condition C) :=
  phrases.filterMap fun phrase =>
    let clean := phrase.trim (· = '"')
    if clean.isBlankText then none else some (like x clean true)

def ofTerms (x : Sql.Operand C) (terms : List Text) : List (Condition C) :=
  terms.filterMap fun term =>
    if isBlankToken term then none
    else if isMarked term then some (.group .any [like x term true, like x (term.drop 1) true])
    else some (like x term false)

def ofHashtags (x : Sql.Operand C) (hashtags : List Text) : List (Condition C) :=
  hashtags.filterMap fun tag =>
    if tag.head? = some '#' && !isBlankToken tag then some (like x tag true) else none

def ofExcludedTerms (x : Sql.Operand C) (terms : List Text) : List (Condition C) :=
  terms.filterMap fun term =>
    let clean := term.dropLeading '-'
    if isBlankToken clean then none
    else if isMarked clean then
      some (.group .all [unlike x clean true, unlike x (clean.drop 1) true])
    else some (unlike x clean false)

def ofExcludedPhrases (x : Sql.Operand C) (phrases : List Text) : List (Condition C) :=
  phrases.filterMap fun phrase =>
    let clean := phrase.trim (· = '"')
    if clean.isBlankText then none else some (unlike x clean true)

/-- A list of conditions in brackets, unless it is empty. -/
def group? (op : Connective) (xs : List (Condition C)) : Option (Condition C) :=
  if xs.isEmpty then none else some (.group op xs)

/-- What tokens ask of a column: any or all of the inclusions, and all of the exclusions. There is no
condition when no token asks for anything. -/
def ofTokens? (tokens : Tokens) (column : C) (orTerms : Bool) : Option (Condition C) :=
  let x := Sql.Operand.lower column
  let included :=
    ofHashtags x tokens.hashtags ++ ofPhrases x tokens.phrases ++ ofTerms x tokens.terms
  let excluded :=
    ofExcludedTerms x tokens.excludedTerms ++ ofExcludedPhrases x tokens.excludedPhrases
  match group? (if orTerms then .any else .all) included, group? .all excluded with
  | some inclusion, some exclusion => some (.both inclusion exclusion)
  | some inclusion, none => some inclusion
  | none, exclusion => exclusion

end Condition

end ChannelSearch
