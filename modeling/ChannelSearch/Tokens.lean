import ChannelSearch.Text.LetterCase
import ChannelSearch.Text.Phrase

/-!
The tokens that the texts of a search are matched by: phrases, words and hashtags, in lower case, with
the wildcards of patterns escaped.
-/

namespace ChannelSearch

/-- Escapes the wildcards of a pattern. Occurrences of the escape text are deleted first, so a text
that is escaped already stays as it is. -/
def escapeWildcards (term escape : Text) : Text :=
  ((term.erase escape).guardMark '%' escape).guardMark '_' escape

/-- The words that are hashtags: more than the mark alone. -/
def Text.hashtags (t : Text) : List Text :=
  t.words.filter fun word =>
    match word with
    | '#' :: _ :: _ => true
    | _ => false

structure Tokens where
  phrases : List Text := []
  terms : List Text := []
  excludedPhrases : List Text := []
  excludedTerms : List Text := []
  hashtags : List Text := []
deriving DecidableEq, Repr

namespace Tokens

def isEmpty (t : Tokens) : Bool :=
  t.phrases.isEmpty && t.terms.isEmpty && t.excludedPhrases.isEmpty && t.excludedTerms.isEmpty &&
    t.hashtags.isEmpty

/-- The escape mark of message patterns. -/
def messageEscape : Char := '\\'

def ofTexts (terms excludedTerms hashtagTerms : Text) (escape : Text := [messageEscape]) : Tokens :=
  let prepare := fun t : Text => escapeWildcards t.lower escape
  let included := Text.extractPhrases (prepare terms)
  let excluded := Text.extractPhrases (prepare excludedTerms)
  { phrases := included.1
    terms := Text.words included.2
    excludedPhrases := excluded.1
    excludedTerms := Text.words excluded.2
    hashtags := Text.hashtags (prepare hashtagTerms) }

end Tokens

end ChannelSearch
