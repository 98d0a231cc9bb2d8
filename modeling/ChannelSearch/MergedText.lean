import ChannelSearch.Request.Basic
import ChannelSearch.Text.Phrase

/-!
The texts of several requests as one: words and phrases, exclusions, and hashtags. Explicit phrases are
quoted, so that they are found again as phrases.
-/

namespace ChannelSearch

structure MergedText where
  terms : Text := []
  excludedTerms : Text := []
  hashtagTerms : Text := []
deriving DecidableEq, Repr

namespace MergedText

def isEmpty (m : MergedText) : Bool :=
  m.terms.isEmpty && m.excludedTerms.isEmpty && m.hashtagTerms.isEmpty

/-- A phrase without the quotes and the white space around it. -/
def bare (phrase : Text) : Text := Text.strip (phrase.filter (· ≠ '"'))

/-- The phrases with something in them, in quotes. -/
def quotePhrases (phrases : List Text) : List Text :=
  ((phrases.map bare).filter (· ≠ [])).map Text.inQuotes

/-- A text that is not blank, without the white space around it. -/
def nonBlank (t : Text) : List Text := if t.isBlankText then [] else [t.strip]

/-- The words of a request and its explicit phrases; hashtags are collected apart. -/
def termsOf (r : SearchRequest) : List Text :=
  (if r.isHashtag then [] else nonBlank r.terms) ++ quotePhrases r.phrases

def excludedOf (r : SearchRequest) : List Text :=
  nonBlank r.excludedTerms ++ quotePhrases r.excludedPhrases

def hashtagsOf (r : SearchRequest) : List Text :=
  if r.isHashtag then (r.terms.splitWhere (· = ' ')).filter (· ≠ []) else []

def ofRequests (requests : List SearchRequest) : MergedText :=
  { terms := Text.join [' '] (requests.flatMap termsOf)
    excludedTerms := Text.join [' '] (requests.flatMap excludedOf)
    hashtagTerms := Text.join [' '] (requests.flatMap hashtagsOf) }

end MergedText

end ChannelSearch
