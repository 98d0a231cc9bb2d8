import ChannelSearch.Text.Basic
import ChannelSearch.Text.LowerTable
import ChannelSearch.Text.UpperTable

/-!
Lower and upper case of text. The lower-case form of a capital sigma depends on its place in the
word; every other letter is mapped on its own.
-/

namespace ChannelSearch

/-- A letter with case, other than those that the final-sigma rule looks past. -/
def isCased (c : Char) : Bool :=
  if c.toNat < 0x80 then c.isAlpha else casedRanges.any (·.contains c.toNat)

/-- In ASCII these are the apostrophe, the point, the colon, the circumflex and the grave accent. -/
def isCaseIgnorable (c : Char) : Bool :=
  let n := c.toNat
  if n < 0x80 then n = 0x27 || n = 0x2e || n = 0x3a || n = 0x5e || n = 0x60
  else caseIgnorableRanges.any (·.contains n)

def lowerLetter (c : Char) : Text :=
  if c.toNat < 0x80 then [c.toLower]
  else if c = '\u0130' then ['i', '\u0307']
  else [Char.ofNat (CaseRun.applyAll lowerRuns c.toNat)]

def upperLetter (c : Char) : Text :=
  if c.toNat < 0x80 then [c.toUpper]
  else
    match upperExpansions.lookup c.toNat with
    | some codes => codes.map Char.ofNat
    | none => [Char.ofNat (CaseRun.applyAll upperRuns c.toNat)]

namespace Text

/-- Whether a word goes on with a letter, marks aside. -/
def continuesWord (t : Text) : Bool :=
  match t.dropWhile isCaseIgnorable with
  | [] => false
  | c :: _ => isCased c

/-- Lower case after a text whose last character, marks aside, is a letter or not. A capital sigma
that ends a word becomes a final one. -/
def lowerAfter (letterBefore : Bool) : Text → Text
  | [] => []
  | c :: rest =>
    let image :=
      if c = 'Σ' then [if letterBefore && !continuesWord rest then 'ς' else 'σ'] else lowerLetter c
    image ++ lowerAfter (if isCaseIgnorable c then letterBefore else isCased c) rest

def lower (t : Text) : Text := lowerAfter false t

def upper (t : Text) : Text := t.flatMap upperLetter

/-- A user name without the marks of a mention, in lower case. -/
def mentionKey (t : Text) : Text := lower (t.dropWhile (· = '@'))

end Text

end ChannelSearch
