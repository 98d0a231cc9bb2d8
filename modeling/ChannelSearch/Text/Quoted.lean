import ChannelSearch.Text.Basic
import ChannelSearch.Text.PrintTable

/-!
Quoted text for messages. Single quotes stand around it unless it holds a single quote and no double
one; what has no visible form is escaped, so a quoted text is always one line.
-/

namespace ChannelSearch

def isPrintable (c : Char) : Bool :=
  let n := c.toNat
  if n < 0x7f then 0x20 ≤ n else !unprintableRanges.any (·.contains n)

namespace Text

/-- The `width` low hexadecimal digits of `n`, in lower case. -/
def hex : Nat → Nat → Text
  | 0, _ => []
  | width + 1, n => hex width (n / 16) ++ [Nat.digitChar (n % 16)]

def quotedChar (mark c : Char) : Text :=
  let n := c.toNat
  if c = mark || c = '\\' then ['\\', c]
  else if c = '\t' then ['\\', 't']
  else if c = '\n' then ['\\', 'n']
  else if c = '\r' then ['\\', 'r']
  else if isPrintable c then [c]
  else if n < 0x100 then '\\' :: 'x' :: hex 2 n
  else if n < 0x10000 then '\\' :: 'u' :: hex 4 n
  else '\\' :: 'U' :: hex 8 n

/-- The quotation mark that a text is written between. -/
def quoteMark (t : Text) : Char :=
  if t.contains '\'' && !t.contains '"' then '"' else '\''

def quoted (t : Text) : Text :=
  let mark := quoteMark t
  mark :: (t.flatMap (quotedChar mark) ++ [mark])

end Text

end ChannelSearch
