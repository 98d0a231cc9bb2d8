import ChannelSearch.Text.Basic

/-!
White space: the Unicode spaces, the ASCII controls that separate lines or records, and the next-line
character. Zero-width characters are not white space.
-/

namespace ChannelSearch

def isBlank (c : Char) : Bool :=
  let n := c.toNat
  (9 ≤ n && n ≤ 13) || (28 ≤ n && n ≤ 32) || n = 0x85 || n = 0xa0 || n = 0x1680 ||
    (0x2000 ≤ n && n ≤ 0x200a) || n = 0x2028 || n = 0x2029 || n = 0x202f || n = 0x205f || n = 0x3000

namespace Text

def strip (t : Text) : Text := t.trim isBlank

/-- Only white space, or nothing. -/
def isBlankText (t : Text) : Bool := t.all isBlank

/-- The maximal runs of characters that are not white space. -/
def words (t : Text) : List Text :=
  (t.splitWhere isBlank).filter (· ≠ [])

/-- A break that ends a line of a text file: line feeds, form feeds, the record separators, and the
Unicode line and paragraph separators. -/
def isLineBreak (c : Char) : Bool :=
  let n := c.toNat
  (10 ≤ n && n ≤ 13) || (28 ≤ n && n ≤ 30) || n = 0x85 || n = 0x2028 || n = 0x2029

/-- Reads every way of ending a line, carriage returns included, as one line feed. -/
def unifyNewlines : Text → Text
  | [] => []
  | '\r' :: '\n' :: rest => '\n' :: unifyNewlines rest
  | '\r' :: rest => '\n' :: unifyNewlines rest
  | c :: rest => c :: unifyNewlines rest

end Text

end ChannelSearch
