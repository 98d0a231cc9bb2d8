import ChannelSearch.Text.Blank

/-!
Foreign text for a log line: one line, and not too long.
-/

namespace ChannelSearch

def isControl (c : Char) : Bool := c.toNat < 0x20 || c.toNat = 0x7f

namespace Text

/-- Every run of control characters as one space. -/
def flattenControls (afterControl : Bool) : Text → Text
  | [] => []
  | c :: rest =>
    if isControl c then
      if afterControl then flattenControls true rest else ' ' :: flattenControls true rest
    else c :: flattenControls false rest

def maxLogged : Int := 200

/-- The text on one line, cut after `maxLength` characters. -/
def logLine (t : Text) (maxLength : Int := maxLogged) : Text :=
  let flat := (flattenControls false t).strip
  if maxLength < flat.length then flat.takeFrom maxLength ++ "...".toList else flat

end Text

end ChannelSearch
