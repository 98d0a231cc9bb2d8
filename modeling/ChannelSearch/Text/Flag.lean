import ChannelSearch.Text.Blank
import ChannelSearch.Text.LetterCase

/-!
The words that stand for true and for false, in any letter case and with blanks around them.
-/

namespace ChannelSearch.Text

def trueWords : List Text := ["1", "true", "yes", "on"].map String.toList

def falseWords : List Text := ["", "0", "false", "no", "off"].map String.toList

def meansTrue (t : Text) : Bool := trueWords.contains t.strip.lower

def meansFalse (t : Text) : Bool := falseWords.contains t.strip.lower

end ChannelSearch.Text
