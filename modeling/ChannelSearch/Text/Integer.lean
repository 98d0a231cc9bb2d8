import ChannelSearch.Text.Blank
import ChannelSearch.Text.Quoted
import ChannelSearch.Text.DigitTable

/-!
Integers written as text: an optional sign, decimal digits of any script, single underscores between
digits, and white space around the whole.
-/

namespace ChannelSearch

inductive IntegerError where
  | notAnInteger (text : Text)
  | tooManyDigits (count : Nat)
deriving DecidableEq, Repr

def IntegerError.message : IntegerError → Text
  | .notAnInteger t =>
    "invalid literal for int() with base 10: ".toList ++ t.quoted.take 200
  | .tooManyDigits count =>
    "Exceeds the limit (4300 digits) for integer string conversion: value has ".toList ++
      Text.ofNat count ++ " digits; use sys.set_int_max_str_digits() to increase the limit".toList

/-- The value of a decimal digit of any script. -/
def decimalDigit? (c : Char) : Option Nat :=
  let n := c.toNat
  (digitZeros.find? fun z => z ≤ n && n < z + 10).map (n - ·)

namespace Text

/-- Space around a number: white space other than the four record separators. -/
def isNumberBlank (c : Char) : Bool := isBlank c && !(28 ≤ c.toNat && c.toNat ≤ 31)

/-- The number that a list of digit values spells. -/
def ofDigits (digits : List Nat) : Nat := digits.foldl (fun n d => 10 * n + d) 0

/-- More digits than this are refused. -/
def maxIntegerDigits : Nat := 4300

/-- An unsigned number: groups of digits with one underscore between neighbours. -/
def readUnsigned (whole t : Text) : Except IntegerError Nat :=
  let isPart := fun c => (decimalDigit? c).isSome || c = '_'
  let run := t.takeWhile isPart
  if (splitWhere (· = '_') run).any List.isEmpty then throw (.notAnInteger whole)
  else
    let digits := run.filterMap decimalDigit?
    if maxIntegerDigits < digits.length then throw (.tooManyDigits digits.length)
    else if t.dropWhile isPart ≠ [] then throw (.notAnInteger whole)
    else pure (ofDigits digits)

def readInteger (t : Text) : Except IntegerError Int :=
  match t.trim isNumberBlank with
  | '-' :: rest => (readUnsigned t rest).map fun n => -(n : Int)
  | '+' :: rest => (readUnsigned t rest).map Int.ofNat
  | body => (readUnsigned t body).map Int.ofNat

end Text

end ChannelSearch
