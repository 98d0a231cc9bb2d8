import ChannelSearch.Calendar.Date
import ChannelSearch.Number.Binary64
import ChannelSearch.Number.SignedWord

/-!
The UTC date and time of an instant in milliseconds, to the minute. The instant is rounded to a binary
number of seconds first and then to microseconds.
-/

namespace ChannelSearch

inductive MomentError where
  | tooLarge
  | outOfSeconds
  | yearOverflow
  | yearOutOfRange (year : Int)
deriving DecidableEq, Repr

def MomentError.message : MomentError → Text
  | .tooLarge => "integer division result too large for a float".toList
  | .outOfSeconds => "timestamp out of range for platform time_t".toList
  | .yearOverflow => "[Errno 75] Value too large for defined data type".toList
  | .yearOutOfRange year => "year ".toList ++ Text.ofInt year ++ " is out of range".toList

namespace Moment

/-- The whole number nearest to the binary number that a quotient is rounded to. -/
def nearestWhole (x : Ratio) : Nat :=
  match Binary64.ofRatio false x with
  | .finite _ mantissa exponent => (Binary64.magnitude mantissa exponent).round
  | _ => 0

/-- Microseconds of a positive fraction of a second, rounded as a binary product first. -/
def microseconds (fraction : Ratio) : Nat :=
  nearestWhole ⟨fraction.num * 1000000, fraction.den⟩

/-- The whole second that an instant lies in, after rounding to microseconds. -/
def second (millis : Int) : Except MomentError Int :=
  match Binary64.ofRatio (millis < 0) ⟨millis.natAbs, 1000⟩ with
  | .finite negative mantissa exponent =>
    let x := Binary64.magnitude mantissa exponent
    let micros := microseconds ⟨x.num % x.den, x.den⟩
    let whole : Int := x.floor
    .ok (if negative then -whole - (if micros = 0 then 0 else 1)
      else whole + (micros / 1000000 : Nat))
  | _ => .error .tooLarge

/-- The year is counted from 1900 in 32 bits, and named in 32 bits when it is out of range. -/
def text (millis : Int) : Except MomentError Text := do
  let s ← second millis
  if !SignedWord.holds 64 s then throw .outOfSeconds
  let d := Date.ofDayNumber (s / 86400)
  if !SignedWord.holds 32 (d.year - 1900) then throw .yearOverflow
  if d.year < 1 || 9999 < d.year then throw (.yearOutOfRange (SignedWord.wrap 32 d.year))
  let inDay := (s % 86400).toNat
  pure (Text.ofInt d.year ++ '-' :: (Date.paddedNumber 2 d.month ++ '-' ::
    (Date.paddedNumber 2 d.day ++ ' ' :: (Date.paddedNumber 2 (inDay / 3600) ++ ':' ::
      Date.paddedNumber 2 (inDay / 60 % 60)))))

end Moment

end ChannelSearch
