import ChannelSearch.Calendar.Date
import ChannelSearch.Number.SignedWord

/-!
The first and the last millisecond of a day at an offset from UTC.
-/

namespace ChannelSearch

/-- Why a day has no milliseconds: it lies outside the calendar, or the offset is a day or more. -/
inductive DateError where
  | outOfRange
  | offsetOfADay (days : Int) (seconds : Nat)
  | offsetTooLong (days : Int)
  | offsetOverflow
deriving DecidableEq, Repr

/-- A time span in days and seconds; a part that is zero is left out. -/
def spanText (days : Int) (seconds : Nat) : Text :=
  let dayPart := if days = 0 then [] else ["days=".toList ++ Text.ofInt days]
  let secondPart := if seconds = 0 then [] else ["seconds=".toList ++ Text.ofNat seconds]
  "datetime.timedelta(".toList ++ Text.join ", ".toList (dayPart ++ secondPart) ++ [')']

def DateError.message : DateError → Text
  | .outOfRange => "date value out of range".toList
  | .offsetOfADay days seconds =>
    ("offset must be a timedelta strictly between -timedelta(hours=24) and " ++
      "timedelta(hours=24), not ").toList ++ spanText days seconds ++ ['.']
  | .offsetTooLong days =>
    "days=".toList ++ Text.ofInt days ++ "; must have magnitude <= 999999999".toList
  | .offsetOverflow => "Python int too large to convert to C int".toList

/-- An offset in seconds must be shorter than a day. -/
def checkOffset (offset : Int) : Except DateError Unit :=
  let days := offset / 86400
  if !SignedWord.holds 32 days then .error .offsetOverflow
  else if 999999999 < days.natAbs then .error (.offsetTooLong days)
  else if offset ≤ -86400 || 86400 ≤ offset then
    .error (.offsetOfADay days (offset % 86400).toNat)
  else .ok ()

namespace Date

/-- The day a number of days later; it must lie in the calendar. -/
def shift (d : Date) (days : Int) : Except DateError Date :=
  let n := d.dayNumber + days
  if firstDay ≤ n && n ≤ lastDay then .ok (ofDayNumber n) else .error .outOfRange

def startMillis (d : Date) (offset : Int) : Except DateError Int :=
  (checkOffset offset).map fun _ => (d.dayNumber * 86400 - offset) * 1000

/-- One less than the start of the next day. -/
def endMillis (d : Date) (offset : Int) : Except DateError Int := do
  let start ← (← d.shift 1).startMillis offset
  pure (start - 1)

/-- The date at an instant, given in seconds, at an offset. -/
def today (now offset : Int) : Except DateError Date :=
  (checkOffset offset).map fun _ => ofDayNumber ((now + offset) / 86400)

end Date

end ChannelSearch
