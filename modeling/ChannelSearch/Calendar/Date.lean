import ChannelSearch.Text.Basic

/-!
Dates of the Gregorian calendar, extended to all years, and their numbers counted from 1970-01-01. A
date that is searched for lies in the years 1 to 9999.
-/

namespace ChannelSearch

structure Date where
  year : Int
  month : Nat
  day : Nat
deriving DecidableEq, Repr

namespace Date

def isLeapYear (year : Int) : Bool := year % 4 = 0 && (year % 100 ≠ 0 || year % 400 = 0)

/-- The lengths of the twelve months. -/
def monthLengths (year : Int) : List Nat :=
  [31, if isLeapYear year then 29 else 28, 31, 30, 31, 30, 31, 31, 30, 31, 30, 31]

def monthLength (year : Int) (month : Nat) : Nat := (monthLengths year).getD (month - 1) 0

def daysBeforeMonth (year : Int) (month : Nat) : Nat :=
  ((monthLengths year).take (month - 1)).foldr (· + ·) 0

/-- The days from the start of year 1 to the start of a year. -/
def daysBeforeYear (year : Int) : Int :=
  let past := year - 1
  365 * past + past / 4 - past / 100 + past / 400

/-- The days from the start of year 1 to 1970-01-01. -/
def epochOffset : Int := 719162

/-- The days from 1970-01-01 to a date. -/
def dayNumber (d : Date) : Int :=
  daysBeforeYear d.year + daysBeforeMonth d.year d.month + d.day - 1 - epochOffset

/-- The month and the day of a day of the year, both from one; days of the year count from zero. -/
def inMonths (dayOfYear : Nat) : Nat → List Nat → Nat × Nat
  | month, [] => (month, dayOfYear + 1)
  | month, length :: lengths =>
    if dayOfYear < length then (month, dayOfYear + 1)
    else inMonths (dayOfYear - length) (month + 1) lengths

/-- The date with a number. Four centuries, a century, four years and a year are split off in turn;
the last century and the last year of a cycle are a day longer. -/
def ofDayNumber (n : Int) : Date :=
  let days := n + epochOffset
  let inCycle := (days % 146097).toNat
  let century := min (inCycle / 36524) 3
  let inCentury := inCycle - century * 36524
  let inQuad := inCentury % 1461
  let yearOfQuad := min (inQuad / 365) 3
  let year : Int :=
    400 * (days / 146097) + (100 * century + 4 * (inCentury / 1461) + yearOfQuad : Nat) + 1
  let (month, day) := inMonths (inQuad - yearOfQuad * 365) 1 (monthLengths year)
  { year, month, day }

/-- The day exists, and its year is one of 1 to 9999. -/
def IsValid (d : Date) : Prop :=
  1 ≤ d.year ∧ d.year ≤ 9999 ∧ 1 ≤ d.month ∧ d.month ≤ 12 ∧ 1 ≤ d.day ∧
    d.day ≤ monthLength d.year d.month

instance (d : Date) : Decidable d.IsValid := by unfold IsValid; infer_instance

def ofParts? (year month day : Nat) : Option Date :=
  let d : Date := { year, month, day }
  if d.IsValid then some d else none

/-- The number of 0001-01-01. -/
def firstDay : Int := -719162

/-- The number of 9999-12-31. -/
def lastDay : Int := 2932896

/-- The day of the week, from zero for a Monday. -/
def weekday (dayNumber : Int) : Nat := ((dayNumber + 3) % 7).toNat

/-- The number of the Monday of the first week of a year: the week with its first Thursday. -/
def firstMonday (year : Int) : Int :=
  let newYear := dayNumber { year, month := 1, day := 1 }
  let skipped := weekday newYear
  if 3 < skipped then newYear - skipped + 7 else newYear - skipped

/-- Years that start on a Thursday, and leap years that start on a Wednesday, have 53 weeks. -/
def weeksInYear (year : Int) : Nat :=
  let first := weekday (dayNumber { year, month := 1, day := 1 })
  if first = 3 || (first = 2 && isLeapYear year) then 53 else 52

/-- A day of a week, both counted from one. -/
def ofWeek? (year week day : Nat) : Option Date :=
  if 1 ≤ year ∧ 1 ≤ week ∧ week ≤ weeksInYear year ∧ 1 ≤ day ∧ day ≤ 7 then
    let d := ofDayNumber (firstMonday year + ((week - 1) * 7 + (day - 1) : Nat))
    if d.IsValid then some d else none
  else none

/-- A number with zeros on the left. -/
def paddedNumber (width n : Nat) : Text :=
  let digits := Text.ofNat n
  List.replicate (width - digits.length) '0' ++ digits

/-- Year, month and day with dashes; the year has at least four digits. -/
def iso (d : Date) : Text :=
  paddedNumber 4 d.year.toNat ++ '-' :: (paddedNumber 2 d.month ++ '-' :: paddedNumber 2 d.day)

end Date

end ChannelSearch
