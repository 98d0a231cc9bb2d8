import ChannelSearch.Calendar.Date
import ChannelSearch.Text.Blank

/-!
Dates written as year, month and day, or as year, week and day of the week, with dashes everywhere or
nowhere. Only texts of seven, eight or ten bytes are read, and what follows the last field is ignored.
-/

namespace ChannelSearch

namespace IsoDate

def digit? (c : Char) : Option Nat :=
  if '0' ≤ c && c ≤ '9' then some (c.toNat - '0'.toNat) else none

/-- A number of exactly `count` digits, and what follows it. -/
def number? (t : Text) (count : Nat) (value : Nat := 0) : Option (Nat × Text) :=
  match count, t with
  | 0, t => some (value, t)
  | _ + 1, [] => none
  | count + 1, c :: rest => do number? rest count (10 * value + (← digit? c))

/-- The rest after a dash, where dashes are used. -/
def separator? (dashed : Bool) (t : Text) : Option Text :=
  if dashed then
    match t with
    | '-' :: rest => some rest
    | _ => none
  else some t

/-- The week and the day of the week; a text that ends with the week means its Monday. -/
def weekDate? (year : Nat) (dashed : Bool) (t : Text) : Option Date := do
  let (week, rest) ← number? t 2
  if rest.isEmpty then Date.ofWeek? year week 1
  else
    let (day, _) ← number? (← separator? dashed rest) 1
    Date.ofWeek? year week day

def monthDate? (year : Nat) (dashed : Bool) (t : Text) : Option Date := do
  let (month, rest) ← number? t 2
  let (day, _) ← number? (← separator? dashed rest) 2
  Date.ofParts? year month day

def read? (t : Text) : Option Date := do
  guard (t.byteSize ∈ [7, 8, 10])
  let (year, rest) ← number? t 4
  let (dashed, rest) :=
    match rest with
    | '-' :: after => (true, after)
    | _ => (false, rest)
  match rest with
  | 'W' :: after => weekDate? year dashed after
  | _ => monthDate? year dashed rest

end IsoDate

end ChannelSearch
