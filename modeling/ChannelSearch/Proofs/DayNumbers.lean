import ChannelSearch.Calendar.Date
import Mathlib.Tactic.Common
import Mathlib.Tactic.IntervalCases

/-!
Days and their numbers: the date with a number has that number, a day of the calendar has one number, and
the next day has the next number.
-/

namespace ChannelSearch.Date

/-- The days of the months that are passed, and the day in the month, make up the day of the year. -/
theorem inMonths_sum (dayOfYear month : Nat) (lengths : List Nat) :
    month ≤ (inMonths dayOfYear month lengths).1 ∧
      (lengths.take ((inMonths dayOfYear month lengths).1 - month)).foldr (· + ·) 0 +
        (inMonths dayOfYear month lengths).2 = dayOfYear + 1 := by
  induction lengths generalizing dayOfYear month with
  | nil => simp [inMonths]
  | cons length lengths ih =>
    rw [inMonths]
    split_ifs with h
    · simp
    · obtain ⟨hle, hsum⟩ := ih (dayOfYear - length) (month + 1)
      have hsub : (inMonths (dayOfYear - length) (month + 1) lengths).1 - month =
          (inMonths (dayOfYear - length) (month + 1) lengths).1 - (month + 1) + 1 := by
        omega
      rw [hsub, List.take_succ_cons, List.foldr_cons]
      omega

/-- Four centuries, a century, four years and a year have their days. -/
theorem daysBeforeYear_eq (cycles : Int) {century quad year : Nat} (hcentury : century ≤ 3)
    (hquad : quad ≤ 24) (hyear : year ≤ 3) :
    daysBeforeYear (400 * cycles + (100 * century + 4 * quad + year : Nat) + 1) =
      146097 * cycles + (36524 * century + 1461 * quad + 365 * year : Nat) := by
  unfold daysBeforeYear
  dsimp only
  omega

/-- The day exists, in some year. -/
structure IsReal (d : Date) : Prop where
  month : 1 ≤ d.month ∧ d.month ≤ 12
  day : 1 ≤ d.day ∧ d.day ≤ monthLength d.year d.month

theorem IsValid.isReal {d : Date} (h : d.IsValid) : d.IsReal :=
  ⟨⟨h.2.2.1, h.2.2.2.1⟩, h.2.2.2.2⟩

/-- The next day of the calendar. -/
def next (d : Date) : Date :=
  if d.day < monthLength d.year d.month then { d with day := d.day + 1 }
  else if d.month < 12 then { d with month := d.month + 1, day := 1 }
  else { year := d.year + 1, month := 1, day := 1 }

section Months

variable {lengths : List Nat} {i k : Nat}

/-- A day of a month is found in the month. -/
theorem inMonths_of_lt (h : k < lengths.getD i 0) (month : Nat) :
    inMonths ((lengths.take i).foldr (· + ·) 0 + k) month lengths = (month + i, k + 1) := by
  induction lengths generalizing i month with
  | nil => simp at h
  | cons length lengths ih =>
    cases i with
    | zero => simp_all [inMonths]
    | succ i =>
      have hrest := ih (by simpa using h) (month + 1)
      rw [List.take_succ_cons, List.foldr_cons, inMonths, if_neg (by omega), Nat.add_assoc,
        Nat.add_sub_cancel_left, hrest]
      simp only [Prod.mk.injEq, and_true]
      omega

theorem exists_month {day : Nat} (h : day < lengths.foldr (· + ·) 0) :
    ∃ i k, i < lengths.length ∧ k < lengths.getD i 0 ∧
      day = (lengths.take i).foldr (· + ·) 0 + k := by
  induction lengths generalizing day with
  | nil => simp at h
  | cons length lengths ih =>
    by_cases hday : day < length
    · exact ⟨0, day, by simp, by simpa using hday, by simp⟩
    · have hrest : day - length < lengths.foldr (· + ·) 0 := by
        rw [List.foldr_cons] at h
        omega
      obtain ⟨i, k, hi, hk, heq⟩ := ih hrest
      refine ⟨i + 1, k, by simpa using hi, by simpa using hk, ?_⟩
      simp only [List.take_succ_cons, List.foldr_cons]
      omega

theorem foldr_take_add_lt (h : k < lengths.getD i 0) :
    (lengths.take i).foldr (· + ·) 0 + k < lengths.foldr (· + ·) 0 := by
  induction lengths generalizing i with
  | nil => simp at h
  | cons length lengths ih =>
    cases i with
    | zero => simp_all; omega
    | succ i =>
      have hrest := ih (by simpa using h)
      simp only [List.take_succ_cons, List.foldr_cons]
      omega

theorem foldr_take_succ (lengths : List Nat) (i : Nat) :
    (lengths.take (i + 1)).foldr (· + ·) 0 = (lengths.take i).foldr (· + ·) 0 + lengths.getD i 0 := by
  induction lengths generalizing i with
  | nil => simp
  | cons length lengths ih =>
    cases i with
    | zero => simp
    | succ i =>
      have hrest := ih i
      simp only [List.take_succ_cons, List.foldr_cons, List.getD_cons_succ]
      omega

end Months

/-- The days of a year. -/
def yearLength (year : Int) : Nat := (monthLengths year).foldr (· + ·) 0

theorem yearLength_eq (year : Int) : yearLength year = if isLeapYear year then 366 else 365 := by
  unfold yearLength monthLengths
  split_ifs <;> rfl

theorem isLeapYear_iff (year : Int) :
    isLeapYear year = true ↔ year % 4 = 0 ∧ (year % 100 ≠ 0 ∨ year % 400 = 0) := by
  simp [isLeapYear]

theorem daysBeforeYear_succ (year : Int) :
    daysBeforeYear (year + 1) = daysBeforeYear year + yearLength year := by
  have hleap := isLeapYear_iff year
  rw [yearLength_eq]
  unfold daysBeforeYear
  dsimp only
  split_ifs with h
  · have := hleap.mp h
    omega
  · have := mt hleap.mpr h
    omega

/-- The day of the year of a date; days of the year count from zero. -/
def dayOfYear (d : Date) : Nat := daysBeforeMonth d.year d.month + (d.day - 1)

theorem dayNumber_eq {d : Date} (h : 1 ≤ d.day) :
    d.dayNumber = daysBeforeYear d.year + d.dayOfYear - epochOffset := by
  unfold dayNumber dayOfYear
  omega

theorem IsReal.dayOfYear_lt {d : Date} (h : d.IsReal) : d.dayOfYear < yearLength d.year := by
  obtain ⟨-, hfirst, hlast⟩ := h
  exact foldr_take_add_lt (by unfold monthLength at hlast; omega)

theorem IsReal.inMonths_dayOfYear {d : Date} (h : d.IsReal) :
    inMonths d.dayOfYear 1 (monthLengths d.year) = (d.month, d.day) := by
  obtain ⟨⟨hmonth, -⟩, hfirst, hlast⟩ := h
  have hday : d.day - 1 < (monthLengths d.year).getD (d.month - 1) 0 := by
    unfold monthLength at hlast
    omega
  have hfound := inMonths_of_lt hday 1
  unfold dayOfYear daysBeforeMonth
  rw [hfound]
  simp only [Prod.mk.injEq]
  omega

/-- Every day of a year is one of its months. -/
theorem exists_isReal {year : Int} {day : Nat} (h : day < yearLength year) :
    ∃ d : Date, d.IsReal ∧ d.year = year ∧ d.dayOfYear = day := by
  obtain ⟨i, k, hi, hk, heq⟩ := exists_month h
  have hmonths : i < 12 := by simpa [monthLengths] using hi
  refine ⟨{ year, month := i + 1, day := k + 1 }, ⟨⟨?_, ?_⟩, ?_, ?_⟩, rfl, ?_⟩
  · simp
  · simp only
    omega
  · simp
  · exact Nat.succ_le_of_lt hk
  · simpa [dayOfYear, daysBeforeMonth] using heq.symm

/-- Every day is one of a year. -/
theorem exists_year (n : Int) :
    ∃ (year : Int) (day : Nat), day < yearLength year ∧ n + epochOffset = daysBeforeYear year + day ∧
      ofDayNumber n =
        { year
          month := (inMonths day 1 (monthLengths year)).1
          day := (inMonths day 1 (monthLengths year)).2 } := by
  generalize hcycle : ((n + epochOffset) % 146097).toNat = inCycle
  generalize hcentury : min (inCycle / 36524) 3 = century
  generalize hinCentury : inCycle - century * 36524 = inCentury
  generalize hyear : min (inCentury % 1461 / 365) 3 = year
  generalize hday : inCentury % 1461 - year * 365 = day
  have hyears := daysBeforeYear_eq ((n + epochOffset) / 146097) (by omega : century ≤ 3)
    (by omega : inCentury / 1461 ≤ 24) (by omega : year ≤ 3)
  refine ⟨400 * ((n + epochOffset) / 146097) +
    (100 * century + 4 * (inCentury / 1461) + year : Nat) + 1, day, ?_, ?_, ?_⟩
  · -- The last day of a long year is the last one of a cycle of four years, and of no short century.
    have hleap := isLeapYear_iff (400 * ((n + epochOffset) / 146097) +
      (100 * century + 4 * (inCentury / 1461) + year : Nat) + 1)
    rw [yearLength_eq]
    split_ifs with h
    · omega
    · have := mt hleap.mpr h
      omega
  · omega
  · unfold ofDayNumber
    simp only [hcycle, hcentury, hinCentury, hyear, hday]

/-- The date with a number has this number. -/
theorem dayNumber_ofDayNumber (n : Int) : (ofDayNumber n).dayNumber = n := by
  obtain ⟨year, day, -, hn, hdate⟩ := exists_year n
  have hmonths := (inMonths_sum day 1 (monthLengths year)).2
  rw [hdate]
  unfold dayNumber daysBeforeMonth
  dsimp only
  omega

theorem daysBeforeYear_mono {year later : Int} (h : year ≤ later) :
    daysBeforeYear year ≤ daysBeforeYear later := by
  unfold daysBeforeYear
  dsimp only
  omega

/-- A day has one number. -/
theorem ofDayNumber_dayNumber {d : Date} (h : d.IsReal) : ofDayNumber d.dayNumber = d := by
  obtain ⟨year, day, hday, hn, hdate⟩ := exists_year d.dayNumber
  have hlt := h.dayOfYear_lt
  rw [dayNumber_eq h.day.1] at hn
  have hyear : d.year = year := by
    by_contra hne
    rcases Int.lt_or_gt_of_ne hne with hbefore | hafter
    · have := daysBeforeYear_mono (Int.add_one_le_of_lt hbefore)
      rw [daysBeforeYear_succ] at this
      omega
    · have := daysBeforeYear_mono (Int.add_one_le_of_lt hafter)
      rw [daysBeforeYear_succ] at this
      omega
  have hdays : d.dayOfYear = day := by
    rw [hyear] at hn
    omega
  rw [hdate, ← hyear, ← hdays, h.inMonths_dayOfYear]

theorem isReal_ofDayNumber (n : Int) : (ofDayNumber n).IsReal := by
  obtain ⟨year, day, hday, hn, -⟩ := exists_year n
  obtain ⟨d, hreal, hyear, hdays⟩ := exists_isReal hday
  have hnumber : d.dayNumber = n := by
    rw [dayNumber_eq hreal.day.1, hyear, hdays]
    omega
  rw [← hnumber, ofDayNumber_dayNumber hreal]
  exact hreal

section Next

variable {d : Date}

theorem daysBeforeMonth_succ (year : Int) {month : Nat} (h : 1 ≤ month) :
    daysBeforeMonth year (month + 1) = daysBeforeMonth year month + monthLength year month := by
  have hsucc := foldr_take_succ (monthLengths year) (month - 1)
  rwa [Nat.sub_add_cancel h] at hsucc

theorem dayNumber_next (h : d.IsReal) : d.next.dayNumber = d.dayNumber + 1 := by
  obtain ⟨hmonth, hday⟩ := h
  have hmonths := daysBeforeMonth_succ d.year hmonth.1
  unfold next
  split_ifs with hwithin hbefore
  · unfold dayNumber
    dsimp only
    omega
  · unfold dayNumber
    dsimp only
    omega
  · have hyears := daysBeforeYear_succ d.year
    have hlast : d.month = 12 := by omega
    have hall : daysBeforeMonth d.year (12 + 1) = yearLength d.year := rfl
    have hnone : daysBeforeMonth (d.year + 1) 1 = 0 := rfl
    rw [hlast] at hmonths hwithin hday
    unfold dayNumber
    rw [hlast]
    dsimp only
    omega

theorem monthLength_pos (year : Int) {month : Nat} (h : 1 ≤ month ∧ month ≤ 12) :
    1 ≤ monthLength year month := by
  obtain ⟨hfirst, hlast⟩ := h
  unfold monthLength monthLengths
  interval_cases month <;> split_ifs <;> decide

theorem IsReal.next (h : d.IsReal) : d.next.IsReal := by
  obtain ⟨hmonth, hday⟩ := h
  unfold Date.next
  split_ifs with hwithin hbefore
  · exact ⟨hmonth, by simp, hwithin⟩
  · exact ⟨⟨by simp, hbefore⟩, Nat.le_refl 1, monthLength_pos _ ⟨by simp, hbefore⟩⟩
  · exact ⟨by simp, Nat.le_refl 1, monthLength_pos _ (by simp)⟩

/-- Dates are counted in the order of the calendar. -/
theorem ofDayNumber_succ (n : Int) : ofDayNumber (n + 1) = (ofDayNumber n).next := by
  have hreal := isReal_ofDayNumber n
  have hnumber := dayNumber_next hreal
  rw [dayNumber_ofDayNumber] at hnumber
  rw [← hnumber, ofDayNumber_dayNumber hreal.next]

end Next

end ChannelSearch.Date
