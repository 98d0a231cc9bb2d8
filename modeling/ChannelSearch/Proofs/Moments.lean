import ChannelSearch.Calendar.Moment
import ChannelSearch.Proofs.DayNumbers
import ChannelSearch.Proofs.Rounding

/-!
The times that instants are printed with. Main statements: rounding to a binary number of seconds and
then to microseconds does not move an instant of the calendar into another second, and no instant outside
the calendar is printed.
-/

namespace ChannelSearch

namespace Date

/-- The years of a cycle of four centuries that are passed; all but the last of its 400 years are passed
on the last 366 days. -/
theorem year_inCycle {inCycle : Nat} (h : inCycle < 146097) :
    100 * min (inCycle / 36524) 3 + 4 * ((inCycle - min (inCycle / 36524) 3 * 36524) / 1461) +
        min ((inCycle - min (inCycle / 36524) 3 * 36524) % 1461 / 365) 3 ≤ 399 ∧
      (100 * min (inCycle / 36524) 3 + 4 * ((inCycle - min (inCycle / 36524) 3 * 36524) / 1461) +
        min ((inCycle - min (inCycle / 36524) 3 * 36524) % 1461 / 365) 3 = 399 ↔
          145731 ≤ inCycle) := by
  omega

/-- A day of the calendar is one of the years 1 to 9999. -/
theorem year_bounds (n : Int) :
    1 ≤ (ofDayNumber n).year ∧ (ofDayNumber n).year ≤ 9999 ↔ firstDay ≤ n ∧ n ≤ lastDay := by
  have hlt := Int.emod_lt_of_pos (n + epochOffset) (by decide : (0 : Int) < 146097)
  have hnonneg := Int.emod_nonneg (n + epochOffset) (by decide : (146097 : Int) ≠ 0)
  obtain ⟨hyears, hlast⟩ := year_inCycle
    (by omega : ((n + epochOffset) % 146097).toNat < 146097)
  unfold ofDayNumber
  dsimp only
  unfold firstDay lastDay epochOffset at *
  omega

end Date

namespace Ratio

variable {x : Ratio}

/-- What a quotient is above its integer part. -/
theorem value_fraction (hden : x.den ≠ 0) :
    Ratio.value ⟨x.num % x.den, x.den⟩ = x.value - x.floor := by
  have hden' : (x.den : ℚ) ≠ 0 := Nat.cast_ne_zero.mpr hden
  rw [value, value, floor, eq_sub_iff_add_eq, div_add' _ _ _ hden', div_left_inj' hden']
  exact_mod_cast Nat.mod_add_div' x.num x.den

end Ratio

namespace Moment

theorem nearestWhole_eq {x : Ratio} {mantissa : Nat} {exponent : Int}
    (h : Binary64.ofRatio false x = .finite false mantissa exponent) :
    nearestWhole x = (Binary64.magnitude mantissa exponent).round := by
  unfold nearestWhole
  rw [h]

theorem microseconds_zero (den : Nat) : microseconds ⟨0, den⟩ = 0 := by
  have hzero : Binary64.ofRatio false ⟨0 * 1000000, den⟩ = .finite false 0 Binary64.minExponent :=
    if_pos (Nat.zero_mul _)
  have hvalue : (Binary64.magnitude 0 Binary64.minExponent).value = (0 : Nat) := by
    rw [Binary64.value_magnitude, Nat.cast_zero, zero_mul]
  rw [microseconds, nearestWhole_eq hzero]
  exact Ratio.round_of_value_eq (Binary64.magnitude_den_ne_zero _ _) hvalue

/-- A fraction that is away from whole seconds by more than the rounding has microseconds, and less
than a second of them. -/
theorem microseconds_bounds {x : Ratio} (hden : x.den ≠ 0) (hlow : 1 / 2000 ≤ x.value)
    (hhigh : x.value ≤ 1 - 1 / 2000) : 0 < microseconds x ∧ microseconds x < 1000000 := by
  have hvalue : Ratio.value ⟨x.num * 1000000, x.den⟩ = x.value * 1000000 := by
    rw [Ratio.value, Ratio.value]
    push_cast
    ring
  rw [microseconds]
  generalize hy : (⟨x.num * 1000000, x.den⟩ : Ratio) = y at hvalue ⊢
  have hyden : y.den ≠ 0 := hy ▸ hden
  obtain ⟨mantissa, exponent, hfinite, hnear⟩ :=
    Binary64.ofRatio_moderate false hyden (by linarith) (by norm_num; linarith)
  have hround := Ratio.round_near (Binary64.magnitude_den_ne_zero mantissa exponent)
  rw [nearestWhole_eq hfinite]
  rw [abs_le] at hnear hround
  have herror : y.value / 2 ^ 53 ≤ 1 := by
    rw [div_le_one (by positivity)]
    norm_num
    linarith
  constructor
  · have hpos : (0 : ℚ) < (Binary64.magnitude mantissa exponent).round := by linarith
    exact_mod_cast hpos
  · have hlt : ((Binary64.magnitude mantissa exponent).round : ℚ) < 1000000 := by linarith
    exact_mod_cast hlt

/-- The second of an instant whose number of seconds is known to be rounded to a binary number. -/
theorem second_of_finite {t : Int} {mantissa : Nat} {exponent : Int} {x : Ratio}
    (hx : Binary64.magnitude mantissa exponent = x)
    (h : Binary64.ofRatio (t < 0) ⟨t.natAbs, 1000⟩ = .finite (t < 0) mantissa exponent) :
    second t = .ok (if t < 0
      then -(x.floor : Int) - (if microseconds ⟨x.num % x.den, x.den⟩ = 0 then 0 else 1)
      else x.floor + (microseconds ⟨x.num % x.den, x.den⟩ / 1000000 : Nat)) := by
  unfold second
  simp only [h, hx, decide_eq_true_eq]

section Milliseconds

variable {t : Int}

theorem value_seconds (t : Int) :
    (⟨t.natAbs, 1000⟩ : Ratio).value =
      (t.natAbs / 1000 : Nat) + ((t.natAbs % 1000 : Nat) : ℚ) / 1000 := by
  have hparts : (t.natAbs : ℚ) = 1000 * (t.natAbs / 1000 : Nat) + (t.natAbs % 1000 : Nat) := by
    exact_mod_cast (Nat.div_add_mod t.natAbs 1000).symm
  rw [Ratio.value, Nat.cast_ofNat, hparts]
  ring

/-- A whole second is not rounded. -/
theorem second_of_whole (hwhole : t.natAbs % 1000 = 0) (ht : t.natAbs / 1000 < 2 ^ 53) :
    second t = .ok (t / 1000) := by
  have hseconds : (⟨t.natAbs, 1000⟩ : Ratio).value = (t.natAbs / 1000 : Nat) := by
    rw [value_seconds, hwhole, Nat.cast_zero, zero_div, add_zero]
  obtain ⟨mantissa, exponent, hfinite, hmagnitude⟩ :=
    Binary64.ofRatio_whole (t < 0) (Nat.succ_ne_zero 999) hseconds ht
  generalize hx : Binary64.magnitude mantissa exponent = x at hmagnitude
  have hxden : x.den ≠ 0 := hx ▸ Binary64.magnitude_den_ne_zero mantissa exponent
  have hfloor : x.floor = t.natAbs / 1000 :=
    Ratio.floor_eq hxden hmagnitude.ge (by rw [hmagnitude]; exact lt_add_one _)
  have hfraction : x.num % x.den = 0 := by
    have hzero := Ratio.value_fraction hxden
    rw [hmagnitude, hfloor, sub_self, Ratio.value, div_eq_zero_iff, Nat.cast_eq_zero,
      Nat.cast_eq_zero] at hzero
    exact hzero.resolve_right hxden
  rw [second_of_finite hx hfinite, hfraction, microseconds_zero, hfloor]
  congr 1
  split_ifs <;> omega

/-- Rounding moves a part of a second, but not into the next. -/
theorem second_of_fraction (hpart : t.natAbs % 1000 ≠ 0) (ht : t.natAbs ≤ 2 ^ 50) :
    second t = .ok (t / 1000) := by
  have hvalue := value_seconds t
  have hpos : (1 : ℚ) ≤ (t.natAbs % 1000 : Nat) := by exact_mod_cast Nat.pos_of_ne_zero hpart
  have hbelow : ((t.natAbs % 1000 : Nat) : ℚ) ≤ 999 := by
    exact_mod_cast Nat.le_of_lt_succ (Nat.mod_lt t.natAbs (by decide : 0 < 1000))
  have hseconds : ((t.natAbs / 1000 : Nat) : ℚ) ≤ 1125899906842 := by
    exact_mod_cast (by omega : t.natAbs / 1000 ≤ 1125899906842)
  have hnonneg : (0 : ℚ) ≤ (t.natAbs / 1000 : Nat) := Nat.cast_nonneg _
  generalize hratio : (⟨t.natAbs, 1000⟩ : Ratio) = seconds at hvalue
  have hden : seconds.den ≠ 0 := hratio ▸ Nat.succ_ne_zero 999
  obtain ⟨mantissa, exponent, hfinite, hnear⟩ :=
    Binary64.ofRatio_moderate (t < 0) hden (by linarith) (by norm_num; linarith)
  generalize hx : Binary64.magnitude mantissa exponent = x at hnear
  have hxden : x.den ≠ 0 := hx ▸ Binary64.magnitude_den_ne_zero mantissa exponent
  have herror : seconds.value / 2 ^ 53 ≤ 1 / 2000 := by
    norm_num
    linarith
  rw [abs_le] at hnear
  have hfloor : x.floor = t.natAbs / 1000 := Ratio.floor_eq hxden (by linarith) (by linarith)
  have hfraction := Ratio.value_fraction hxden
  rw [hfloor] at hfraction
  obtain ⟨hsome, hless⟩ := microseconds_bounds (x := ⟨x.num % x.den, x.den⟩) hxden
    (by linarith) (by linarith)
  rw [← hratio] at hfinite
  rw [second_of_finite hx hfinite, hfloor, if_neg hsome.ne', Nat.div_eq_of_lt hless]
  congr 1
  split_ifs <;> omega

/-- An instant that is not too far away lies in the second that its milliseconds say. -/
theorem second_eq (ht : t.natAbs ≤ 2 ^ 50) : second t = .ok (t / 1000) := by
  by_cases hwhole : t.natAbs % 1000 = 0
  · exact second_of_whole hwhole (by omega)
  · exact second_of_fraction hwhole ht

/-- An instant that is farther away lies in no second near the calendar. -/
theorem second_far {s : Int} (ht : 2 ^ 50 < t.natAbs) (hs : second t = .ok s) :
    (0 ≤ t → 1125899906841 ≤ s) ∧ (t < 0 → s ≤ -1125899906841) := by
  have hvalue : (⟨t.natAbs, 1000⟩ : Ratio).value = (t.natAbs : ℚ) / 1000 := by
    rw [Ratio.value, Nat.cast_ofNat]
  have hfar : (1125899906842625 : ℚ) ≤ t.natAbs := by exact_mod_cast ht
  have hnear := Binary64.ofRatio_near (t < 0) (Nat.succ_ne_zero 999)
    (by rw [hvalue]; linarith : 1 / 1024 ≤ (⟨t.natAbs, 1000⟩ : Ratio).value)
  obtain ⟨hinfinite, -⟩ | ⟨mantissa, exponent, hfinite, hnear⟩ := hnear
  · unfold second at hs
    rw [hinfinite] at hs
    cases hs
  · generalize hx : Binary64.magnitude mantissa exponent = x at hnear
    have hfloor := Ratio.value_lt_floor_add_one (hx ▸ Binary64.magnitude_den_ne_zero mantissa exponent)
    rw [abs_le, hvalue] at hnear
    generalize (t.natAbs : ℚ) = millis at hfar hnear
    norm_num at hnear
    have hwhole : 1125899906841 ≤ x.floor := by
      have hlt : (1125899906841 : ℚ) < x.floor + 1 := by linarith
      exact Nat.lt_succ_iff.mp (by exact_mod_cast hlt)
    rw [second_of_finite hx hfinite] at hs
    rw [← Except.ok.inj hs]
    split_ifs <;> omega

end Milliseconds

/-- The date, the hour and the minute of a second. -/
def utc (s : Int) : Text :=
  let d := Date.ofDayNumber (s / 86400)
  let inDay := (s % 86400).toNat
  Text.ofInt d.year ++ '-' :: (Date.paddedNumber 2 d.month ++ '-' ::
    (Date.paddedNumber 2 d.day ++ ' ' :: (Date.paddedNumber 2 (inDay / 3600) ++ ':' ::
      Date.paddedNumber 2 (inDay / 60 % 60))))

/-- What is printed for an instant is the time of its second, on a day of the calendar. -/
theorem text_eq_ok {t : Int} {line : Text} :
    text t = .ok line ↔ ∃ s, second t = .ok s ∧
      (Date.firstDay ≤ s / 86400 ∧ s / 86400 ≤ Date.lastDay) ∧ line = utc s := by
  unfold text
  cases hs : second t with
  | error e => simp [bind, Except.bind]
  | ok s =>
    have hwords : Date.firstDay ≤ s / 86400 ∧ s / 86400 ≤ Date.lastDay →
        SignedWord.holds 64 s = true ∧
          SignedWord.holds 32 ((Date.ofDayNumber (s / 86400)).year - 1900) = true := by
      intro hday
      obtain ⟨hfirst, hlast⟩ := (Date.year_bounds _).mpr hday
      unfold Date.firstDay Date.lastDay at hday
      simp only [SignedWord.holds, Nat.pow_eq, Bool.and_eq_true, decide_eq_true_eq]
      omega
    have hyear : ((Date.ofDayNumber (s / 86400)).year < 1 ||
        9999 < (Date.ofDayNumber (s / 86400)).year) = true ↔
          ¬ (Date.firstDay ≤ s / 86400 ∧ s / 86400 ≤ Date.lastDay) := by
      rw [← Date.year_bounds, Bool.or_eq_true, decide_eq_true_eq, decide_eq_true_eq]
      omega
    show Except.ok s >>= _ = _ ↔ _
    simp only [Except.ok.injEq, exists_eq_left']
    by_cases hday : Date.firstDay ≤ s / 86400 ∧ s / 86400 ≤ Date.lastDay
    · obtain ⟨hseconds, hyears⟩ := hwords hday
      have hinside := mt hyear.mp (not_not.mpr hday)
      simp only [bind, Except.bind, pure, Except.pure, hseconds, hyears, if_neg hinside,
        Bool.not_true, Bool.false_eq_true, if_false, Except.ok.injEq, hday, true_and]
      exact eq_comm
    · have houtside := hyear.mpr hday
      simp only [bind, Except.bind, if_pos houtside, hday, false_and, iff_false]
      intro h
      split_ifs at h

/-- An instant on a day of the calendar. -/
def IsInCalendar (millis : Int) : Prop :=
  Date.firstDay ≤ millis / 86400000 ∧ millis / 86400000 ≤ Date.lastDay

instance (millis : Int) : Decidable (IsInCalendar millis) := instDecidableAnd

/-- The instants of the calendar are the ones that are printed, each as the minute that it lies in. -/
theorem text_eq_ok_iff {t : Int} {line : Text} :
    text t = .ok line ↔ IsInCalendar t ∧ line = utc (t / 1000) := by
  have hday : t / 1000 / 86400 = t / 86400000 := by omega
  rw [text_eq_ok, IsInCalendar]
  by_cases ht : t.natAbs ≤ 2 ^ 50
  · rw [second_eq ht]
    simp only [Except.ok.injEq, exists_eq_left', hday]
  · have hfar : ¬ (Date.firstDay ≤ t / 86400000 ∧ t / 86400000 ≤ Date.lastDay) := by
      unfold Date.firstDay Date.lastDay
      omega
    refine iff_of_false ?_ fun h => hfar h.1
    rintro ⟨s, hs, hinside, -⟩
    have hs := second_far (not_le.mp ht) hs
    unfold Date.firstDay Date.lastDay at hinside
    omega

end Moment

end ChannelSearch
