import ChannelSearch.Number.Binary64
import Mathlib.Algebra.Order.Field.Power
import Mathlib.Data.Nat.Log
import Mathlib.Data.Rat.Floor
import Mathlib.Tactic.FieldSimp
import Mathlib.Tactic.Linarith
import Mathlib.Tactic.NormNum
import Mathlib.Tactic.Positivity
import Mathlib.Tactic.Ring

/-!
How close rounded numbers are to what they stand for. Main statements: a binary number is within one
part in `2 ^ 53` of the quotient that it is rounded from, and small whole numbers are not rounded.
-/

namespace ChannelSearch

/-- Rounding moves a quotient by at most a half. -/
theorem roundHalfEven_near (num : Nat) {den : Nat} (hden : 0 < den) :
    |(roundHalfEven num den : ℚ) - num / den| ≤ 1 / 2 := by
  have hden' : (0 : ℚ) < den := Nat.cast_pos.mpr hden
  have hdivision : (num : ℚ) / den = (num / den : Nat) + (num % den : Nat) / den := by
    rw [add_div' _ _ _ hden'.ne', eq_comm, div_left_inj' hden'.ne']
    exact_mod_cast Nat.div_add_mod' num den
  have hrest : ((num % den : Nat) : ℚ) / den * den = (num % den : Nat) := div_mul_cancel₀ _ hden'.ne'
  rw [hdivision, abs_le]
  generalize ((num % den : Nat) : ℚ) / den = rest at hrest ⊢
  unfold roundHalfEven
  dsimp only
  split_ifs with hbelow habove
  · have hlt : 2 * ((num % den : Nat) : ℚ) < den := by exact_mod_cast hbelow
    have hnonneg : (0 : ℚ) ≤ (num % den : Nat) := Nat.cast_nonneg _
    constructor <;> nlinarith
  · have hlt : (den : ℚ) < 2 * (num % den : Nat) := by exact_mod_cast habove
    have hmod : ((num % den : Nat) : ℚ) < den := by exact_mod_cast Nat.mod_lt num hden
    rw [Nat.cast_add, Nat.cast_one]
    constructor <;> nlinarith
  · have hhalf : rest = 1 / 2 := by
      have heq : 2 * ((num % den : Nat) : ℚ) = den := by
        exact_mod_cast Nat.le_antisymm (Nat.le_of_not_lt habove) (Nat.le_of_not_lt hbelow)
      have hscaled : (2 * rest - 1) * den = 0 := by linarith
      linarith [(mul_eq_zero.mp hscaled).resolve_right hden'.ne']
    have heven : num / den % 2 = 0 ∨ num / den % 2 = 1 := Nat.mod_two_eq_zero_or_one _
    rw [hhalf, Nat.cast_add]
    rcases heven with h | h <;> rw [h] <;> norm_num

namespace Ratio

/-- The rational number that a quotient stands for. -/
def value (x : Ratio) : ℚ := x.num / x.den

variable {x : Ratio}

theorem num_ne_zero_of_value_pos (h : 0 < x.value) : x.num ≠ 0 := by
  intro hnum
  rw [value, hnum, Nat.cast_zero, zero_div] at h
  exact h.false

theorem scale_den_ne_zero {base : Nat} (hbase : base ≠ 0) (hden : x.den ≠ 0) (k : Int) :
    (x.scale base k).den ≠ 0 := by
  unfold scale
  split_ifs
  · exact hden
  · exact Nat.mul_ne_zero hden (pow_ne_zero _ hbase)

theorem value_scale {base : Nat} (k : Int) :
    (x.scale base k).value = x.value * (base : ℚ) ^ k := by
  unfold scale value
  split_ifs with hk
  · obtain ⟨n, rfl⟩ := Int.eq_ofNat_of_zero_le hk
    simp only [Int.toNat_natCast, Nat.pow_eq, Nat.cast_mul, Nat.cast_pow, zpow_natCast]
    ring
  · obtain ⟨n, rfl⟩ := Int.exists_eq_neg_ofNat (le_of_not_ge hk)
    simp only [Int.natAbs_neg, Int.natAbs_natCast, Nat.pow_eq, Nat.cast_mul, Nat.cast_pow, zpow_neg,
      zpow_natCast]
    rw [div_mul_eq_div_div, div_eq_mul_inv _ ((base : ℚ) ^ n)]

theorem round_near (hden : x.den ≠ 0) : |(x.round : ℚ) - x.value| ≤ 1 / 2 :=
  roundHalfEven_near x.num (Nat.pos_of_ne_zero hden)

/-- A whole number is not rounded. -/
theorem round_of_value_eq {n : Nat} (hden : x.den ≠ 0) (h : x.value = n) : x.round = n := by
  have hnear := round_near hden
  rw [h, abs_le] at hnear
  have hlow : (n : ℚ) < (x.round : ℚ) + 1 := by linarith
  have hhigh : (x.round : ℚ) < (n : ℚ) + 1 := by linarith
  exact Nat.le_antisymm (Nat.lt_succ_iff.mp (by exact_mod_cast hhigh))
    (Nat.lt_succ_iff.mp (by exact_mod_cast hlow))

theorem floor_eq {n : Nat} (hden : x.den ≠ 0) (hlow : n ≤ x.value) (hhigh : x.value < n + 1) :
    x.floor = n := by
  have hden' : (0 : ℚ) < x.den := Nat.cast_pos.mpr (Nat.pos_of_ne_zero hden)
  rw [value, le_div_iff₀ hden'] at hlow
  rw [value, div_lt_iff₀ hden'] at hhigh
  exact Nat.div_eq_of_lt_le (by exact_mod_cast hlow) (by exact_mod_cast hhigh)

theorem value_lt_floor_add_one (hden : x.den ≠ 0) : x.value < x.floor + 1 := by
  rw [value, div_lt_iff₀ (Nat.cast_pos.mpr (Nat.pos_of_ne_zero hden))]
  exact_mod_cast (Nat.div_lt_iff_lt_mul (Nat.pos_of_ne_zero hden)).mp (Nat.lt_succ_self _)

/-- The powers of two that a number lies between. -/
theorem log2_bounds {n : Nat} (h : n ≠ 0) :
    (2 : ℚ) ^ (n.log2 : Int) ≤ n ∧ (n : ℚ) < 2 ^ ((n.log2 : Int) + 1) := by
  constructor
  · rw [zpow_natCast]
    exact_mod_cast Nat.log2_self_le h
  · have hlt : n < 2 ^ (n.log2 + 1) := Nat.lt_log2_self
    have hcast : ((n.log2 : Int) + 1) = ((n.log2 + 1 : Nat) : Int) := by push_cast; ring
    rw [hcast, zpow_natCast]
    exact_mod_cast hlt

/-- The order is the exponent of the greatest power of two that is not above the quotient. -/
theorem binaryOrder_bounds (hnum : x.num ≠ 0) (hden : x.den ≠ 0) :
    (2 : ℚ) ^ x.binaryOrder ≤ x.value ∧ x.value < 2 ^ (x.binaryOrder + 1) := by
  obtain ⟨hnumLow, hnumHigh⟩ := log2_bounds hnum
  obtain ⟨hdenLow, hdenHigh⟩ := log2_bounds hden
  have hden' : (0 : ℚ) < x.den := Nat.cast_pos.mpr (Nat.pos_of_ne_zero hden)
  generalize he : (x.num.log2 : Int) - x.den.log2 = e
  have hnumOrder : (x.num.log2 : Int) = e + x.den.log2 := by omega
  rw [hnumOrder] at hnumLow hnumHigh
  have hupper : x.value < 2 ^ (e + 1) := by
    rw [value, div_lt_iff₀ hden']
    calc (x.num : ℚ) < 2 ^ (e + x.den.log2 + 1) := hnumHigh
      _ = 2 ^ (e + 1) * 2 ^ (x.den.log2 : Int) := by
        rw [← zpow_add₀ two_ne_zero]; congr 1; ring
      _ ≤ 2 ^ (e + 1) * x.den := by gcongr
  have hlower : (2 : ℚ) ^ (e - 1) ≤ x.value := by
    rw [value, le_div_iff₀ hden']
    calc (2 : ℚ) ^ (e - 1) * x.den ≤ 2 ^ (e - 1) * 2 ^ ((x.den.log2 : Int) + 1) := by gcongr
      _ = 2 ^ (e + x.den.log2) := by rw [← zpow_add₀ two_ne_zero]; congr 1; ring
      _ ≤ x.num := hnumLow
  have hcompare : (x.scale 2 (-e)).den ≤ (x.scale 2 (-e)).num ↔ (2 : ℚ) ^ e ≤ x.value := by
    have hscaled : (x.scale 2 (-e)).value = x.value * ((2 : Nat) : ℚ) ^ (-e) := value_scale (-e)
    have hpos : (0 : ℚ) < (x.scale 2 (-e)).den :=
      Nat.cast_pos.mpr (Nat.pos_of_ne_zero (scale_den_ne_zero two_ne_zero hden _))
    rw [← Nat.cast_le (α := ℚ), ← one_le_div hpos]
    show 1 ≤ (x.scale 2 (-e)).value ↔ _
    rw [hscaled, zpow_neg, ← div_eq_mul_inv, Nat.cast_ofNat, one_le_div (by positivity)]
  unfold binaryOrder
  dsimp only
  rw [he]
  split_ifs with hle
  · exact ⟨hcompare.mp hle, hupper⟩
  · rw [hcompare, not_le] at hle
    exact ⟨hlower, by rwa [sub_add_cancel]⟩

end Ratio

namespace Binary64

variable {x : Ratio} {negative : Bool}

theorem magnitude_den_ne_zero (mantissa : Nat) (exponent : Int) :
    (magnitude mantissa exponent).den ≠ 0 :=
  Ratio.scale_den_ne_zero two_ne_zero one_ne_zero exponent

theorem value_magnitude (mantissa : Nat) (exponent : Int) :
    (magnitude mantissa exponent).value = mantissa * (2 : ℚ) ^ exponent := by
  have hone : Ratio.value ⟨mantissa, 1⟩ = mantissa := by rw [Ratio.value, Nat.cast_one, div_one]
  rw [magnitude, Ratio.value_scale, hone, Nat.cast_ofNat]

/-- A quotient in the range of normal numbers becomes infinite only when it is very great, and is
otherwise rounded to 53 significant bits. -/
theorem ofRatio_eq (negative : Bool) (hden : x.den ≠ 0)
    (hnormal : (2 : ℚ) ^ (-1022 : Int) ≤ x.value) :
    ofRatio negative x = .infinite negative ∧ (2 : ℚ) ^ (1023 : Int) ≤ x.value ∨
      ∃ mantissa exponent, ofRatio negative x = .finite negative mantissa exponent ∧
        (magnitude mantissa exponent).value =
          (x.scale 2 (52 - x.binaryOrder)).round * (2 : ℚ) ^ (x.binaryOrder - 52) := by
  have hnum : x.num ≠ 0 :=
    Ratio.num_ne_zero_of_value_pos ((zpow_pos two_pos _).trans_le hnormal)
  obtain ⟨hlow, hhigh⟩ := Ratio.binaryOrder_bounds hnum hden
  have horder : -1022 ≤ x.binaryOrder := by
    have hlt := (zpow_lt_zpow_iff_right₀ one_lt_two).mp (hnormal.trans_lt hhigh)
    omega
  have hexponent : max (x.binaryOrder - 52) minExponent = x.binaryOrder - 52 :=
    max_eq_left (by unfold minExponent; omega)
  unfold ofRatio
  rw [if_neg hnum]
  dsimp only
  rw [hexponent, neg_sub]
  have hgreat : 1023 ≤ x.binaryOrder → (2 : ℚ) ^ (1023 : Int) ≤ x.value := fun h =>
    (zpow_le_zpow_right₀ one_le_two h).trans hlow
  split_ifs with hcarry hinfinite hinfinite
  · exact Or.inl ⟨rfl, hgreat (by unfold maxExponent at hinfinite; omega)⟩
  · refine Or.inr ⟨_, _, rfl, ?_⟩
    rw [value_magnitude, hcarry, zpow_add_one₀ two_ne_zero]
    push_cast
    ring
  · exact Or.inl ⟨rfl, hgreat (by unfold maxExponent at hinfinite; omega)⟩
  · exact Or.inr ⟨_, _, rfl, value_magnitude _ _⟩

/-- A binary number is within one part in `2 ^ 53` of the quotient that it is rounded from. -/
theorem ofRatio_near (negative : Bool) (hden : x.den ≠ 0) (hlow : 1 / 1024 ≤ x.value) :
    ofRatio negative x = .infinite negative ∧ (2 : ℚ) ^ (1023 : Int) ≤ x.value ∨
      ∃ mantissa exponent, ofRatio negative x = .finite negative mantissa exponent ∧
        |(magnitude mantissa exponent).value - x.value| ≤ x.value / 2 ^ 53 := by
  have hnormal : (2 : ℚ) ^ (-1022 : Int) ≤ x.value := by
    have hpower : (2 : ℚ) ^ (-10 : Int) = 1 / 1024 := by norm_num
    rw [← hpower] at hlow
    exact (zpow_le_zpow_right₀ one_le_two (by decide)).trans hlow
  have hnum : x.num ≠ 0 :=
    Ratio.num_ne_zero_of_value_pos ((zpow_pos two_pos _).trans_le hnormal)
  refine (ofRatio_eq negative hden hnormal).imp_right ?_
  rintro ⟨mantissa, exponent, hfinite, hvalue⟩
  refine ⟨mantissa, exponent, hfinite, ?_⟩
  have hround := Ratio.round_near (Ratio.scale_den_ne_zero two_ne_zero hden (52 - x.binaryOrder))
  have hscaled : x.value = (x.scale 2 (52 - x.binaryOrder)).value * (2 : ℚ) ^ (x.binaryOrder - 52) := by
    rw [Ratio.value_scale, Nat.cast_ofNat, mul_assoc, ← zpow_add₀ two_ne_zero]
    simp
  have hpos : (0 : ℚ) < 2 ^ (x.binaryOrder - 52) := zpow_pos two_pos _
  have hpower : (2 : ℚ) ^ (x.binaryOrder - 52) = 2 ^ x.binaryOrder / 2 ^ 52 := by
    rw [zpow_sub₀ two_ne_zero]
    norm_num
  calc |(magnitude mantissa exponent).value - x.value|
      = |((x.scale 2 (52 - x.binaryOrder)).round : ℚ) - (x.scale 2 (52 - x.binaryOrder)).value| *
          2 ^ (x.binaryOrder - 52) := by
        rw [hvalue, hscaled, ← sub_mul, abs_mul, abs_of_pos hpos]
    _ ≤ 1 / 2 * (2 ^ x.binaryOrder / 2 ^ 52) := by rw [hpower]; gcongr
    _ ≤ 1 / 2 * (x.value / 2 ^ 52) := by
        gcongr
        exact (Ratio.binaryOrder_bounds hnum hden).1
    _ = x.value / 2 ^ 53 := by ring

theorem ofRatio_moderate (negative : Bool) (hden : x.den ≠ 0) (hlow : 1 / 1024 ≤ x.value)
    (hhigh : x.value < 2 ^ 53) :
    ∃ mantissa exponent, ofRatio negative x = .finite negative mantissa exponent ∧
      |(magnitude mantissa exponent).value - x.value| ≤ x.value / 2 ^ 53 :=
  (ofRatio_near negative hden hlow).resolve_left fun h => h.2.not_gt
    (hhigh.trans (zpow_lt_zpow_right₀ one_lt_two (by decide : (53 : Int) < 1023)))

/-- Whole numbers of at most 53 bits are not rounded. -/
theorem ofRatio_whole {n : Nat} (negative : Bool) (hden : x.den ≠ 0) (hvalue : x.value = n)
    (hn : n < 2 ^ 53) :
    ∃ mantissa exponent, ofRatio negative x = .finite negative mantissa exponent ∧
      (magnitude mantissa exponent).value = n := by
  by_cases hnum : x.num = 0
  · have hzero : (n : ℚ) = 0 := by rw [← hvalue, Ratio.value, hnum, Nat.cast_zero, zero_div]
    exact ⟨0, minExponent, by rw [ofRatio, if_pos hnum],
      by rw [value_magnitude, hzero, Nat.cast_zero, zero_mul]⟩
  · obtain ⟨hlow, hhigh⟩ := Ratio.binaryOrder_bounds hnum hden
    have hone : (1 : ℚ) ≤ x.value := by
      have hpos : (0 : ℚ) < x.value := (zpow_pos two_pos _).trans_le hlow
      rw [hvalue] at hpos ⊢
      exact_mod_cast Nat.cast_pos.mp hpos
    have hbelow : x.value < 2 ^ (53 : Int) := by
      rw [hvalue]
      exact_mod_cast hn
    have horder : x.binaryOrder < 53 :=
      (zpow_lt_zpow_iff_right₀ one_lt_two).mp (hlow.trans_lt hbelow)
    have hnormal : (2 : ℚ) ^ (-1022 : Int) ≤ x.value :=
      (zpow_le_one_of_nonpos₀ one_le_two (by decide)).trans hone
    have hfinite := (ofRatio_eq negative hden hnormal).resolve_left fun h => h.2.not_gt
      (hbelow.trans (zpow_lt_zpow_right₀ one_lt_two (by decide)))
    obtain ⟨mantissa, exponent, hfinite, hmagnitude⟩ := hfinite
    refine ⟨mantissa, exponent, hfinite, ?_⟩
    obtain ⟨k, hk⟩ : ∃ k : Nat, 52 - x.binaryOrder = k := Int.eq_ofNat_of_zero_le (by omega)
    have hscaled : (x.scale 2 (52 - x.binaryOrder)).value = (n * 2 ^ k : Nat) := by
      rw [Ratio.value_scale, hvalue, hk, zpow_natCast]
      push_cast
      rfl
    have hback : x.binaryOrder - 52 = -(k : Int) := by omega
    rw [hmagnitude, Ratio.round_of_value_eq (Ratio.scale_den_ne_zero two_ne_zero hden _) hscaled,
      hback, zpow_neg, zpow_natCast, Nat.cast_mul, Nat.cast_pow, Nat.cast_ofNat]
    exact mul_inv_cancel_right₀ (pow_ne_zero k two_ne_zero) _

end Binary64

end ChannelSearch
