import ChannelSearch.Number.Rounding
import ChannelSearch.Text.Basic

/-!
Binary numbers with 53 significant bits, as exact values: the rounding of a quotient, of a decimal
number, and the conversion to an integer. No machine arithmetic is involved.
-/

namespace ChannelSearch

/-- A finite value is `mantissa * 2 ^ exponent` under its sign. -/
inductive Binary64 where
  | nan
  | infinite (negative : Bool)
  | finite (negative : Bool) (mantissa : Nat) (exponent : Int)
deriving DecidableEq, Repr

inductive TruncationError where
  | nan
  | infinite
deriving DecidableEq, Repr

def TruncationError.message : TruncationError → Text
  | .nan => "cannot convert float NaN to integer".toList
  | .infinite => "cannot convert float infinity to integer".toList

namespace Binary64

/-- The least exponent of a finite value. -/
def minExponent : Int := -1074

/-- The greatest exponent of a finite value. -/
def maxExponent : Int := 971

/-- The mantissa of a power of two, `2 ^ 52`. -/
def leadingBit : Nat := 4503599627370496

/-- The value nearest to a quotient; a tie goes to the even mantissa. -/
def ofRatio (negative : Bool) (x : Ratio) : Binary64 :=
  if x.num = 0 then .finite negative 0 minExponent
  else
    let exponent := max (x.binaryOrder - 52) minExponent
    let mantissa := (x.scale 2 (-exponent)).round
    let (mantissa, exponent) :=
      if mantissa = 2 * leadingBit then (leadingBit, exponent + 1) else (mantissa, exponent)
    if maxExponent < exponent then .infinite negative else .finite negative mantissa exponent

/-- The value nearest to `digits * 10 ^ exponent`. Decimal exponents far outside the range are
decided without computing the power. -/
def ofDecimal (negative : Bool) (digits : Nat) (exponent : Int) : Binary64 :=
  let order := (toString digits).length + exponent
  if digits = 0 || order < -400 then .finite negative 0 minExponent
  else if 400 < order then .infinite negative
  else ofRatio negative (Ratio.scale ⟨digits, 1⟩ 10 exponent)

def magnitude (mantissa : Nat) (exponent : Int) : Ratio :=
  Ratio.scale ⟨mantissa, 1⟩ 2 exponent

def isZero : Binary64 → Bool
  | .finite _ mantissa _ => mantissa = 0
  | _ => false

/-- The integer part: a fraction is dropped on both sides of zero. -/
def truncate : Binary64 → Except TruncationError Int
  | .nan => .error .nan
  | .infinite _ => .error .infinite
  | .finite negative mantissa exponent =>
    let n : Int := (magnitude mantissa exponent).floor
    .ok (if negative then -n else n)

end Binary64

end ChannelSearch
