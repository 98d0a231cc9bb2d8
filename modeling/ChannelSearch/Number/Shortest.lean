import ChannelSearch.Number.Binary64

/-!
The shortest decimal text that reads back as the same binary number. Positional notation covers
magnitudes from `10 ^ -4` up to, but not including, `10 ^ 16`.
-/

namespace ChannelSearch.Binary64

/-- The numbers that round to a positive value: between the midpoints to its neighbours, with the
midpoints themselves when the mantissa is even. -/
structure RoundingInterval where
  low : Ratio
  high : Ratio
  closed : Bool

/-- Below a power of two the neighbour is only half as far. -/
def roundingInterval (mantissa : Nat) (exponent : Int) : RoundingInterval :=
  let below := if mantissa = leadingBit ∧ minExponent < exponent then 1 else 2
  { low := magnitude (4 * mantissa - below) (exponent - 2)
    high := magnitude (4 * mantissa + 2) (exponent - 2)
    closed := mantissa % 2 = 0 }

def RoundingInterval.contains (i : RoundingInterval) (x : Ratio) : Bool :=
  if i.closed then !x.less i.low && !i.high.less x else i.low.less x && x.less i.high

/-- The multiple of `10 ^ unit` in the interval that is nearest to `x`, as a multiplier; of the two
neighbours on the grid the nearer one is taken. -/
def nearestOnGrid? (i : RoundingInterval) (x : Ratio) (unit : Int) : Option Nat :=
  let scaled := x.scale 10 (-unit)
  let down := scaled.floor
  let inside := fun n : Nat => i.contains (Ratio.scale ⟨n, 1⟩ 10 unit)
  let candidates := if scaled.round = down then [down, down + 1] else [down + 1, down]
  candidates.find? inside

/-- The digits of the shortest decimal and the exponent of the last one. -/
def shortest (mantissa : Nat) (exponent : Int) : Nat × Int :=
  let x := magnitude mantissa exponent
  let i := roundingInterval mantissa exponent
  let order := x.decimalOrder
  let found := (List.range 17).findSome? fun (n : Nat) =>
    let unit := order - (n + 1 : Nat)
    (nearestOnGrid? i x unit).map fun digits => (digits, unit)
  found.getD (x.floor, 0)

/-- The digits without trailing zeros, and the position of the decimal point before the first one. -/
def significantDigits (mantissa : Nat) (exponent : Int) : Text × Int :=
  let (n, unit) := shortest mantissa exponent
  let digits := Text.ofNat n
  ((digits.reverse.dropWhile (· = '0')).reverse, unit + digits.length)

/-- Writes digits with the decimal point at `point`, keeping a digit on both sides of it. -/
def positional (digits : Text) (point : Int) : Text :=
  if point ≤ 0 then '0' :: '.' :: (List.replicate point.natAbs '0' ++ digits)
  else
    let whole := digits.take point.toNat
    let fraction := digits.drop point.toNat
    whole ++ List.replicate (point.toNat - whole.length) '0' ++
      '.' :: (if fraction.isEmpty then ['0'] else fraction)

/-- Writes one digit, the others as a fraction, and an exponent of at least two digits. -/
def scientific (digits : Text) (exponent : Int) : Text :=
  let fraction := digits.drop 1
  let size := Text.ofNat exponent.natAbs
  digits.take 1 ++ (if fraction.isEmpty then [] else '.' :: fraction) ++
    'e' :: (if exponent < 0 then '-' else '+') :: (List.replicate (2 - size.length) '0' ++ size)

def text : Binary64 → Text
  | .nan => "nan".toList
  | .infinite negative => if negative then "-inf".toList else "inf".toList
  | .finite negative mantissa exponent =>
    let body :=
      if mantissa = 0 then "0.0".toList
      else
        let (digits, point) := significantDigits mantissa exponent
        if -4 < point && point ≤ 16 then positional digits point else scientific digits (point - 1)
    if negative then '-' :: body else body

end ChannelSearch.Binary64
