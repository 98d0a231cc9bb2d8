/-!
Quotients of natural numbers rounded to the nearest integer, and their scale in powers of two and ten.
-/

namespace ChannelSearch

/-- The integer nearest to `num / den`; a half goes to the even neighbour. -/
def roundHalfEven (num den : Nat) : Nat :=
  let q := num / den
  let twice := 2 * (num % den)
  if twice < den then q
  else if den < twice then q + 1
  else q + q % 2

/-- A quotient of natural numbers. -/
structure Ratio where
  num : Nat
  den : Nat
deriving Repr

namespace Ratio

/-- The quotient times `base ^ k`, for a negative `k` too. -/
def scale (x : Ratio) (base : Nat) (k : Int) : Ratio :=
  if 0 ≤ k then ⟨x.num * base.pow k.toNat, x.den⟩ else ⟨x.num, x.den * base.pow k.natAbs⟩

def less (x y : Ratio) : Bool := x.num * y.den < y.num * x.den

def floor (x : Ratio) : Nat := x.num / x.den

def round (x : Ratio) : Nat := roundHalfEven x.num x.den

/-- The exponent `e` with `2 ^ e ≤ x < 2 ^ (e + 1)`, for a positive `x`. -/
def binaryOrder (x : Ratio) : Int :=
  let e := (x.num.log2 : Int) - x.den.log2
  let y := x.scale 2 (-e)
  if y.den ≤ y.num then e else e - 1

/-- The exponent `k` with `10 ^ (k - 1) ≤ x < 10 ^ k`, for a positive `x`. -/
def decimalOrder (x : Ratio) : Int :=
  let k := x.binaryOrder * 30103 / 100000
  let below := fun k => (x.scale 10 (-k)).less ⟨1, 1⟩
  if below k then k else if below (k + 1) then k + 1 else k + 2

end Ratio

end ChannelSearch
