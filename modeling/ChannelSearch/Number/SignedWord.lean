/-!
Integers in a machine word of a fixed number of bits, one of which is the sign.
-/

namespace ChannelSearch.SignedWord

/-- An integer has a word of its own when it lies between `-2 ^ (bits - 1)` and
`2 ^ (bits - 1) - 1`. -/
def holds (bits : Nat) (n : Int) : Bool :=
  let half : Int := Nat.pow 2 (bits - 1)
  n < half && -half ≤ n

/-- The integer in the word that the last `bits` bits of `n` make. -/
def wrap (bits : Nat) (n : Int) : Int := Int.bmod n (Nat.pow 2 bits)

end ChannelSearch.SignedWord
