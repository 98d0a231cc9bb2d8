/-!
Character classes and letter maps given by ranges of code points.
-/

namespace ChannelSearch

/-- The code points from `first` to `last`, both included. -/
structure CharRange where
  first : Nat
  last : Nat
deriving DecidableEq, Repr

/-- Every `step`-th code point from `first` to `last`, sent to the code points from `image` on. -/
structure CaseRun where
  first : Nat
  last : Nat
  step : Nat
  image : Nat
deriving DecidableEq, Repr

def CharRange.contains (r : CharRange) (n : Nat) : Bool := r.first ≤ n && n ≤ r.last

def CaseRun.contains (r : CaseRun) (n : Nat) : Bool :=
  r.first ≤ n && n ≤ r.last && (n - r.first) % r.step = 0

/-- The image of a code point under the first run that holds it; elsewhere the map is the identity. -/
def CaseRun.applyAll (runs : List CaseRun) (n : Nat) : Nat :=
  match runs.find? (·.contains n) with
  | some r => r.image + (n - r.first)
  | none => n

end ChannelSearch
