import ChannelSearch.Number.Binary64

/-!
Documents: the values of a JSON text. An object keeps the order of its keys and holds each key once.
-/

namespace ChannelSearch

inductive Json where
  | null
  | bool (b : Bool)
  | int (n : Int)
  | number (x : Binary64)
  | text (t : Text)
  | array (items : List Json)
  | object (fields : List (Text × Json))
deriving Inhabited, Repr

namespace Json

/-- Adds a field; a key that is there already keeps its place and takes the new value. -/
def setField (fields : List (Text × Json)) (key : Text) (value : Json) : List (Text × Json) :=
  if fields.any (·.1 = key) then fields.map fun f => if f.1 = key then (key, value) else f
  else fields ++ [(key, value)]

def ofFields (fields : List (Text × Json)) : List (Text × Json) :=
  fields.foldl (fun acc f => setField acc f.1 f.2) []

def field? (fields : List (Text × Json)) (key : Text) : Option Json :=
  (fields.find? (·.1 = key)).map (·.2)

/-- The values that do not count as given: null, false, zeros, and whatever is empty. -/
def isTruthy : Json → Bool
  | .null => false
  | .bool b => b
  | .int n => n ≠ 0
  | .number x => !x.isZero
  | .text t => !t.isEmpty
  | .array items => !items.isEmpty
  | .object fields => !fields.isEmpty

/-- The name that messages give to the kind of a value. -/
def kindName : Json → Text
  | .null => "NoneType".toList
  | .bool _ => "bool".toList
  | .int _ => "int".toList
  | .number _ => "float".toList
  | .text _ => "str".toList
  | .array _ => "list".toList
  | .object _ => "dict".toList

mutual

/-- Two values are the same. -/
def same : Json → Json → Bool
  | .null, .null => true
  | .bool a, .bool b => a = b
  | .int n, .int m => n = m
  | .number x, .number y => x = y
  | .text t, .text u => t = u
  | .array vs, .array ws => sameItems vs ws
  | .object fs, .object gs => sameFields fs gs
  | _, _ => false

def sameItems : List Json → List Json → Bool
  | [], [] => true
  | v :: vs, w :: ws => same v w && sameItems vs ws
  | _, _ => false

def sameFields : List (Text × Json) → List (Text × Json) → Bool
  | [], [] => true
  | (k, v) :: fs, (l, w) :: gs => k = l && same v w && sameFields fs gs
  | _, _ => false

end

mutual

theorem same_iff (v w : Json) : same v w = true ↔ v = w := by
  cases v with
  | array vs => cases w <;> simp [same, sameItems_iff]
  | object fs => cases w <;> simp [same, sameFields_iff]
  | _ => cases w <;> simp [same]

theorem sameItems_iff (vs ws : List Json) : sameItems vs ws = true ↔ vs = ws := by
  cases vs with
  | nil => cases ws <;> simp [sameItems]
  | cons v vs =>
    cases ws with
    | nil => simp [sameItems]
    | cons w ws => simp [sameItems, same_iff v w, sameItems_iff vs ws]

theorem sameFields_iff (fs gs : List (Text × Json)) : sameFields fs gs = true ↔ fs = gs := by
  cases fs with
  | nil => cases gs <;> simp [sameFields]
  | cons f fs =>
    obtain ⟨k, v⟩ := f
    cases gs with
    | nil => simp [sameFields]
    | cons g gs => simp [sameFields, Prod.ext_iff, same_iff v g.2, sameFields_iff fs gs, and_assoc]

end

instance : DecidableEq Json := fun v w => decidable_of_iff _ (same_iff v w)

end Json

end ChannelSearch
