import ChannelSearch.Json.Display
import ChannelSearch.Text.Integer

/-!
Reading a value where an integer or a list is wanted.
-/

namespace ChannelSearch

/-- Why a value cannot be used as wanted; kinds of values are given by name. -/
inductive ConversionError where
  | notANumber (kind : Text)
  | notAnInteger (e : IntegerError)
  | noInteger (e : TruncationError)
  | notIterable (kind : Text)
  | noLength (kind : Text)
deriving DecidableEq, Repr

def ConversionError.message : ConversionError → Text
  | .notANumber kind =>
    "int() argument must be a string, a bytes-like object or a real number, not '".toList ++ kind ++
      ['\'']
  | .notAnInteger e => e.message
  | .noInteger e => e.message
  | .notIterable kind => '\'' :: (kind ++ "' object is not iterable".toList)
  | .noLength kind => "object of type '".toList ++ kind ++ "' has no len()".toList

namespace Json

/-- Numbers lose their fraction, truth values count as one and zero, and text must spell an
integer. -/
def toInteger : Json → Except ConversionError Int
  | .bool b => .ok (if b then 1 else 0)
  | .int n => .ok n
  | .number x => x.truncate.mapError .noInteger
  | .text t => t.readInteger.mapError .notAnInteger
  | v => .error (.notANumber v.kindName)

/-- The members of a collection: the items of a list, the keys of an object, the characters of a
text. -/
def elements : Json → Except ConversionError (List Json)
  | .array items => .ok items
  | .object fields => .ok (fields.map fun f => .text f.1)
  | .text t => .ok (t.map fun c => .text [c])
  | v => .error (.notIterable v.kindName)

/-- The number of members of a collection. -/
def length (v : Json) : Except ConversionError Nat :=
  match v with
  | .array items => .ok items.length
  | .object fields => .ok fields.length
  | .text t => .ok t.length
  | v => .error (.noLength v.kindName)

end Json

end ChannelSearch
