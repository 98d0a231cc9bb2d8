import ChannelSearch.Sql.Clause
import ChannelSearch.Sql.Pattern
import ChannelSearch.Text.LetterCase

/-!
Tests on the columns of a row. A test has a text with its arguments, and it is true or false of the
values of the columns.
-/

namespace ChannelSearch.Sql

/-- What a column holds. -/
inductive Value where
  | int (n : Int)
  | text (t : Text)
deriving DecidableEq, Repr

def Value.asText : Value → Text
  | .int n => Text.ofInt n
  | .text t => t

/-- What a pattern is matched against: a column as it is, or in lower case. -/
inductive Operand (C : Type) where
  | column (c : C)
  | lower (c : C)
deriving DecidableEq, Repr

namespace Operand

variable {C : Type}

def text (name : C → Text) : Operand C → Text
  | .column c => name c
  | .lower c => "LOWER(".toList ++ name c ++ [')']

def value (row : C → Value) : Operand C → Text
  | .column c => (row c).asText
  | .lower c => (row c).asText.lower

end Operand

inductive Test (C : Type) where
  | equals (c : C) (value : Text)
  | sameAs (c d : C)
  | isZero (c : C)
  | isEmpty (c : C)
  | atLeast (c : C) (bound : Int)
  | atMost (c : C) (bound : Int)
  | between (c : C) (low high : Int)
  | oneOf (c : C) (values : List Text)
  | noneOf (c : C) (values : List Text)
  | oneOfJson (c : C) (values : List Text)
  | like (operand : Operand C) (escape : Char) (pattern : Text)
  | unlike (operand : Operand C) (escape : Char) (pattern : Text)
deriving DecidableEq, Repr

namespace Test

variable {C : Type}

def escapeText (escape : Char) : Text := " ESCAPE '".toList ++ [escape, '\'']

def clause (name : C → Text) : Test C → Clause
  | .equals c value => ⟨name c ++ " = ?".toList, [.text value]⟩
  | .sameAs c d => ⟨name c ++ " = ".toList ++ name d, []⟩
  | .isZero c => ⟨name c ++ " = 0".toList, []⟩
  | .isEmpty c => ⟨name c ++ " = ''".toList, []⟩
  | .atLeast c bound => ⟨name c ++ " >= ?".toList, [.int bound]⟩
  | .atMost c bound => ⟨name c ++ " <= ?".toList, [.int bound]⟩
  | .between c low high => ⟨name c ++ " BETWEEN ? AND ?".toList, [.int low, .int high]⟩
  | .oneOf c values => ⟨name c ++ " IN ".toList, []⟩ ++ Clause.list (values.map .text)
  | .noneOf c values => ⟨name c ++ " NOT IN ".toList, []⟩ ++ Clause.list (values.map .text)
  | .oneOfJson c values =>
    ⟨name c ++ " IN (SELECT value FROM json_each(?))".toList,
      [.text (Json.write (.array (values.map .text)))]⟩
  | .like x escape pattern =>
    ⟨x.text name ++ " LIKE ?".toList ++ escapeText escape, [.text pattern]⟩
  | .unlike x escape pattern =>
    ⟨x.text name ++ " NOT LIKE ?".toList ++ escapeText escape, [.text pattern]⟩

def isAtLeast (bound : Int) : Value → Bool
  | .int n => bound ≤ n
  | .text _ => true

def isAtMost (bound : Int) : Value → Bool
  | .int n => n ≤ bound
  | .text _ => false

/-- Texts come after all numbers in the order of values. -/
def holds (row : C → Value) : Test C → Bool
  | .equals c value => row c = .text value
  | .sameAs c d => row c = row d
  | .isZero c => row c = .int 0
  | .isEmpty c => row c = .text []
  | .atLeast c bound => isAtLeast bound (row c)
  | .atMost c bound => isAtMost bound (row c)
  | .between c low high => isAtLeast low (row c) && isAtMost high (row c)
  | .oneOf c values => values.any fun v => row c = .text v
  | .noneOf c values => !values.any fun v => row c = .text v
  | .oneOfJson c values => values.any fun v => row c = .text v
  | .like x escape pattern => likeText escape pattern (x.value row)
  | .unlike x escape pattern => !likeText escape pattern (x.value row)

def pattern? : Test C → Option Text
  | .like _ _ pattern => some pattern
  | .unlike _ _ pattern => some pattern
  | _ => none

end Test

end ChannelSearch.Sql
