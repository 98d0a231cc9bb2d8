import ChannelSearch.Json.Writer

/-!
Pieces of a statement: text with a question mark for every bound argument, and the arguments in the
order of their marks.
-/

namespace ChannelSearch.Sql

structure Clause where
  text : Text
  args : List Json := []
deriving Repr

namespace Clause

def placeholders (c : Clause) : Nat := c.text.count '?'

/-- Two pieces one after the other. -/
def append (a b : Clause) : Clause := ⟨a.text ++ b.text, a.args ++ b.args⟩

instance : Append Clause := ⟨append⟩

theorem append_assoc (a b c : Clause) : a ++ b ++ c = a ++ (b ++ c) := by
  show Clause.mk (a.text ++ b.text ++ c.text) (a.args ++ b.args ++ c.args) = _
  rw [List.append_assoc, List.append_assoc]
  rfl

theorem append_nil (c : Clause) : c ++ ⟨[], []⟩ = c := by
  show Clause.mk (c.text ++ []) (c.args ++ []) = c
  rw [List.append_nil, List.append_nil]

/-- Pieces with a text between neighbours. -/
def join (separator : String) (cs : List Clause) : Clause :=
  ⟨Text.join separator.toList (cs.map text), cs.flatMap args⟩

def brackets (c : Clause) : Clause := ⟨'(' :: (c.text ++ [')']), c.args⟩

/-- A value list `(?, ?, …)`. -/
def list (values : List Json) : Clause :=
  (join ", " (values.map fun v => ⟨['?'], [v]⟩)).brackets

end Clause

end ChannelSearch.Sql
