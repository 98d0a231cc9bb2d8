import ChannelSearch.UserQuery

/-!
Conditions on a row: tests, lists of conditions in brackets, and membership of an author in a select
of users. A condition has a text with its arguments, and it is true or false of a row.
-/

namespace ChannelSearch

/-- How the members of a list of conditions are joined. -/
inductive Connective where
  | all
  | any
deriving DecidableEq, Repr

def Connective.word : Connective → String
  | .all => " AND "
  | .any => " OR "

inductive Condition (C : Type) where
  | test (t : Sql.Test C)
  /-- The column holds the id of a user that the select yields. -/
  | isUserIn (c : C) (q : UserQuery)
  | not (x : Condition C)
  /-- Conditions in brackets. -/
  | group (op : Connective) (xs : List (Condition C))
  /-- Two conditions side by side, without brackets. -/
  | both (x y : Condition C)
deriving Repr

namespace Condition

variable {C : Type}

mutual

def clause (name : C → Text) : Condition C → Sql.Clause
  | .test t => t.clause name
  | .isUserIn c q => ⟨name c ++ " IN ".toList, []⟩ ++ q.select.clause.brackets
  | .not x => ⟨"NOT ".toList, []⟩ ++ clause name x
  | .group op xs => (Sql.Clause.join op.word (clauses name xs)).brackets
  | .both x y => clause name x ++ ⟨Connective.all.word.toList, []⟩ ++ clause name y

def clauses (name : C → Text) : List (Condition C) → List Sql.Clause
  | [] => []
  | x :: xs => clause name x :: clauses name xs

end

theorem clauses_eq (name : C → Text) (xs : List (Condition C)) :
    clauses name xs = xs.map (clause name) := by
  induction xs with
  | nil => rw [clauses]; rfl
  | cons x xs ih => rw [clauses, ih, List.map_cons]

mutual

/-- Truth on a row. `users` gives the ids that a select of users yields. -/
def holds (users : UserQuery → List Text) (row : C → Sql.Value) : Condition C → Bool
  | .test t => t.holds row
  | .isUserIn c q => (users q).any fun id => row c = .text id
  | .not x => !holds users row x
  | .group .all xs => holdsAll users row xs
  | .group .any xs => holdsAny users row xs
  | .both x y => holds users row x && holds users row y

def holdsAll (users : UserQuery → List Text) (row : C → Sql.Value) : List (Condition C) → Bool
  | [] => true
  | x :: xs => holds users row x && holdsAll users row xs

def holdsAny (users : UserQuery → List Text) (row : C → Sql.Value) : List (Condition C) → Bool
  | [] => false
  | x :: xs => holds users row x || holdsAny users row xs

end

variable {users : UserQuery → List Text} {row : C → Sql.Value}

@[simp] theorem holds_test (t : Sql.Test C) : holds users row (.test t) = t.holds row := by
  rw [holds]

@[simp] theorem holds_both (x y : Condition C) :
    holds users row (.both x y) = (holds users row x && holds users row y) := by
  rw [holds]

@[simp] theorem holds_isUserIn (c : C) (q : UserQuery) :
    holds users row (.isUserIn c q) = (users q).any fun id => row c = .text id := by
  rw [holds]

@[simp] theorem holds_all (xs : List (Condition C)) :
    holds users row (.group .all xs) = xs.all (holds users row) := by
  rw [holds]
  induction xs with
  | nil => rw [holdsAll]; rfl
  | cons x xs ih => rw [holdsAll, ih, List.all_cons]

@[simp] theorem holds_any (xs : List (Condition C)) :
    holds users row (.group .any xs) = xs.any (holds users row) := by
  rw [holds]
  induction xs with
  | nil => rw [holdsAny]; rfl
  | cons x xs ih => rw [holdsAny, ih, List.any_cons]

theorem holdsAll_eq (xs : List (Condition C)) : holdsAll users row xs = xs.all (holds users row) := by
  rw [← holds_all, holds]

end Condition

end ChannelSearch
