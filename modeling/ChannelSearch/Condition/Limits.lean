import ChannelSearch.Condition.Basic

/-!
What the store refuses: conditions nested too deeply, and patterns that are too long. Nesting is
checked before any row is read; a pattern only when a row is matched against it.
-/

namespace ChannelSearch.Condition

variable {C : Type}

/-- A column named with its table is two levels high. -/
def testHeight : Sql.Test C → Nat
  | .like (.column _) _ _ => 3
  | .like (.lower _) _ _ => 4
  | .unlike (.column _) _ _ => 4
  | .unlike (.lower _) _ _ => 5
  | .noneOf _ _ => 4
  | _ => 3

/-- The height of operands joined from the left. -/
def chainHeight : List Nat → Nat
  | [] => 0
  | h :: hs => hs.foldl (fun acc k => max acc k + 1) h

/-- The height of a select of users: of its column, or of its tests when they are higher. -/
def selectHeight (q : UserQuery) : Nat := max 2 (chainHeight (q.tests.map testHeight))

mutual

/-- The heights of the operands that a condition is made of where it is joined to others. Conditions
side by side are an operand each; brackets make one operand. -/
def operandHeights : Condition C → List Nat
  | .test t => [testHeight t]
  | .isUserIn _ q => [selectHeight q + 1]
  | .not x => [chainHeight (operandHeights x) + 1]
  | .group _ xs => [chainHeight (heights xs)]
  | .both x y => operandHeights x ++ operandHeights y

def heights : List (Condition C) → List Nat
  | [] => []
  | x :: xs => operandHeights x ++ heights xs

end

theorem heights_eq (xs : List (Condition C)) : heights xs = xs.flatMap operandHeights := by
  induction xs with
  | nil => rw [heights]; rfl
  | cons x xs ih => rw [heights, ih, List.flatMap_cons]

theorem heights_append (xs ys : List (Condition C)) : heights (xs ++ ys) = heights xs ++ heights ys := by
  rw [heights_eq, heights_eq, heights_eq, List.flatMap_append]

theorem heights_singleton (x : Condition C) : heights [x] = operandHeights x := by
  rw [heights, heights, List.append_nil]

theorem heights_tests (ts : List (Sql.Test C)) : heights (ts.map .test) = ts.map testHeight := by
  induction ts with
  | nil => rw [List.map_nil, heights]; rfl
  | cons t ts ih => rw [List.map_cons, heights, ih, operandHeights]; rfl

/-- The height of the tree of operators. -/
def height (x : Condition C) : Nat := chainHeight (operandHeights x)

@[simp] theorem height_test (t : Sql.Test C) : height (.test t) = testHeight t := by
  rw [height, operandHeights]; rfl

@[simp] theorem height_group (op : Connective) (xs : List (Condition C)) :
    height (.group op xs) = chainHeight (heights xs) := by
  rw [height, operandHeights]; rfl

def testNesting : Sql.Test C → Nat
  | .oneOfJson _ _ => 1
  | _ => 0

mutual

/-- The height of the highest select inside a condition. -/
def nesting : Condition C → Nat
  | .test t => testNesting t
  | .isUserIn _ q => selectHeight q
  | .not x => nesting x
  | .group _ xs => nestingOfAll xs
  | .both x y => max (nesting x) (nesting y)

def nestingOfAll : List (Condition C) → Nat
  | [] => 0
  | x :: xs => max (nesting x) (nestingOfAll xs)

end

theorem nestingOfAll_le {xs : List (Condition C)} {n : Nat} :
    nestingOfAll xs ≤ n ↔ ∀ x ∈ xs, nesting x ≤ n := by
  induction xs with
  | nil => simp [nestingOfAll]
  | cons x xs ih => rw [nestingOfAll, Nat.max_le, ih, List.forall_mem_cons]

/-- The greatest height that the store accepts. -/
def maxHeight : Nat := 1000

mutual

def hasPattern : Condition C → Bool
  | .test t => t.pattern?.isSome
  | .isUserIn _ _ => false
  | .not x => hasPattern x
  | .group _ xs => anyHasPattern xs
  | .both x y => hasPattern x || hasPattern y

def anyHasPattern : List (Condition C) → Bool
  | [] => false
  | x :: xs => hasPattern x || anyHasPattern xs

end

theorem anyHasPattern_eq (xs : List (Condition C)) : anyHasPattern xs = xs.any hasPattern := by
  induction xs with
  | nil => rw [anyHasPattern]; rfl
  | cons x xs ih => rw [anyHasPattern, ih, List.any_cons]

def isOverlong (t : Sql.Test C) : Bool :=
  match t.pattern? with
  | some pattern => Sql.maxPatternBytes < pattern.byteSize
  | none => false

mutual

/-- Whether deciding a condition on a row, from the left and no further than needed, matches against
a pattern that is too long. -/
def meetsOverlong (users : UserQuery → List Text) (row : C → Sql.Value) : Condition C → Bool
  | .test t => isOverlong t
  | .isUserIn _ _ => false
  | .not x => meetsOverlong users row x
  | .group .all xs => allMeetOverlong users row xs
  | .group .any xs => anyMeetsOverlong users row xs
  | .both x y => meetsOverlong users row x || (holds users row x && meetsOverlong users row y)

def allMeetOverlong (users : UserQuery → List Text) (row : C → Sql.Value) :
    List (Condition C) → Bool
  | [] => false
  | x :: xs => meetsOverlong users row x || (holds users row x && allMeetOverlong users row xs)

def anyMeetsOverlong (users : UserQuery → List Text) (row : C → Sql.Value) :
    List (Condition C) → Bool
  | [] => false
  | x :: xs => meetsOverlong users row x || (!holds users row x && anyMeetsOverlong users row xs)

end

variable {users : UserQuery → List Text} {row : C → Sql.Value}

theorem allMeetOverlong_append (xs ys : List (Condition C)) :
    allMeetOverlong users row (xs ++ ys) =
      (allMeetOverlong users row xs || (holdsAll users row xs && allMeetOverlong users row ys)) := by
  induction xs with
  | nil => simp [allMeetOverlong, holdsAll]
  | cons x xs ih =>
    rw [List.cons_append, allMeetOverlong, allMeetOverlong, holdsAll, ih]
    cases meetsOverlong users row x <;> cases holds users row x <;> simp

theorem allMeetOverlong_eq_false {xs : List (Condition C)}
    (h : ∀ x ∈ xs, meetsOverlong users row x = false) : allMeetOverlong users row xs = false := by
  induction xs with
  | nil => rw [allMeetOverlong]
  | cons x xs ih =>
    obtain ⟨hx, hxs⟩ := List.forall_mem_cons.mp h
    rw [allMeetOverlong, hx, ih hxs, Bool.and_false, Bool.or_false]

/-- Where all of the conditions hold, each of them is decided. -/
theorem allMeetOverlong_of_holdsAll {xs : List (Condition C)} (h : holdsAll users row xs = true)
    {x : Condition C} (hx : x ∈ xs) (hlong : meetsOverlong users row x = true) :
    allMeetOverlong users row xs = true := by
  induction xs with
  | nil => cases hx
  | cons y xs ih =>
    rw [holdsAll, Bool.and_eq_true] at h
    rw [allMeetOverlong, h.1, Bool.true_and]
    rcases List.mem_cons.mp hx with rfl | hx
    · rw [hlong, Bool.true_or]
    · rw [ih h.2 hx, Bool.or_true]

theorem anyMeetsOverlong_eq_false {xs : List (Condition C)}
    (h : ∀ x ∈ xs, meetsOverlong users row x = false) : anyMeetsOverlong users row xs = false := by
  induction xs with
  | nil => rw [anyMeetsOverlong]
  | cons x xs ih =>
    obtain ⟨hx, hxs⟩ := List.forall_mem_cons.mp h
    rw [anyMeetsOverlong, hx, ih hxs, Bool.and_false, Bool.or_false]

end ChannelSearch.Condition
