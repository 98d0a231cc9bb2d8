import ChannelSearch.Condition.Limits
import Mathlib.Algebra.Order.Ring.Int
import Mathlib.Data.List.Basic
import Mathlib.Tactic.Common

/-!
Conditions by their members: how high conditions stand that are joined, and which tests a condition is
made of. A condition is decided without a long pattern when each of its tests is.
-/

namespace ChannelSearch

/-- Named once, so that membership of texts in lists is decided in one way everywhere. -/
instance : LawfulBEq Text := inferInstance

namespace Sql.Test

variable {C : Type} {row : C → Value} {column : C} {t : Text}

theorem holds_oneOf (h : row column = .text t) (values : List Text) :
    (oneOf column values).holds row = true ↔ t ∈ values := by
  simp [holds, h]

theorem holds_noneOf (h : row column = .text t) (values : List Text) :
    (noneOf column values).holds row = true ↔ t ∉ values := by
  simp only [holds, h, Bool.not_eq_true', List.any_eq_false, decide_eq_true_eq, Value.text.injEq]
  exact ⟨fun hall hmem => hall t hmem rfl, fun hmem v hv heq => hmem (heq ▸ hv)⟩

end Sql.Test

namespace Condition

variable {C : Type} {users : UserQuery → List Text} {row : C → Sql.Value}

/-- A property of conditions goes from the members of a group to the group. -/
@[elab_as_elim]
theorem induction {motive : Condition C → Prop} (test : ∀ t, motive (.test t))
    (isUserIn : ∀ c q, motive (.isUserIn c q)) (not : ∀ x, motive x → motive (.not x))
    (group : ∀ op xs, (∀ x ∈ xs, motive x) → motive (.group op xs))
    (both : ∀ x y, motive x → motive y → motive (.both x y)) (x : Condition C) : motive x := by
  refine @Condition.rec C motive (fun xs => ∀ x ∈ xs, motive x) test isUserIn not group both ?_ ?_ x
  · simp
  · exact fun x xs hx hxs => List.forall_mem_cons.mpr ⟨hx, hxs⟩

/-- Operands that are joined to others add a level each, or are a level below the whole. -/
theorem chainHeight_append_le (hs ks : List Nat) :
    chainHeight (hs ++ ks) ≤ max (chainHeight hs + ks.length) (chainHeight ks + 1) := by
  have hfold (ks : List Nat) (acc a b : Nat) (hacc : acc ≤ max a b + 1) :
      ks.foldl (fun acc k => max acc k + 1) acc ≤
        max (a + ks.length) (ks.foldl (fun acc k => max acc k + 1) b) + 1 := by
    induction ks generalizing acc a b with
    | nil => exact hacc
    | cons k ks ih =>
      have htail := ih (max acc k + 1) (a + 1) (max b k + 1) (by omega)
      rw [List.foldl_cons, List.foldl_cons, List.length_cons]
      omega
  cases hs with
  | nil =>
    rw [List.nil_append]
    omega
  | cons h hs =>
    have happend : chainHeight (h :: hs ++ ks) =
        ks.foldl (fun acc k => max acc k + 1) (chainHeight (h :: hs)) := List.foldl_append
    rw [happend]
    cases ks with
    | nil => exact Nat.le_max_left ..
    | cons k ks =>
      have htail := hfold ks (max (chainHeight (h :: hs)) k + 1) (chainHeight (h :: hs)) k (le_refl _)
      have hks : chainHeight (k :: ks) = ks.foldl (fun acc k => max acc k + 1) k := rfl
      rw [List.foldl_cons, List.length_cons, hks]
      omega

theorem chainHeight_le {hs : List Nat} {k : Nat} (h : ∀ x ∈ hs, x ≤ k) :
    chainHeight hs ≤ k + hs.length := by
  induction hs with
  | nil => exact Nat.zero_le _
  | cons x hs ih =>
    obtain ⟨hx, hhs⟩ := List.forall_mem_cons.mp h
    have hjoined : chainHeight (x :: hs) ≤ max (x + hs.length) (chainHeight hs + 1) :=
      chainHeight_append_le [x] hs
    have hrest := ih hhs
    rw [List.length_cons]
    omega

/-- Conditions that are so many operands at most, and joined to each other so high at most. -/
structure Spans (xs : List (Condition C)) (count top : Nat) : Prop where
  length_le : (heights xs).length ≤ count
  height_le : chainHeight (heights xs) ≤ top

theorem Spans.append {xs ys : List (Condition C)} {m n k l : Nat} (hxs : Spans xs m k)
    (hys : Spans ys n l) : Spans (xs ++ ys) (m + n) (max (k + n) (l + 1)) := by
  have hjoined := chainHeight_append_le (heights xs) (heights ys)
  refine ⟨?_, ?_⟩
  · rw [heights_append, List.length_append]
    exact Nat.add_le_add hxs.length_le hys.length_le
  · rw [heights_append]
    have hlength := hys.length_le
    have hleft := hxs.height_le
    have hright := hys.height_le
    omega

theorem spans_nil (m k : Nat) : Spans ([] : List (Condition C)) m k := by
  constructor
  · rw [heights]
    exact Nat.zero_le m
  · rw [heights]
    exact Nat.zero_le k

theorem spans_test {t : Sql.Test C} {k : Nat} (h : testHeight t ≤ k) : Spans [.test t] 1 k := by
  constructor
  · rw [heights_singleton, operandHeights, List.length_singleton]
  · rw [heights_singleton, operandHeights]
    exact h

/-- No select stands among conditions without one. -/
theorem nesting_group {op : Connective} {xs : List (Condition C)} (h : ∀ x ∈ xs, nesting x = 0) :
    nesting (.group op xs) = 0 := by
  rw [nesting]
  exact Nat.eq_zero_of_le_zero (nestingOfAll_le.mpr fun x hx => (h x hx).le)

mutual

/-- The tests on the row itself, those on users aside. -/
def tests : Condition C → List (Sql.Test C)
  | .test t => [t]
  | .isUserIn _ _ => []
  | .not x => tests x
  | .group _ xs => testsOfAll xs
  | .both x y => tests x ++ tests y

def testsOfAll : List (Condition C) → List (Sql.Test C)
  | [] => []
  | x :: xs => tests x ++ testsOfAll xs

end

theorem testsOfAll_eq (xs : List (Condition C)) : testsOfAll xs = xs.flatMap tests := by
  induction xs with
  | nil => rw [testsOfAll]; rfl
  | cons x xs ih => rw [testsOfAll, ih, List.flatMap_cons]

theorem mem_tests_group {op : Connective} {xs : List (Condition C)} {t : Sql.Test C} :
    t ∈ tests (.group op xs) ↔ ∃ x ∈ xs, t ∈ tests x := by
  rw [tests, testsOfAll_eq, List.mem_flatMap]

/-- No long pattern is met where no test has one. -/
theorem meetsOverlong_eq_false {x : Condition C} (h : ∀ t ∈ tests x, isOverlong t = false) :
    meetsOverlong users row x = false := by
  induction x using induction with
  | test t =>
    rw [meetsOverlong]
    exact h t (by simp [tests])
  | isUserIn c q => rw [meetsOverlong]
  | not x ih =>
    rw [meetsOverlong]
    exact ih fun t ht => h t (by rwa [tests])
  | group op xs ih =>
    have hxs (x : Condition C) (hx : x ∈ xs) : meetsOverlong users row x = false :=
      ih x hx fun t ht => h t (mem_tests_group.mpr ⟨x, hx, ht⟩)
    cases op with
    | all => rw [meetsOverlong, allMeetOverlong_eq_false hxs]
    | any => rw [meetsOverlong, anyMeetsOverlong_eq_false hxs]
  | both x y ihx ihy =>
    rw [meetsOverlong, ihx fun t ht => h t (by simp [tests, ht]),
      ihy fun t ht => h t (by simp [tests, ht]), Bool.and_false, Bool.or_false]

/-- A condition without a pattern is made of tests without one. -/
theorem pattern_eq_none {x : Condition C} (h : hasPattern x = false) {t : Sql.Test C}
    (ht : t ∈ tests x) : t.pattern? = none := by
  induction x using induction with
  | test u =>
    rw [tests, List.mem_singleton] at ht
    rw [hasPattern] at h
    simpa [ht] using h
  | isUserIn c q => simp [tests] at ht
  | not x ih =>
    rw [hasPattern] at h
    rw [tests] at ht
    exact ih h ht
  | group op xs ih =>
    rw [hasPattern, anyHasPattern_eq, List.any_eq_false] at h
    obtain ⟨x, hx, ht⟩ := mem_tests_group.mp ht
    exact ih x hx (by simpa using h x hx) ht
  | both x y ihx ihy =>
    rw [hasPattern, Bool.or_eq_false_iff] at h
    rw [tests, List.mem_append] at ht
    exact ht.elim (ihx h.1) (ihy h.2)

theorem meetsOverlong_of_hasPattern {x : Condition C} (h : hasPattern x = false) :
    meetsOverlong users row x = false :=
  meetsOverlong_eq_false fun t ht => by simp [isOverlong, pattern_eq_none h ht]

end Condition

end ChannelSearch
