import ChannelSearch.Proofs.ConditionTree
import ChannelSearch.Proofs.Words
import ChannelSearch.Search.Query

/-!
The text of a statement without the values that it is made for. A test, a condition or a query has a
shape, which is left when its values are blanked, and its text is the text of its shape.
-/

namespace ChannelSearch

namespace Sql

namespace Clause

theorem text_append (a b : Clause) : (a ++ b).text = a.text ++ b.text := rfl

theorem text_brackets (c : Clause) : c.brackets.text = '(' :: (c.text ++ [')']) := rfl

theorem text_join (separator : String) (cs : List Clause) :
    (join separator cs).text = Text.join separator.toList (cs.map text) := rfl

/-- The text of a value list depends on the number of values only. -/
theorem text_list {vs ws : List Json} (h : vs.length = ws.length) : (list vs).text = (list ws).text := by
  have hmarks (vs : List Json) : (vs.map fun v => (⟨['?'], [v]⟩ : Clause)).map text =
      List.replicate vs.length ['?'] := by
    rw [List.map_map]
    exact List.map_eq_replicate_iff.mpr fun _ _ => rfl
  rw [list, list, text_brackets, text_brackets, text_join, text_join, hmarks, hmarks, h]

end Clause

namespace Test

variable {C : Type} {name : C → Text}

/-- A test with blank values, as many as it has. -/
def shape : Test C → Test C
  | .equals c _ => .equals c []
  | .sameAs c d => .sameAs c d
  | .isZero c => .isZero c
  | .isEmpty c => .isEmpty c
  | .atLeast c _ => .atLeast c 0
  | .atMost c _ => .atMost c 0
  | .between c _ _ => .between c 0 0
  | .oneOf c values => .oneOf c (List.replicate values.length [])
  | .noneOf c values => .noneOf c (List.replicate values.length [])
  | .oneOfJson c _ => .oneOfJson c []
  | .like x escape _ => .like x escape []
  | .unlike x escape _ => .unlike x escape []

theorem text_clause_shape (t : Test C) : (t.shape.clause name).text = (t.clause name).text := by
  have hvalues (values : List Text) :
      (Clause.list ((List.replicate values.length []).map .text)).text =
        (Clause.list (values.map .text)).text := Clause.text_list (by simp)
  cases t with
  | oneOf c values => exact congrArg (name c ++ " IN ".toList ++ ·) (hvalues values)
  | noneOf c values => exact congrArg (name c ++ " NOT IN ".toList ++ ·) (hvalues values)
  | _ => rfl

end Test

/-- The text of a select depends on the texts of its conditions, and on whether it has a limit and a
start. -/
theorem Select.text_clause_congr {q q' : Select} (hcolumns : q.columns = q'.columns)
    (hsource : q.source = q'.source)
    (hwheres : q.wheres.map Clause.text = q'.wheres.map Clause.text)
    (horder : q.orderBy = q'.orderBy) (hlimit : q.limit.isSome = q'.limit.isSome)
    (hstart : q.start.isSome = q'.start.isSome) (hdistinct : q.distinct = q'.distinct) :
    q.clause.text = q'.clause.text := by
  have hlimits (q : Select) : q.limitClause.text = if q.limit.isSome then
      " LIMIT ?".toList ++ if q.start.isSome then " OFFSET ?".toList else [] else [] := by
    unfold limitClause
    cases q.limit with
    | none => rfl
    | some n => cases q.start <;> rfl
  have hcondition (q : Select) : (if q.wheres.isEmpty then (⟨[], []⟩ : Clause)
      else ⟨" WHERE ".toList, []⟩ ++ Clause.join " AND " q.wheres).text =
        if (q.wheres.map Clause.text).isEmpty then []
        else " WHERE ".toList ++ Text.join " AND ".toList (q.wheres.map Clause.text) := by
    cases q.wheres <;> rfl
  have horders (q : Select) : (if q.orderBy.isEmpty then (⟨[], []⟩ : Clause)
      else ⟨" ORDER BY ".toList ++ q.orderBy, []⟩).text =
        if q.orderBy.isEmpty then [] else " ORDER BY ".toList ++ q.orderBy := by
    split_ifs <;> rfl
  unfold clause
  simp only [Clause.text_append, hlimits, hcondition, horders, hcolumns, hsource, hwheres, horder,
    hlimit, hstart, hdistinct]

end Sql

/-- A filter on authors with blank values. -/
def UserQuery.shape (q : UserQuery) : UserQuery := { q with tests := q.tests.map Sql.Test.shape }

theorem UserQuery.text_select_shape (q : UserQuery) :
    q.shape.select.clause.text = q.select.clause.text := by
  refine Sql.Select.text_clause_congr rfl rfl ?_ rfl rfl rfl rfl
  rw [select, select, shape, List.map_map, List.map_map, List.map_map]
  exact List.map_congr_left fun t _ => Sql.Test.text_clause_shape t

namespace Condition

variable {C : Type} {name : C → Text}

mutual

/-- A condition with blank values. -/
def shape : Condition C → Condition C
  | .test t => .test t.shape
  | .isUserIn c q => .isUserIn c q.shape
  | .not x => .not (shape x)
  | .group op xs => .group op (shapes xs)
  | .both x y => .both (shape x) (shape y)

def shapes : List (Condition C) → List (Condition C)
  | [] => []
  | x :: xs => shape x :: shapes xs

end

theorem shapes_eq (xs : List (Condition C)) : shapes xs = xs.map shape := by
  induction xs with
  | nil => rw [shapes]; rfl
  | cons x xs ih => rw [shapes, ih, List.map_cons]

/-- The text of a condition is that of its shape. -/
theorem text_clause_shape (x : Condition C) : (clause name x.shape).text = (clause name x).text := by
  induction x using induction with
  | test t =>
    rw [shape, clause, clause]
    exact Sql.Test.text_clause_shape t
  | isUserIn c q =>
    rw [shape, clause, clause, Sql.Clause.text_append, Sql.Clause.text_append,
      Sql.Clause.text_brackets, Sql.Clause.text_brackets, UserQuery.text_select_shape]
  | not x ih =>
    rw [shape, clause, clause, Sql.Clause.text_append, Sql.Clause.text_append, ih]
  | group op xs ih =>
    have hxs : xs.map ((Sql.Clause.text ∘ clause name) ∘ shape) =
        xs.map (Sql.Clause.text ∘ clause name) := List.map_congr_left ih
    rw [shape, clause, clause, Sql.Clause.text_brackets, Sql.Clause.text_brackets,
      Sql.Clause.text_join, Sql.Clause.text_join, clauses_eq, clauses_eq, shapes_eq, List.map_map,
      List.map_map, List.map_map, hxs]
  | both x y ihx ihy =>
    rw [shape, clause, clause]
    simp only [Sql.Clause.text_append, ihx, ihy]

/-- Conditions of the same shapes have the same texts. -/
theorem texts_eq_of_shapes {xs ys : List (Condition C)} (h : xs.map shape = ys.map shape) :
    (clauses name xs).map Sql.Clause.text = (clauses name ys).map Sql.Clause.text := by
  have htexts (xs : List (Condition C)) : (clauses name xs).map Sql.Clause.text =
      (xs.map shape).map fun x => (clause name x).text := by
    rw [clauses_eq, List.map_map, List.map_map]
    exact List.map_congr_left fun x _ => (text_clause_shape x).symm
  rw [htexts, htexts, h]

end Condition

namespace PageQuery

variable {C : Type}

/-- Queries whose conditions have the same shapes, and that both start at the first row or both
later. -/
structure SameShape (q q' : PageQuery C) : Prop where
  conditions : q.conditions.map Condition.shape = q'.conditions.map Condition.shape
  start : (q.offset.filter (· ≠ 0)).isSome = (q'.offset.filter (· ≠ 0)).isSome

/-- Which channels a query is asked within does not show. -/
theorem SameShape.within {q q' : PageQuery C} (h : q.SameShape q') (column : C)
    (ids ids' : List Text) : (q.within column ids).SameShape (q'.within column ids') := by
  refine ⟨?_, h.start⟩
  rw [PageQuery.within, PageQuery.within, filter, filter, List.map_append, List.map_append,
    h.conditions]
  simp only [List.map_cons, Condition.shape, Sql.Test.shape]

end PageQuery

theorem PostQuery.text_select_congr {q q' : PostQuery} (h : PageQuery.SameShape q q') :
    (select q).clause.text = (select q').clause.text :=
  Sql.Select.text_clause_congr rfl rfl (Condition.texts_eq_of_shapes h.conditions) rfl rfl h.start rfl

theorem FileQuery.text_select_congr {q q' : FileQuery} (h : PageQuery.SameShape q q') :
    (select q).clause.text = (select q').clause.text :=
  Sql.Select.text_clause_congr rfl rfl (Condition.texts_eq_of_shapes h.conditions) rfl rfl h.start rfl

theorem ScopeQuery.text_select_congr {q q' : ScopeQuery} (hjoin : q.joinsMembers = q'.joinsMembers)
    (h : q.conditions.map Condition.shape = q'.conditions.map Condition.shape) :
    q.select.clause.text = q'.select.clause.text := by
  refine Sql.Select.text_clause_congr rfl ?_ (Condition.texts_eq_of_shapes h) rfl rfl rfl rfl
  rw [select, select, hjoin]

end ChannelSearch
