import ChannelSearch.Sql.Clause
import ChannelSearch.Text.Quoted

/-!
Select statements, put together from clauses, and the checks that a statement passes before it is
sent: every mark has its argument, and an offset comes with a limit.
-/

namespace ChannelSearch.Sql

/-- A statement ready to be sent. -/
structure Statement where
  sql : Text
  args : List Json
deriving Repr

inductive SelectError where
  | emptyValueList (column : Text)
  | nothingSelected
  | argumentCount (clause : Text) (placeholders args : Nat)
  | offsetWithoutLimit
deriving DecidableEq, Repr

def SelectError.message : SelectError → Text
  | .emptyValueList column => "empty value list for ".toList ++ column
  | .nothingSelected => "select requires columns and a from clause".toList
  | .argumentCount clause placeholders args =>
    "clause ".toList ++ clause.quoted ++ " expects ".toList ++ Text.ofNat placeholders ++
      " args, got ".toList ++ Text.ofNat args
  | .offsetWithoutLimit => "offset requires a limit".toList

structure Select where
  columns : List Text
  source : Text
  wheres : List Clause := []
  orderBy : Text := []
  limit : Option Int := none
  offset : Option Int := none
  distinct : Bool := false
deriving Repr

namespace Select

def filter (q : Select) (c : Clause) : Select := { q with wheres := q.wheres ++ [c] }

def filterIn (q : Select) (column : Text) (values : List Json) (negate : Bool) :
    Except SelectError Select :=
  if values.isEmpty then .error (.emptyValueList column)
  else
    let word := if negate then " NOT IN " else " IN "
    .ok (q.filter (⟨column ++ word.toList, []⟩ ++ Clause.list values))

/-- The values as the members of one JSON argument: one mark, however many values there are. -/
def inJson (column : Text) (values : List Json) : Clause :=
  ⟨column ++ " IN (SELECT value FROM json_each(?))".toList, [.text (Json.write (.array values))]⟩

def filterInJson (q : Select) (column : Text) (values : List Json) : Except SelectError Select :=
  if values.isEmpty then .error (.emptyValueList column) else .ok (q.filter (inJson column values))

/-- An offset of zero is none. -/
def start (q : Select) : Option Int := q.offset.filter (· ≠ 0)

def limitClause (q : Select) : Clause :=
  match q.limit with
  | none => ⟨[], []⟩
  | some limit =>
    ⟨" LIMIT ?".toList, [.int limit]⟩ ++
      match q.start with
      | none => ⟨[], []⟩
      | some offset => ⟨" OFFSET ?".toList, [.int offset]⟩

/-- The whole statement as one clause, whether or not it passes the checks. -/
def clause (q : Select) : Clause :=
  let verb := if q.distinct then "SELECT DISTINCT " else "SELECT "
  let head : Clause :=
    ⟨verb.toList ++ Text.join ", ".toList q.columns ++ " FROM ".toList ++ q.source, []⟩
  let condition : Clause :=
    if q.wheres.isEmpty then ⟨[], []⟩
    else ⟨" WHERE ".toList, []⟩ ++ Clause.join " AND " q.wheres
  let order : Clause :=
    if q.orderBy.isEmpty then ⟨[], []⟩ else ⟨" ORDER BY ".toList ++ q.orderBy, []⟩
  head ++ condition ++ order ++ q.limitClause

def check (q : Select) : Except SelectError Unit := do
  if q.columns.isEmpty || q.source.isEmpty then throw .nothingSelected
  for c in q.wheres do
    if c.placeholders ≠ c.args.length then
      throw (.argumentCount c.text c.placeholders c.args.length)
  if q.limit.isNone && q.start.isSome then throw .offsetWithoutLimit

def statement (q : Select) : Except SelectError Statement :=
  q.check.map fun _ => ⟨q.clause.text, q.clause.args⟩

/-- A clause that ends with a select in brackets. -/
def filterSelect (q : Select) (head : Text) (sub : Select) : Except SelectError Select :=
  sub.statement.map fun s =>
    q.filter (⟨head ++ [' '], []⟩ ++ Clause.brackets ⟨s.sql, s.args⟩)

end Select

end ChannelSearch.Sql
