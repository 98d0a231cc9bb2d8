import ChannelSearch.Proofs.Statements

/-!
Selects that are put together step by step, with selects inside their conditions. Main statement: such a
select is refused exactly when it selects nothing, a condition has not as many marks as arguments, or an
offset comes without a limit; otherwise each mark stands in the part of the statement that gave its
argument.
-/

namespace ChannelSearch.Sql

namespace Clause

theorem placeholders_append (a b : Clause) :
    (a ++ b).placeholders = a.placeholders + b.placeholders :=
  List.count_append

theorem length_args_append (a b : Clause) : (a ++ b).args.length = a.args.length + b.args.length :=
  List.length_append

end Clause

/-- How a select is put together: it starts without conditions, and each step adds one at most. -/
inductive Plan where
  | select (q : Select)
  | filter (p : Plan) (c : Clause)
  | filterOptional (p : Plan) (c : Option Clause)
  | filterIn (p : Plan) (column : Text) (values : List Json) (negate : Bool)
  | filterInJson (p : Plan) (column : Text) (values : List Json)
  | filterSelect (p : Plan) (head : Text) (sub : Plan)

/-- A part of a statement: its own words, one of its conditions, counted from zero, a part of the select
inside a condition, the limit or the offset. -/
inductive Part where
  | words
  | condition (n : Nat)
  | inside (n : Nat) (part : Part)
  | limit
  | offset
deriving DecidableEq, Repr

/-- The part belongs to a condition. -/
def Part.IsOf (n : Nat) (part : Part) : Prop := part = .condition n ∨ ∃ inner, part = .inside n inner

/-- A piece of a statement, and the part it belongs to. -/
structure Piece where
  part : Part
  clause : Clause

namespace Piece

/-- The piece as one of the select inside a condition. -/
def inside (n : Nat) (p : Piece) : Piece := { p with part := .inside n p.part }

/-- The clause that pieces make up. -/
def together (ps : List Piece) : Clause := ⟨ps.flatMap (·.clause.text), ps.flatMap (·.clause.args)⟩

/-- The letters of pieces, each with the part it stands in. -/
def letters (ps : List Piece) : List (Part × Char) :=
  ps.flatMap fun p => p.clause.text.map (p.part, ·)

/-- The arguments of pieces, each with the part that gives it. -/
def arguments (ps : List Piece) : List (Part × Json) :=
  ps.flatMap fun p => p.clause.args.map (p.part, ·)

/-- Each piece is part of the condition at the place where it stands. -/
def Numbered (conditions : List (List Piece)) : Prop :=
  ∀ (n : Nat) (ps : List Piece), conditions[n]? = some ps → ∀ piece ∈ ps, piece.part.IsOf n

variable {ps qs : List Piece}

theorem together_append (ps qs : List Piece) : together (ps ++ qs) = together ps ++ together qs := by
  unfold together
  rw [List.flatMap_append, List.flatMap_append]
  rfl

theorem together_cons (p : Piece) (ps : List Piece) : together (p :: ps) = p.clause ++ together ps := rfl

theorem together_singleton (p : Piece) : together [p] = p.clause := by
  simp [together]

theorem together_inside (n : Nat) (ps : List Piece) : together (ps.map (inside n)) = together ps := by
  unfold together
  rw [List.flatMap_map, List.flatMap_map]
  rfl

/-- Lists of pieces with a word between neighbours make up the clauses of the lists, joined by the word. -/
theorem together_intercalate (word : String) (cs : List (List Piece)) :
    together ([⟨.words, ⟨word.toList, []⟩⟩].intercalate cs) = Clause.join word (cs.map together) := by
  induction cs with
  | nil => rfl
  | cons c cs ih =>
    by_cases hcs : cs = []
    · subst hcs
      simp [Clause.join]
    · rw [List.intercalate_cons_of_ne_nil hcs, together_append, together_append, ih,
        together_singleton, List.map_cons, Clause.join_cons (by simpa using hcs), Clause.append_assoc]

/-- The pieces of a condition that a select stands in make up the select in brackets. -/
theorem together_select (n : Nat) (head : Text) (ps : List Piece) :
    together (⟨.condition n, ⟨head ++ " (".toList, []⟩⟩ ::
        (ps.map (inside n) ++ [⟨.condition n, ⟨[')'], []⟩⟩])) =
      ⟨head ++ [' '], []⟩ ++ (together ps).brackets := by
  rw [together_cons, together_append, together_inside, together_singleton]
  show Clause.mk (head ++ " (".toList ++ ((together ps).text ++ [')'])) ((together ps).args ++ []) =
    Clause.mk (head ++ [' '] ++ '(' :: ((together ps).text ++ [')'])) (together ps).args
  simp

/-- No piece has more arguments than marks. -/
def Covers (ps : List Piece) : Prop := ∀ p ∈ ps, p.clause.args.length ≤ p.clause.placeholders

theorem Covers.nil : Covers [] := fun _ h => nomatch h

theorem Covers.cons {p : Piece} (hp : p.clause.args.length ≤ p.clause.placeholders) (h : Covers ps) :
    Covers (p :: ps) := List.forall_mem_cons.mpr ⟨hp, h⟩

theorem Covers.append (h : Covers ps) (h' : Covers qs) : Covers (ps ++ qs) :=
  List.forall_mem_append.mpr ⟨h, h'⟩

theorem Covers.intercalate {word : Piece} (hword : word.clause.args.length ≤ word.clause.placeholders)
    {cs : List (List Piece)} (h : ∀ ps ∈ cs, Covers ps) : Covers ([word].intercalate cs) := by
  induction cs with
  | nil => exact Covers.nil
  | cons c cs ih =>
    obtain ⟨hc, hcs⟩ := List.forall_mem_cons.mp h
    by_cases hnil : cs = []
    · subst hnil
      simpa using hc
    · rw [List.intercalate_cons_of_ne_nil hnil]
      exact (hc.append (Covers.cons hword Covers.nil)).append (ih hcs)

theorem Covers.length_le (h : Covers ps) : (together ps).args.length ≤ (together ps).placeholders := by
  induction ps with
  | nil => exact Nat.le_refl 0
  | cons p ps ih =>
    obtain ⟨hp, hps⟩ := List.forall_mem_cons.mp h
    have htail := ih hps
    rw [together_cons, Clause.placeholders_append, Clause.length_args_append]
    omega

/-- Where no piece has more arguments than marks, and all together have as many, each has as many. -/
theorem Covers.balanced (h : Covers ps) (hall : (together ps).Balanced) :
    ∀ p ∈ ps, p.clause.Balanced := by
  induction ps with
  | nil =>
    intro p hp
    cases hp
  | cons p ps ih =>
    obtain ⟨hp, hps⟩ := List.forall_mem_cons.mp h
    have htail := Covers.length_le hps
    unfold Clause.Balanced at hall
    rw [together_cons, Clause.placeholders_append, Clause.length_args_append] at hall
    have hfirst : p.clause.placeholders = p.clause.args.length := by omega
    have hrest : (together ps).placeholders = (together ps).args.length := by omega
    exact List.forall_mem_cons.mpr ⟨hfirst, ih hps hrest⟩

/-- A text with more than `k` marks has a mark after `k` others. -/
theorem exists_mark {t : Text} {k : Nat} (h : k < t.count '?') :
    ∃ before after, t = before ++ '?' :: after ∧ before.count '?' = k := by
  induction t generalizing k with
  | nil => cases h
  | cons c t ih =>
    by_cases hc : c = '?'
    · subst hc
      rw [List.count_cons_self] at h
      cases k with
      | zero => exact ⟨[], t, rfl, rfl⟩
      | succ k =>
        obtain ⟨before, after, rfl, hcount⟩ := ih (Nat.lt_of_succ_lt_succ h)
        exact ⟨'?' :: before, after, rfl, by rw [List.count_cons_self, hcount]⟩
    · rw [List.count_cons_of_ne hc] at h
      obtain ⟨before, after, rfl, hcount⟩ := ih h
      exact ⟨c :: before, after, rfl, by rw [List.count_cons_of_ne hc, hcount]⟩

/-- Where pieces have as many marks as arguments, a mark with as many before it as an argument has stands
in the piece of this argument. -/
theorem mark_of_argument (h : ∀ p ∈ ps, p.clause.Balanced) {k : Nat} {part : Part} {v : Json}
    (hk : (arguments ps)[k]? = some (part, v)) :
    ∃ before after, letters ps = before ++ (part, '?') :: after ∧
      (before.map Prod.snd).count '?' = k := by
  induction ps generalizing k with
  | nil => cases hk
  | cons p ps ih =>
    obtain ⟨hp, hps⟩ := List.forall_mem_cons.mp h
    have harguments : arguments (p :: ps) = p.clause.args.map (p.part, ·) ++ arguments ps := rfl
    have hletters : letters (p :: ps) = p.clause.text.map (p.part, ·) ++ letters ps := rfl
    have hmarks : p.clause.text.count '?' = p.clause.args.length := hp
    rw [harguments] at hk
    rw [hletters]
    by_cases hlt : k < p.clause.args.length
    · rw [List.getElem?_append_left (by simpa using hlt), List.getElem?_map] at hk
      obtain ⟨w, -, hw⟩ := Option.map_eq_some_iff.mp hk
      obtain ⟨before, after, htext, hcount⟩ := exists_mark (hmarks ▸ hlt)
      obtain ⟨rfl, rfl⟩ := Prod.mk.inj hw
      refine ⟨before.map (p.part, ·), after.map (p.part, ·) ++ letters ps, ?_, ?_⟩
      · rw [htext]
        simp
      · simpa using hcount
    · rw [List.getElem?_append_right (by simpa using hlt), List.length_map] at hk
      obtain ⟨before, after, htail, hcount⟩ := ih hps hk
      refine ⟨p.clause.text.map (p.part, ·) ++ before, after, ?_, ?_⟩
      · rw [htail, List.append_assoc]
      · rw [List.map_append, List.count_append, hcount]
        simp only [List.map_map, Function.comp_def, List.map_id', hmarks]
        omega

/-- A condition of one piece is balanced when the piece is. -/
theorem balanced_concat {conditions : List (List Piece)} {piece : Piece}
    (ih : (∀ ps ∈ conditions, (together ps).Balanced) →
      ∀ ps ∈ conditions, ∀ piece ∈ ps, piece.clause.Balanced)
    (h : ∀ ps ∈ conditions ++ [[piece]], (together ps).Balanced) :
    ∀ ps ∈ conditions ++ [[piece]], ∀ piece ∈ ps, piece.clause.Balanced := by
  simp only [List.forall_mem_append, List.forall_mem_singleton, together_singleton] at h ⊢
  exact ⟨ih h.1, h.2⟩

theorem Numbered.concat {conditions : List (List Piece)} {ps : List Piece} (h : Numbered conditions)
    (hps : ∀ piece ∈ ps, piece.part.IsOf conditions.length) : Numbered (conditions ++ [ps]) := by
  intro n qs hqs
  rcases Nat.lt_trichotomy n conditions.length with hlt | rfl | hgt
  · rw [List.getElem?_append_left hlt] at hqs
    exact h n qs hqs
  · rw [List.getElem?_concat_length] at hqs
    exact Option.some.inj hqs ▸ hps
  · have hlength : (conditions ++ [ps]).length ≤ n := by
      rw [List.length_append, List.length_singleton]
      omega
    rw [List.getElem?_eq_none hlength] at hqs
    cases hqs

theorem text_letters (ps : List Piece) : (letters ps).map Prod.snd = (together ps).text := by
  unfold letters together
  rw [List.map_flatMap]
  simp

theorem args_arguments (ps : List Piece) : (arguments ps).map Prod.snd = (together ps).args := by
  unfold arguments together
  rw [List.map_flatMap]
  simp

end Piece

/-- The condition that a column is on a list of values, or on none of them. -/
def Clause.inValues (column : Text) (values : List Json) (negate : Bool) : Clause :=
  ⟨column ++ (if negate then " NOT IN " else " IN ").toList, []⟩ ++ Clause.list values

namespace Select

variable {q q' : Select}

theorem exists_error_iff : (∃ e, q.statement = .error e) ↔ ¬ q.Checked := by
  constructor
  · rintro ⟨e, he⟩ hchecked
    rw [statement_eq_ok_iff.mpr ⟨hchecked, rfl⟩] at he
    cases he
  · intro hnot
    cases h : q.statement with
    | error e => exact ⟨e, rfl⟩
    | ok s => exact absurd (statement_eq_ok_iff.mp h).1 hnot

/-- An offset of zero is no start. -/
theorem start_eq_none : q.start = none ↔ ¬ ∃ n ∈ q.offset, n ≠ 0 := by
  unfold start
  simp [Option.filter_eq_none_iff]

theorem args_limitClause_of_checked (h : q.Checked) :
    q.limitClause.args = (q.limit.toList ++ q.start.toList).map .int := by
  unfold limitClause
  cases hlimit : q.limit with
  | none =>
    have hstart : q.start = none := h.limit.resolve_left (by simp [hlimit])
    rw [hstart]
    rfl
  | some n => cases q.start <;> rfl

/-- What keeps a select from being sent. -/
theorem not_checked_iff : ¬ q.Checked ↔
    q.columns = [] ∨ q.source = [] ∨ (∃ c ∈ q.wheres, c.text.count '?' ≠ c.args.length) ∨
      q.limit = none ∧ ∃ n ∈ q.offset, n ≠ 0 := by
  have hchecked : q.Checked ↔ q.columns ≠ [] ∧ q.source ≠ [] ∧ (∀ c ∈ q.wheres, c.Balanced) ∧
      (q.limit ≠ none ∨ ¬ ∃ n ∈ q.offset, n ≠ 0) := by
    rw [← start_eq_none, ← Option.isSome_iff_ne_none]
    constructor
    · intro h
      exact ⟨h.columns, h.source, h.wheres, h.limit⟩
    · rintro ⟨hcolumns, hsource, hwheres, hlimit⟩
      exact ⟨hcolumns, hsource, hwheres, hlimit⟩
  rw [hchecked]
  unfold Clause.Balanced Clause.placeholders
  simp only [not_and_or, not_or, not_not, not_forall, exists_prop, ne_eq]

theorem filterIn_eq_ok {column : Text} {values : List Json} {negate : Bool} :
    q.filterIn column values negate = .ok q' ↔
      values ≠ [] ∧ q.filter (.inValues column values negate) = q' := by
  unfold filterIn
  by_cases h : values = []
  · simp [h]
  · rw [if_neg (by simpa using h)]
    simp [h, Clause.inValues]

theorem filterInJson_eq_ok {column : Text} {values : List Json} :
    q.filterInJson column values = .ok q' ↔ values ≠ [] ∧ q.filter (inJson column values) = q' := by
  unfold filterInJson
  by_cases h : values = [] <;> simp [h]

theorem filterSelect_eq_ok {head : Text} {sub : Select} :
    q.filterSelect head sub = .ok q' ↔
      sub.Checked ∧ q.filter (⟨head ++ [' '], []⟩ ++ sub.clause.brackets) = q' := by
  unfold filterSelect
  rw [map_eq_ok]
  constructor
  · rintro ⟨s, hs, rfl⟩
    obtain ⟨hchecked, rfl⟩ := statement_eq_ok_iff.mp hs
    exact ⟨hchecked, rfl⟩
  · rintro ⟨hchecked, rfl⟩
    exact ⟨_, statement_eq_ok_iff.mpr ⟨hchecked, rfl⟩, rfl⟩

end Select

/-- The pieces of a statement from its first word on, given those of its conditions. -/
def Select.layOut (q : Select) (conditions : List (List Piece)) : List Piece :=
  let words (t : Text) : Piece := ⟨.words, ⟨t, []⟩⟩
  let verb := if q.distinct then "SELECT DISTINCT " else "SELECT "
  let head := words (verb.toList ++ Text.join ", ".toList q.columns ++ " FROM ".toList ++ q.source)
  let condition :=
    if conditions.isEmpty then []
    else words " WHERE ".toList :: [words " AND ".toList].intercalate conditions
  let order := if q.orderBy.isEmpty then [] else [words (" ORDER BY ".toList ++ q.orderBy)]
  let limit (n : Int) : Piece := ⟨.limit, ⟨" LIMIT ?".toList, [.int n]⟩⟩
  let offset (n : Int) : Piece := ⟨.offset, ⟨" OFFSET ?".toList, [.int n]⟩⟩
  let paging :=
    match q.limit with
    | none => []
    | some n => limit n :: (q.start.map offset).toList
  head :: (condition ++ order ++ paging)

namespace Plan

open Piece

/-- Carries out the steps. -/
def build : Plan → Except SelectError Select
  | select q => .ok { q with wheres := [] }
  | filter p c => p.build.map (·.filter c)
  | filterOptional p c => p.build.map fun q => c.elim q q.filter
  | filterIn p column values negate => do (← p.build).filterIn column values negate
  | filterInJson p column values => do (← p.build).filterInJson column values
  | filterSelect p head sub => do (← p.build).filterSelect head (← sub.build)

/-- The select without its conditions. -/
def frame : Plan → Select
  | select q => { q with wheres := [] }
  | filter p _ => p.frame
  | filterOptional p _ => p.frame
  | filterIn p _ _ _ => p.frame
  | filterInJson p _ _ => p.frame
  | filterSelect p _ _ => p.frame

/-- The pieces of each condition. A condition is one piece, unless a select stands inside it. -/
def conditions : Plan → List (List Piece)
  | select _ => []
  | filter p c => p.conditions ++ [[⟨.condition p.conditions.length, c⟩]]
  | filterOptional p c =>
    p.conditions ++ c.toList.map fun c => [⟨.condition p.conditions.length, c⟩]
  | filterIn p column values negate =>
    p.conditions ++ [[⟨.condition p.conditions.length, .inValues column values negate⟩]]
  | filterInJson p column values =>
    p.conditions ++ [[⟨.condition p.conditions.length, Select.inJson column values⟩]]
  | filterSelect p head sub =>
    let n := p.conditions.length
    p.conditions ++
      [⟨.condition n, ⟨head ++ " (".toList, []⟩⟩ ::
        ((sub.frame.layOut sub.conditions).map (inside n) ++ [⟨.condition n, ⟨[')'], []⟩⟩])]

/-- The pieces of the statement. -/
def pieces (p : Plan) : List Piece := p.frame.layOut p.conditions

end Plan

theorem Select.together_layOut (q : Select) (conditions : List (List Piece)) :
    Piece.together (q.layOut conditions) =
      clause { q with wheres := conditions.map Piece.together } := by
  unfold clause layOut
  simp only [Piece.together_cons, Piece.together_append, List.isEmpty_map, Clause.append_assoc]
  congr 1
  congr 1
  · split_ifs
    · rfl
    · rw [Piece.together_cons, Piece.together_intercalate]
  · congr 1
    · split_ifs
      · rfl
      · rw [Piece.together_singleton]
    · unfold limitClause start
      dsimp only
      cases q.limit with
      | none => rfl
      | some n => cases q.offset.filter (· ≠ 0) <;> rfl

/-- The words of a statement have no arguments, and its limit and its offset have one for their mark. -/
theorem Select.covers_layOut (q : Select) {conditions : List (List Piece)}
    (h : ∀ ps ∈ conditions, ∀ piece ∈ ps, piece.clause.Balanced) :
    Piece.Covers (q.layOut conditions) := by
  have hconditions : ∀ ps ∈ conditions, Piece.Covers ps :=
    fun ps hps piece hpiece => (h ps hps piece hpiece).ge
  unfold layOut
  refine Piece.Covers.cons (Nat.zero_le _) (Piece.Covers.append (Piece.Covers.append ?_ ?_) ?_)
  · split_ifs
    · exact Piece.Covers.nil
    · exact Piece.Covers.cons (Nat.zero_le _) (Piece.Covers.intercalate (Nat.zero_le _) hconditions)
  · split_ifs
    · exact Piece.Covers.nil
    · exact Piece.Covers.cons (Nat.zero_le _) Piece.Covers.nil
  · cases q.limit with
    | none => exact Piece.Covers.nil
    | some n =>
      refine Piece.Covers.cons (Nat.le_refl 1) ?_
      cases q.start with
      | none => exact Piece.Covers.nil
      | some m => exact Piece.Covers.cons (Nat.le_refl 1) Piece.Covers.nil

namespace Plan

open Piece

variable {p : Plan} {q : Select}

theorem filter_together (q : Select) (conditions : List (List Piece)) {ps : List Piece} {c : Clause}
    (h : together ps = c) :
    Select.filter { q with wheres := conditions.map together } c =
      { q with wheres := (conditions ++ [ps]).map together } := by
  simp [Select.filter, h]

/-- A select that is built has the conditions of its plan, each made up of its pieces. -/
theorem build_eq (h : p.build = .ok q) : q = { p.frame with wheres := p.conditions.map together } := by
  induction p generalizing q with
  | select frame =>
    cases h
    rfl
  | filter p c ih =>
    obtain ⟨q, hq, rfl⟩ := map_eq_ok.mp h
    rw [ih hq]
    exact filter_together p.frame p.conditions (together_singleton _)
  | filterOptional p c ih =>
    obtain ⟨q, hq, rfl⟩ := map_eq_ok.mp h
    rw [ih hq]
    cases c with
    | none => simp [frame, conditions]
    | some c => exact filter_together p.frame p.conditions (together_singleton _)
  | filterIn p column values negate ih =>
    obtain ⟨q, hq, h⟩ := bind_eq_ok.mp h
    obtain ⟨-, rfl⟩ := Select.filterIn_eq_ok.mp h
    rw [ih hq]
    exact filter_together p.frame p.conditions (together_singleton _)
  | filterInJson p column values ih =>
    obtain ⟨q, hq, h⟩ := bind_eq_ok.mp h
    obtain ⟨-, rfl⟩ := Select.filterInJson_eq_ok.mp h
    rw [ih hq]
    exact filter_together p.frame p.conditions (together_singleton _)
  | filterSelect p head sub ih ihsub =>
    obtain ⟨q, hq, h⟩ := bind_eq_ok.mp h
    obtain ⟨inner, hinner, h⟩ := bind_eq_ok.mp h
    obtain ⟨-, rfl⟩ := Select.filterSelect_eq_ok.mp h
    rw [ih hq, ihsub hinner, ← Select.together_layOut]
    exact filter_together p.frame p.conditions (together_select _ head _)

/-- A plan that is built makes the clause of its pieces. -/
theorem clause_build (h : p.build = .ok q) : q.clause = together p.pieces := by
  rw [build_eq h, pieces, Select.together_layOut]

theorem wheres_build (h : p.build = .ok q) : q.wheres = p.conditions.map together := by
  rw [build_eq h]

/-- Where the conditions of a plan are balanced, so are their pieces, those of the selects inside them
included. -/
theorem balanced_conditions (h : p.build = .ok q) (hall : ∀ ps ∈ p.conditions, (together ps).Balanced) :
    ∀ ps ∈ p.conditions, ∀ piece ∈ ps, piece.clause.Balanced := by
  induction p generalizing q with
  | select frame =>
    intro ps hps
    cases hps
  | filter p c ih =>
    obtain ⟨q, hq, -⟩ := map_eq_ok.mp h
    exact balanced_concat (ih hq) hall
  | filterOptional p c ih =>
    obtain ⟨q, hq, -⟩ := map_eq_ok.mp h
    cases c with
    | none =>
      rw [conditions, Option.toList_none, List.map_nil, List.append_nil] at hall ⊢
      exact ih hq hall
    | some c => exact balanced_concat (ih hq) hall
  | filterIn p column values negate ih =>
    obtain ⟨q, hq, -⟩ := bind_eq_ok.mp h
    exact balanced_concat (ih hq) hall
  | filterInJson p column values ih =>
    obtain ⟨q, hq, -⟩ := bind_eq_ok.mp h
    exact balanced_concat (ih hq) hall
  | filterSelect p head sub ih ihsub =>
    obtain ⟨q, hq, h⟩ := bind_eq_ok.mp h
    obtain ⟨inner, hinner, h⟩ := bind_eq_ok.mp h
    obtain ⟨hchecked, -⟩ := Select.filterSelect_eq_ok.mp h
    have hwheres := hchecked.wheres
    rw [wheres_build hinner, List.forall_mem_map] at hwheres
    have hcovers := Select.covers_layOut sub.frame (ihsub hinner hwheres)
    have hinside : Covers ((sub.frame.layOut sub.conditions).map (inside p.conditions.length)) :=
      List.forall_mem_map.mpr hcovers
    simp only [conditions, List.forall_mem_append, List.forall_mem_singleton] at hall ⊢
    refine ⟨ih hq hall.1, Covers.balanced ?_ hall.2⟩
    exact Covers.cons (Nat.zero_le _) (hinside.append (Covers.cons (Nat.zero_le _) Covers.nil))

/-- The pieces of a condition are parts of this condition. -/
theorem numbered_conditions (p : Plan) : Numbered p.conditions := by
  have hone (n : Nat) (c : Clause) : ∀ piece ∈ [(⟨.condition n, c⟩ : Piece)], piece.part.IsOf n :=
    List.forall_mem_singleton.mpr (Or.inl rfl)
  induction p with
  | select frame =>
    intro n ps hps
    cases hps
  | filter p c ih => exact Numbered.concat ih (hone _ _)
  | filterOptional p c ih =>
    cases c with
    | none =>
      rw [conditions, Option.toList_none, List.map_nil, List.append_nil]
      exact ih
    | some c => exact Numbered.concat ih (hone _ _)
  | filterIn p column values negate ih => exact Numbered.concat ih (hone _ _)
  | filterInJson p column values ih => exact Numbered.concat ih (hone _ _)
  | filterSelect p head sub ih ihsub =>
    refine Numbered.concat ih (List.forall_mem_cons.mpr ⟨Or.inl rfl, ?_⟩)
    refine List.forall_mem_append.mpr ⟨?_, hone _ _⟩
    exact List.forall_mem_map.mpr fun piece _ => Or.inr ⟨piece.part, rfl⟩

/-- A statement that is made by a plan: its conditions are those of the plan in order, and each mark
stands in the part that gives its argument. -/
structure Makes (p : Plan) (q : Select) (s : Statement) : Prop where
  wheres : q.wheres = p.conditions.map together
  parts : Numbered p.conditions
  text : s.sql = (letters p.pieces).map Prod.snd
  args : s.args = (arguments p.pieces).map Prod.snd
  order : s.args = q.wheres.flatMap Clause.args ++ (q.limit.toList ++ q.start.toList).map .int
  balanced : s.sql.count '?' = s.args.length
  marks : ∀ k part v, (arguments p.pieces)[k]? = some (part, v) →
    ∃ before after, letters p.pieces = before ++ (part, '?') :: after ∧
      (before.map Prod.snd).count '?' = k

theorem makes_of_checked (h : p.build = .ok q) (hchecked : q.Checked)
    (hhead : ∀ t ∈ q.source :: q.columns, '?' ∉ t) (horder : '?' ∉ q.orderBy) :
    p.Makes q ⟨q.clause.text, q.clause.args⟩ := by
  have hclause := clause_build h
  have hbalanced : q.clause.Balanced := Select.clause_balanced hhead hchecked.wheres horder
  have hwheres := hchecked.wheres
  rw [wheres_build h, List.forall_mem_map] at hwheres
  have hcovers : Covers p.pieces := Select.covers_layOut p.frame (balanced_conditions h hwheres)
  refine ⟨wheres_build h, numbered_conditions p, ?_, ?_, ?_, hbalanced, ?_⟩
  · rw [text_letters, hclause]
  · rw [args_arguments, hclause]
  · rw [Select.args_clause, Select.args_limitClause_of_checked hchecked]
  · intro k part v hk
    exact mark_of_argument (hcovers.balanced (hclause ▸ hbalanced)) hk

/-- A select that is put together by steps is refused exactly when it has no columns or no source, a
condition has not as many marks as arguments, or an offset that is not zero comes without a limit. In
every other case the `k`th mark of its statement stands in the part that gives the `k`th argument. -/
theorem refused_or_makes (p : Plan) {q : Select} (hbuild : p.build = .ok q)
    (hhead : ∀ t ∈ q.source :: q.columns, '?' ∉ t) (horder : '?' ∉ q.orderBy) :
    ((∃ e, q.statement = .error e) ↔
      q.columns = [] ∨ q.source = [] ∨ (∃ c ∈ q.wheres, c.text.count '?' ≠ c.args.length) ∨
        q.limit = none ∧ ∃ n ∈ q.offset, n ≠ 0) ∧
      ∀ s, q.statement = .ok s → p.Makes q s := by
  constructor
  · rw [Select.exists_error_iff, Select.not_checked_iff]
  · intro s hs
    obtain ⟨hchecked, rfl⟩ := Select.statement_eq_ok_iff.mp hs
    exact makes_of_checked hbuild hchecked hhead horder

/-- A select with a condition of its own and one on a select of users. -/
def nested : Plan :=
  let users : Plan :=
    (select { columns := ["users.id".toList], source := "users".toList }).filterIn "users.id".toList
      [.text "u1".toList, .text "u2".toList] true
  let posts : Plan :=
    select
      { columns := ["id".toList], source := "posts".toList, orderBy := "id DESC".toList
        limit := some 10, offset := some 20 }
  (posts.filter ⟨"channel_id = ?".toList, [.text "C1".toList]⟩).filterSelect "user_id IN".toList users

/-- The two users go to the marks of the inner condition, the last two arguments to limit and offset. -/
theorem refused_or_makes_nested :
    ∃ q s, nested.build = .ok q ∧ (∀ t ∈ q.source :: q.columns, '?' ∉ t) ∧ '?' ∉ q.orderBy ∧
      q.statement = .ok s ∧
      s.sql = ("SELECT id FROM posts WHERE channel_id = ? AND user_id IN " ++
        "(SELECT users.id FROM users WHERE users.id NOT IN (?, ?)) " ++
        "ORDER BY id DESC LIMIT ? OFFSET ?").toList ∧
      (arguments nested.pieces).map Prod.fst =
        [.condition 0, .inside 1 (.condition 0), .inside 1 (.condition 0), .limit, .offset] ∧
      nested.Makes q s := by
  have hhead : ∀ t ∈ ["posts".toList, "id".toList], '?' ∉ t := by decide
  have horder : '?' ∉ "id DESC".toList := by decide
  refine ⟨_, _, rfl, hhead, horder, rfl, by decide +kernel, rfl, ?_⟩
  exact (refused_or_makes nested rfl hhead horder).2 _ rfl

end Plan

end ChannelSearch.Sql
