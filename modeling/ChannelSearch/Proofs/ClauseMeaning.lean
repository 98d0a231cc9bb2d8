import ChannelSearch.Proofs.BuiltQueries
import ChannelSearch.Proofs.FileTexts
import ChannelSearch.Proofs.SqlReading
import Mathlib.Data.List.Forall2

/-!
What the texts of conditions say when they are read. Main statement: the condition of tokens is read as
its inclusions and the negations of its exclusions, and the text of a query as the conjunction of its
conditions.
-/

namespace ChannelSearch

open Sql

namespace Sql

variable {C : Type} {e : Interpretation} {name : C → Text}

/-- A column, and what follows it after a blank. -/
theorem yields_column {w b : Text} {args : List Json} {J : List Item} (hw : IsName w)
    (hb : Yields e ⟨' ' :: b, args⟩ J) : Yields e ⟨w ++ ' ' :: b, args⟩ (.name w :: J) :=
  (yields_name hw).append hb (breaks_cons (by decide) b) (List.cons_ne_nil _ _)

namespace Operand

def items (e : Interpretation) (name : C → Text) : Operand C → List Item
  | .column c => [.name (name c)]
  | .lower c => [.keyword .lower, .enclosed (e.enclose [.name (name c)])]

theorem yields (hname : ∀ c, IsName (name c)) (x : Operand C) :
    Yields e ⟨x.text name, []⟩ (x.items e name) := by
  cases x with
  | column c => exact yields_name (hname c)
  | lower c =>
    exact yields_lower.append (yields_name (hname c)).brackets (breaks_cons (by decide) _)
      (List.cons_ne_nil _ _)

end Operand

namespace Test

/-- The mark of a pattern is no quote. -/
def Quotable : Test C → Prop
  | .like _ escape _ => escape ≠ '\''
  | .unlike _ escape _ => escape ≠ '\''
  | _ => True

def listItems : List Text → List Item
  | [] => []
  | [v] => [.value (.text v)]
  | v :: values => .value (.text v) :: .comma :: listItems values

/-- The members of a JSON argument. -/
def jsonItems (e : Interpretation) (values : List Text) : List Item :=
  [.name "value".toList, .keyword .source, .name "json_each".toList,
    .enclosed (e.enclose [.value (.text (Json.write (.array (values.map .text))))])]

def patternItems (escape : Char) (pattern : Text) : List Item :=
  [.keyword .like, .value (.text pattern), .keyword .escape, .value (.text [escape])]

def items (e : Interpretation) (name : C → Text) : Test C → List Item
  | .equals c value => [.name (name c), .keyword .equals, .value (.text value)]
  | .sameAs c d => [.name (name c), .keyword .equals, .name (name d)]
  | .isZero c => [.name (name c), .keyword .equals, .name ['0']]
  | .isEmpty c => [.name (name c), .keyword .equals, .value (.text [])]
  | .atLeast c bound => [.name (name c), .keyword .atLeast, .value (.int bound)]
  | .atMost c bound => [.name (name c), .keyword .atMost, .value (.int bound)]
  | .between c low high =>
    [.name (name c), .keyword .between, .value (.int low), .keyword .and, .value (.int high)]
  | .oneOf c values => [.name (name c), .keyword .isIn, .enclosed (e.enclose (listItems values))]
  | .noneOf c values =>
    [.name (name c), .keyword .not, .keyword .isIn, .enclosed (e.enclose (listItems values))]
  | .oneOfJson c values =>
    [.name (name c), .keyword .isIn, .enclosed (e.enclose (.keyword .select :: jsonItems e values))]
  | .like x escape pattern => x.items e name ++ patternItems escape pattern
  | .unlike x escape pattern => x.items e name ++ .keyword .not :: patternItems escape pattern

theorem leads_list (values : List Text) :
    Leads e (Clause.join ", " (values.map fun v => ⟨['?'], [.text v]⟩)) (listItems values) := by
  have hmark (v : Text) : Leads e ⟨['?'], [.text v]⟩ [.value (.text v)] := leads_mark rfl
  have hcomma : Leads e ⟨", ".toList, []⟩ [.comma] := fun _ _ _ _ => rfl
  induction values with
  | nil =>
    intro outer done args t
    rw [listItems, List.append_nil]
    rfl
  | cons v values ih =>
    cases values with
    | nil => exact hmark v
    | cons w values => exact (hmark v).append (hcomma.append ih)

/-- The comparison with a pattern, after the operand. -/
theorem leads_pattern {escape : Char} (hescape : escape ≠ '\'') (pattern : Text) :
    Leads e ⟨['L', 'I', 'K', 'E', ' ', '?'] ++ escapeText escape, [.text pattern]⟩
      (patternItems escape pattern) := by
  have hlike : Leads e ⟨['L', 'I', 'K', 'E', ' '], []⟩ [.keyword .like] := fun _ _ _ _ => rfl
  have hmark : Leads e ⟨['?'], [.text pattern]⟩ [.value (.text pattern)] := leads_mark rfl
  have hword : Leads e ⟨[' ', 'E', 'S', 'C', 'A', 'P', 'E', ' '], []⟩ [.keyword .escape] :=
    fun _ _ _ _ => rfl
  have hquoted : Leads e ⟨['\'', escape, '\''], []⟩ [.value (.text [escape])] := by
    intro outer done args t
    have hlex : lex (['\'', escape, '\''] ++ t) = .quoted [escape] :: lex t := by
      show lexFrom (.quoted []) (escape :: '\'' :: t) = _
      rw [lexFrom, if_neg hescape]
      rfl
    show e.readFrom outer done args (lex (['\'', escape, '\''] ++ t)) = _
    rw [hlex]
    rfl
  unfold escapeText
  simp only [String.reduceToList]
  exact hlike.append (hmark.append (hword.append hquoted))

theorem yields_values (values : List Text) :
    Yields e (Clause.list (values.map .text)) [.enclosed (e.enclose (listItems values))] := by
  rw [Clause.list, List.map_map]
  exact (leads_list values).yields.brackets

theorem yields (hname : ∀ c, IsName (name c)) {t : Test C} (ht : t.Quotable) :
    Yields e (t.clause name) (t.items e name) := by
  have hmark {v : Json} {x : Value} (hv : Value.ofJson? v = some x) :
      Leads e ⟨['?'], [v]⟩ [.value x] := leads_mark hv
  have hequals : Leads e ⟨[' ', '=', ' '], []⟩ [.keyword .equals] := fun _ _ _ _ => rfl
  have hnot : Leads e ⟨[' ', 'N', 'O', 'T', ' '], []⟩ [.keyword .not] := fun _ _ _ _ => rfl
  cases t with
  | equals c value =>
    simp only [clause, String.reduceToList]
    exact yields_column (hname c) (hequals.append (hmark rfl)).yields
  | sameAs c d =>
    simp only [clause, String.reduceToList]
    rw [List.append_assoc]
    exact yields_column (hname c) (hequals.append_yields (yields_name (hname d)))
  | isZero c =>
    have hzero : Yields e ⟨['0'], []⟩ [.name ['0']] := by
      intro outer done args t ht
      rw [lex_word (by decide) (by decide) ht]
      rfl
    simp only [clause, String.reduceToList]
    exact yields_column (hname c) (hequals.append_yields hzero)
  | isEmpty c =>
    have hempty : Leads e ⟨['\'', '\''], []⟩ [.value (.text [])] := fun _ _ _ _ => rfl
    simp only [clause, String.reduceToList]
    exact yields_column (hname c) (hequals.append hempty).yields
  | atLeast c bound =>
    have hatLeast : Leads e ⟨[' ', '>', '=', ' '], []⟩ [.keyword .atLeast] := fun _ _ _ _ => rfl
    simp only [clause, String.reduceToList]
    exact yields_column (hname c) (hatLeast.append (hmark rfl)).yields
  | atMost c bound =>
    have hatMost : Leads e ⟨[' ', '<', '=', ' '], []⟩ [.keyword .atMost] := fun _ _ _ _ => rfl
    simp only [clause, String.reduceToList]
    exact yields_column (hname c) (hatMost.append (hmark rfl)).yields
  | between c low high =>
    have hbetween : Leads e ⟨[' ', 'B', 'E', 'T', 'W', 'E', 'E', 'N', ' '], []⟩
        [.keyword .between] := fun _ _ _ _ => rfl
    have hand : Leads e ⟨[' ', 'A', 'N', 'D', ' '], []⟩ [.keyword .and] := fun _ _ _ _ => rfl
    simp only [clause, String.reduceToList]
    exact yields_column (hname c)
      (hbetween.append ((hmark rfl).append (hand.append (hmark rfl)))).yields
  | oneOf c values =>
    have hname' : (⟨name c ++ [' ', 'I', 'N', ' '], []⟩ : Clause) =
        ⟨name c, []⟩ ++ ⟨[' ', 'I', 'N', ' '], []⟩ := rfl
    have hin : Leads e ⟨[' ', 'I', 'N', ' '], []⟩ [.keyword .isIn] := fun _ _ _ _ => rfl
    simp only [clause, String.reduceToList]
    rw [hname', Clause.append_assoc]
    exact yields_column (hname c) (hin.append_yields (yields_values values))
  | noneOf c values =>
    have hname' : (⟨name c ++ [' ', 'N', 'O', 'T', ' ', 'I', 'N', ' '], []⟩ : Clause) =
        ⟨name c, []⟩ ++ (⟨[' ', 'N', 'O', 'T', ' '], []⟩ ++ ⟨['I', 'N', ' '], []⟩) := rfl
    have hin : Leads e ⟨['I', 'N', ' '], []⟩ [.keyword .isIn] := fun _ _ _ _ => rfl
    simp only [clause, String.reduceToList]
    rw [hname', Clause.append_assoc]
    exact yields_column (hname c) ((hnot.append hin).append_yields (yields_values values))
  | oneOfJson c values =>
    simp only [clause, String.reduceToList]
    refine yields_column (hname c) (Leads.yields fun outer done args t => ?_)
    show e.readFrom outer (done ++ [.keyword .isIn] ++
      [.enclosed (e.enclose (.keyword .select :: jsonItems e values))]) args (lex t) = _
    rw [List.append_assoc]
    rfl
  | like x escape pattern =>
    simp only [clause, String.reduceToList]
    rw [List.append_assoc]
    exact (x.yields hname).append (leads_blank.append (leads_pattern ht pattern)).yields
      (breaks_cons (by decide) _) (List.cons_ne_nil _ _)
  | unlike x escape pattern =>
    simp only [clause, String.reduceToList]
    rw [List.append_assoc]
    exact (x.yields hname).append (hnot.append (leads_pattern ht pattern)).yields
      (breaks_cons (by decide) _) (List.cons_ne_nil _ _)

theorem isLiteral_items (t : Test C) : Item.IsLiteral (t.items e name) := by
  cases t with
  | like x escape pattern => cases x <;> exact ⟨⟨by simp [items, Operand.items, patternItems, Item.isOr],
      fun _ => rfl⟩, rfl⟩
  | unlike x escape pattern => cases x <;> exact ⟨⟨by simp [items, Operand.items, patternItems,
      Item.isOr], fun _ => rfl⟩, rfl⟩
  | _ => exact ⟨⟨by simp [items, Item.isOr], fun _ => rfl⟩, rfl⟩

theorem values?_listItems (values : List Text) :
    e.values? (listItems values) = some (values.map .text) := by
  have hparts (v : Text) (values : List Text) : Item.parts Item.isComma (listItems (v :: values)) =
      (v :: values).map fun v => [.value (.text v)] := by
    induction values generalizing v with
    | nil => rfl
    | cons w values ih =>
      have hcons : Item.parts Item.isComma (listItems (v :: w :: values)) =
          [.value (.text v)] :: Item.parts Item.isComma (listItems (w :: values)) := rfl
      rw [hcons, ih w]
      rfl
  have hvalues (values : List Text) :
      (values.map fun v => [Item.value (.text v)]).mapM Item.value? = some (values.map .text) := by
    induction values with
    | nil => rfl
    | cons v values ih => rw [List.map_cons, List.mapM_cons, ih]; rfl
  cases values with
  | nil => rfl
  | cons v values =>
    have hread : e.values? (listItems (v :: values)) =
        (Item.parts Item.isComma (listItems (v :: values))).mapM Item.value? := by
      cases values <;> rfl
    rw [hread, hparts, hvalues]

theorem decide_mem_texts (v : Value) (values : List Text) :
    decide (v ∈ values.map Value.text) = values.any fun t => v = .text t := by
  rw [Bool.eq_iff_iff, decide_eq_true_eq, List.mem_map, List.any_eq_true]
  refine exists_congr fun t => and_congr_right fun _ => ?_
  rw [decide_eq_true_eq]
  exact eq_comm

theorem literal?_name {w : Text} {v : Value} (hw : e.column w = some v) (rest : List Item) :
    e.literal? (.name w :: rest) = e.compare? v rest := by
  show (Option.map _ (e.column w)).bind _ = _
  rw [hw]
  rfl

theorem literal?_lower {w : Text} {v : Value} (hw : e.column w = some v) (rest : List Item) :
    e.literal? (.keyword .lower :: .enclosed (e.enclose [.name w]) :: rest) =
      e.compare? (.text v.asText.lower) rest := by
  show (Option.map _ (e.column w)).bind _ = _
  rw [hw]
  rfl

/-- The items of a test say what the test says of the values of the columns. -/
theorem truth?_items {row : C → Value} (hname : ∀ c, IsName (name c))
    (hcolumn : ∀ c, e.column (name c) = some (row c))
    (t : Test C) (hjson : Condition.testNesting t ≠ 0 → ∀ values,
      e.select (jsonItems e values) = some (values.map .text)) :
    e.truth? (t.items e name) = some (t.holds row) := by
  have hatLeast (n : Int) (v : Value) : (Value.int n).le v = isAtLeast n v := by cases v <;> rfl
  have hatMost (n : Int) (v : Value) : v.le (Value.int n) = isAtMost n v := by cases v <;> rfl
  rw [Interpretation.truth?_of_literal (isLiteral_items t)]
  cases t with
  | equals c value => exact literal?_name (hcolumn c) _
  | sameAs c d =>
    rw [items, literal?_name (hcolumn c)]
    have hscalar : e.scalar? (.name (name d)) = some (row d) := by
      rw [Interpretation.scalar?, (hname d).notNumber, if_neg Bool.false_ne_true, hcolumn]
    rw [Interpretation.compare?, hscalar]
    rfl
  | isZero c => exact literal?_name (hcolumn c) _
  | isEmpty c => exact literal?_name (hcolumn c) _
  | atLeast c bound =>
    exact (literal?_name (hcolumn c) _).trans (congrArg some (hatLeast bound (row c)))
  | atMost c bound =>
    exact (literal?_name (hcolumn c) _).trans (congrArg some (hatMost bound (row c)))
  | between c low high =>
    rw [holds, ← hatLeast, ← hatMost]
    exact literal?_name (hcolumn c) _
  | oneOf c values =>
    rw [items, literal?_name (hcolumn c)]
    show (e.values? (listItems values)).map (fun vs => decide (row c ∈ vs)) = _
    rw [values?_listItems]
    exact congrArg some (decide_mem_texts (row c) values)
  | noneOf c values =>
    rw [items, literal?_name (hcolumn c)]
    show (e.values? (listItems values)).map (fun vs => decide (row c ∉ vs)) = _
    rw [values?_listItems, Option.map_some, decide_not, decide_mem_texts, holds]
  | oneOfJson c values =>
    rw [items, literal?_name (hcolumn c)]
    show (e.select (jsonItems e values)).map (fun vs => decide (row c ∈ vs)) = _
    rw [hjson (by simp [Condition.testNesting])]
    exact congrArg some (decide_mem_texts (row c) values)
  | like x escape pattern =>
    cases x with
    | column c => exact literal?_name (hcolumn c) _
    | lower c => exact literal?_lower (hcolumn c) _
  | unlike x escape pattern =>
    cases x with
    | column c => exact literal?_name (hcolumn c) _
    | lower c => exact literal?_lower (hcolumn c) _

end Test

end Sql

/-- The keyword of a connective. -/
def Connective.keyword : Connective → Keyword
  | .all => .and
  | .any => .or

section Joined

variable {e : Interpretation} {op : Connective} {c : Clause} {cs : List Clause} {I : List Item}
  {Is : List (List Item)}

theorem leads_word (op : Connective) : Leads e ⟨op.word.toList, []⟩ [.keyword op.keyword] := by
  cases op <;> exact fun _ _ _ _ => rfl

theorem breaks_word (op : Connective) (t : Text) : Breaks (op.word.toList ++ t) := by
  cases op with
  | all =>
    simp only [Connective.word, String.reduceToList]
    exact breaks_cons (by decide) _
  | any =>
    simp only [Connective.word, String.reduceToList]
    exact breaks_cons (by decide) _

/-- The items of clauses joined by a word. -/
def joinItems (op : Connective) : List (List Item) → List Item
  | [] => []
  | [I] => I
  | I :: Is => I ++ .keyword op.keyword :: joinItems op Is

theorem joinItems_cons (op : Connective) (I : List Item) (hne : Is ≠ []) :
    joinItems op (I :: Is) = I ++ .keyword op.keyword :: joinItems op Is := by
  obtain ⟨J, Is, rfl⟩ := List.exists_cons_of_ne_nil hne
  rfl

theorem yields_join (h : List.Forall₂ (Yields e) cs Is) (hne : cs ≠ []) :
    Yields e (Clause.join op.word cs) (joinItems op Is) := by
  induction h with
  | nil => exact absurd rfl hne
  | @cons c I cs Is hc hcs ih =>
    cases hcs with
    | nil =>
      have hsingle : Clause.join op.word [c] = c := by
        show Clause.mk _ _ = c
        rw [List.map_singleton, Text.join_singleton, List.flatMap_singleton]
      rw [hsingle]
      exact hc
    | @cons d J cs Is hd hcs =>
      have hne : d :: cs ≠ [] := List.cons_ne_nil d cs
      rw [Clause.join_cons hne]
      refine hc.append ((leads_word op).append_yields (ih hne)) (breaks_word op _) ?_
      cases op <;> exact List.cons_ne_nil _ _

theorem isConjunction_joinItems (h : ∀ I ∈ Is, Item.IsConjunction I) (hne : Is ≠ []) :
    Item.IsConjunction (joinItems .all Is) := by
  induction Is with
  | nil => exact absurd rfl hne
  | cons I Is ih =>
    obtain ⟨hI, hIs⟩ := List.forall_mem_cons.mp h
    by_cases hnil : Is = []
    · rw [hnil]
      exact hI
    · rw [joinItems_cons .all I hnil]
      exact hI.and (ih hIs hnil)

/-- A conjunction is true when all of its members are, and has no reading when one has none. -/
theorem truth?_joinItems_all (h : ∀ I ∈ Is, Item.IsConjunction I) (hne : Is ≠ []) :
    e.truth? (joinItems .all Is) = (Is.mapM e.truth?).map fun bs => bs.all id := by
  induction Is with
  | nil => exact absurd rfl hne
  | cons I Is ih =>
    obtain ⟨hI, hIs⟩ := List.forall_mem_cons.mp h
    by_cases hnil : Is = []
    · rw [hnil]
      cases hI : e.truth? I <;> simp [joinItems, hI]
    · rw [joinItems_cons .all I hnil, List.mapM_cons]
      show e.truth? (I ++ .keyword .and :: _) = _
      rw [Interpretation.truth?_and hI (isConjunction_joinItems hIs hnil), ih hIs hnil]
      cases e.truth? I <;> cases Is.mapM e.truth? <;> simp

theorem truth?_joinItems_any (h : ∀ I ∈ Is, Item.IsConjunction I) (hne : Is ≠ []) :
    e.truth? (joinItems .any Is) = (Is.mapM e.truth?).map fun bs => bs.any id := by
  induction Is with
  | nil => exact absurd rfl hne
  | cons I Is ih =>
    obtain ⟨hI, hIs⟩ := List.forall_mem_cons.mp h
    by_cases hnil : Is = []
    · rw [hnil]
      cases hI : e.truth? I <;> simp [joinItems, hI]
    · rw [joinItems_cons .any I hnil, List.mapM_cons]
      show e.truth? (I ++ .keyword .or :: _) = _
      rw [Interpretation.truth?_or hI.noOr, ih hIs hnil]
      cases e.truth? I <;> cases Is.mapM e.truth? <;> simp

/-- A clause that is read as a conjunction, wherever it stands. -/
def Reads (e : Interpretation) (c : Clause) : Prop := ∃ I, Yields e c I ∧ Item.IsConjunction I

theorem Reads.exists_items (h : ∀ c ∈ cs, Reads e c) :
    ∃ Is, List.Forall₂ (Yields e) cs Is ∧ (∀ I ∈ Is, Item.IsConjunction I) ∧
      cs.mapM e.isTrue? = Is.mapM e.truth? := by
  induction cs with
  | nil => exact ⟨[], .nil, by simp, rfl⟩
  | cons c cs ih =>
    obtain ⟨⟨I, hc, hI⟩, hcs⟩ := List.forall_mem_cons.mp h
    obtain ⟨Is, hyields, hall, htruth⟩ := ih hcs
    refine ⟨I :: Is, .cons hc hyields, List.forall_mem_cons.mpr ⟨hI, hall⟩, ?_⟩
    rw [List.mapM_cons, List.mapM_cons, htruth, hc.isTrue?_eq]

/-- Clauses that are read as conjunctions say together what they say one by one. -/
theorem isTrue?_join (h : ∀ c ∈ cs, Reads e c) (hne : cs ≠ []) :
    e.isTrue? (Clause.join " AND " cs) = (cs.mapM e.isTrue?).map fun bs => bs.all id := by
  obtain ⟨Is, hyields, hall, htruth⟩ := Reads.exists_items h
  have hIs : Is ≠ [] := by
    rintro rfl
    cases hyields
    exact hne rfl
  have hjoin : Yields e (Clause.join Connective.all.word cs) (joinItems .all Is) :=
    yields_join hyields hne
  show e.isTrue? (Clause.join Connective.all.word cs) = _
  rw [hjoin.isTrue?_eq, truth?_joinItems_all hall hIs, htruth]

/-- Clauses in brackets are read as one. -/
theorem Reads.brackets (h : ∀ c ∈ cs, Reads e c) (hne : cs ≠ []) :
    ∃ I, Yields e (Clause.join op.word cs).brackets [.enclosed (e.enclose I)] := by
  obtain ⟨Is, hyields, -, -⟩ := Reads.exists_items h
  exact ⟨_, (yields_join hyields hne).brackets⟩

end Joined

namespace UserQuery

variable {e : Interpretation} {q : UserQuery}

theorem isName_name (c : Column) : IsName c.name := by
  cases c <;> exact ⟨by decide, by decide, by decide⟩

/-- The start of a select of one column. -/
def head (column source : Text) : Clause :=
  ⟨"SELECT ".toList ++ (column ++ (" FROM ".toList ++ source)), []⟩

theorem yields_head {column source : Text} (hcolumn : IsName column) {I : List Item}
    (hsource : Yields e ⟨source, []⟩ I) :
    Yields e (head column source) (.keyword .select :: .name column :: .keyword .source :: I) := by
  have hverb : Leads e ⟨['S', 'E', 'L', 'E', 'C', 'T', ' '], []⟩ [.keyword .select] :=
    fun _ _ _ _ => rfl
  have hfrom : Leads e ⟨[' ', 'F', 'R', 'O', 'M', ' '], []⟩ [.keyword .source] := fun _ _ _ _ => rfl
  unfold head
  simp only [String.reduceToList]
  exact hverb.append_yields ((yields_name hcolumn).append (hfrom.append_yields hsource)
    (breaks_cons (by decide) _) (List.cons_ne_nil _ _))

theorem exists_yields_source (q : UserQuery) : ∃ I, Yields e ⟨q.select.source, []⟩ I := by
  have hcomma : Leads e ⟨[',', ' '], []⟩ [.comma] := fun _ _ _ _ => rfl
  have husers : Yields e ⟨"users".toList, []⟩ [.name "users".toList] :=
    yields_name ⟨by decide, by decide, by decide⟩
  have hmembers : Yields e ⟨"team_members".toList, []⟩ [.name "team_members".toList] :=
    yields_name ⟨by decide, by decide, by decide⟩
  have hsource : q.select.source =
      if q.joinsTeams then "users, team_members".toList else "users".toList := rfl
  rw [hsource]
  split_ifs
  · simp only [String.reduceToList] at husers hmembers ⊢
    exact ⟨_, husers.append (hcomma.append_yields hmembers) (breaks_cons (by decide) _)
      (List.cons_ne_nil _ _)⟩
  · exact ⟨_, husers⟩

theorem clause_select (q : UserQuery) :
    q.select.clause = head Column.id.name q.select.source ++
      if q.select.wheres.isEmpty then ⟨[], []⟩
      else ⟨" WHERE ".toList, []⟩ ++ Clause.join " AND " q.select.wheres := by
  have hparts : q.select.clause =
      ⟨"SELECT ".toList ++ Text.join ", ".toList [Column.id.name] ++ " FROM ".toList ++
        q.select.source, []⟩ ++
      (if q.select.wheres.isEmpty then ⟨[], []⟩
        else ⟨" WHERE ".toList, []⟩ ++ Clause.join " AND " q.select.wheres) ++
      ⟨[], []⟩ ++ ⟨[], []⟩ := rfl
  have hhead (source : Text) : (⟨"SELECT ".toList ++ Text.join ", ".toList [Column.id.name] ++
      " FROM ".toList ++ source, []⟩ : Clause) = head Column.id.name source := by
    rw [Text.join_singleton, List.append_assoc, List.append_assoc]
    rfl
  rw [hparts, hhead]
  exact (Clause.append_nil _).trans (Clause.append_nil _)

theorem reads_wheres (h : ∀ t ∈ q.tests, t.Quotable) : ∀ c ∈ q.select.wheres, Reads e c := by
  intro c hc
  obtain ⟨t, ht, rfl⟩ := List.mem_map.mp hc
  exact ⟨_, t.yields isName_name (h t ht), t.isLiteral_items.toIsConjunction⟩

/-- The select of users is read as a select, whatever its tests. -/
theorem exists_items (h : ∀ t ∈ q.tests, t.Quotable) :
    ∃ I, Yields e q.select.clause (.keyword .select :: I) := by
  have hwhere : Leads e ⟨[' ', 'W', 'H', 'E', 'R', 'E', ' '], []⟩ [.keyword .condition] :=
    fun _ _ _ _ => rfl
  obtain ⟨I, hsource⟩ := exists_yields_source (e := e) q
  have hhead := yields_head (isName_name .id) hsource
  rw [clause_select]
  split_ifs with hnone
  · rw [Clause.append_nil]
    exact ⟨_, hhead⟩
  · obtain ⟨Is, hyields, -, -⟩ := Reads.exists_items (reads_wheres (e := e) h)
    have hne : q.select.wheres ≠ [] := by simpa using hnone
    have hjoin : Yields e (Clause.join Connective.all.word q.select.wheres) (joinItems .all Is) :=
      yields_join hyields hne
    simp only [String.reduceToList]
    exact ⟨_, hhead.append (hwhere.append_yields hjoin) (breaks_cons (by decide) _)
      (List.cons_ne_nil _ _)⟩

end UserQuery

namespace Condition

variable {C : Type} {e : Interpretation} {name : C → Text} {users : UserQuery → List Text}
  {row : C → Value} {x : Condition C}

/-- Brackets are not empty, only brackets are negated, and no mark of a pattern is a quote. -/
inductive Readable : Condition C → Prop
  | test {t : Sql.Test C} (h : t.Quotable) : Readable (.test t)
  | isUserIn {c : C} {q : UserQuery} (h : ∀ t ∈ q.tests, t.Quotable) : Readable (.isUserIn c q)
  | not {op : Connective} {xs : List (Condition C)} (h : Readable (.group op xs)) :
    Readable (.not (.group op xs))
  | group {op : Connective} {xs : List (Condition C)} (hne : xs ≠ []) (h : ∀ x ∈ xs, Readable x) :
    Readable (.group op xs)
  | both {x y : Condition C} (hx : Readable x) (hy : Readable y) : Readable (.both x y)

/-- Columns have the values of a row. Where a condition has selects, those of users yield their ids, and
a JSON list its members. -/
structure Represents (e : Interpretation) (name : C → Text) (users : UserQuery → List Text)
    (row : C → Value) (x : Condition C) : Prop where
  column : ∀ c, e.column (name c) = some (row c)
  json : x.nesting ≠ 0 → ∀ values, e.select (Sql.Test.jsonItems e values) = some (values.map .text)
  users : x.nesting ≠ 0 → ∀ q I, Yields e q.select.clause (.keyword .select :: I) →
    e.select I = some ((users q).map .text)

theorem Represents.mono {y : Condition C} (h : Represents e name users row x)
    (hxy : y.nesting ≤ x.nesting) : Represents e name users row y :=
  ⟨h.column, fun hy => h.json (by omega), fun hy => h.users (by omega)⟩

/-- The text of a condition is read as one condition, and says what the condition says. -/
structure ReadsAs (e : Interpretation) (name : C → Text) (users : UserQuery → List Text)
    (row : C → Value) (x : Condition C) (I : List Item) : Prop where
  yields : Yields e (x.clause name) I
  conjunction : Item.IsConjunction I
  truth : Represents e name users row x → e.truth? I = some (x.holds users row)

theorem exists_items_of_forall {xs : List (Condition C)}
    (h : ∀ x ∈ xs, ∃ I, ReadsAs e name users row x I) :
    ∃ Is, List.Forall₂ (Yields e) (clauses name xs) Is ∧ (∀ I ∈ Is, Item.IsConjunction I) ∧
      ((∀ x ∈ xs, Represents e name users row x) →
        Is.mapM e.truth? = some (xs.map (holds users row))) := by
  induction xs with
  | nil =>
    rw [clauses]
    exact ⟨[], .nil, by simp, fun _ => rfl⟩
  | cons x xs ih =>
    obtain ⟨⟨I, hI⟩, hxs⟩ := List.forall_mem_cons.mp h
    obtain ⟨Is, hyields, hall, htruth⟩ := ih hxs
    rw [clauses]
    refine ⟨I :: Is, .cons hI.yields hyields, List.forall_mem_cons.mpr ⟨hI.conjunction, hall⟩,
      fun hrow => ?_⟩
    obtain ⟨hx, hxs⟩ := List.forall_mem_cons.mp hrow
    rw [List.mapM_cons, hI.truth hx, htruth hxs]
    rfl

theorem readsAs_test (hname : ∀ c, IsName (name c)) {t : Sql.Test C} (ht : t.Quotable) :
    ReadsAs e name users row (.test t) (t.items e name) := by
  refine ⟨?_, t.isLiteral_items.toIsConjunction, fun hrow => ?_⟩
  · rw [clause]
    exact t.yields hname ht
  · rw [holds_test]
    refine t.truth?_items hname hrow.column fun ht => hrow.json ?_
    rwa [nesting]

/-- Whatever the select of users is read as, its column is looked for in what the select yields. -/
theorem readsAs_isUserIn (hname : ∀ c, IsName (name c)) (c : C) {q : UserQuery} {I : List Item}
    (hI : Yields e q.select.clause (.keyword .select :: I)) :
    ReadsAs e name users row (.isUserIn c q)
      [.name (name c), .keyword .isIn, .enclosed (e.enclose (.keyword .select :: I))] := by
  have hliteral : Item.IsLiteral
      [.name (name c), .keyword .isIn, .enclosed (e.enclose (.keyword .select :: I))] :=
    ⟨⟨by simp [Item.isOr], fun _ => rfl⟩, rfl⟩
  refine ⟨?_, hliteral.toIsConjunction, fun hrow => ?_⟩
  · have hin : Leads e ⟨[' ', 'I', 'N', ' '], []⟩ [.keyword .isIn] := fun _ _ _ _ => rfl
    have hsplit : (⟨name c ++ [' ', 'I', 'N', ' '], []⟩ : Clause) =
        ⟨name c, []⟩ ++ ⟨[' ', 'I', 'N', ' '], []⟩ := rfl
    rw [clause]
    simp only [String.reduceToList]
    rw [hsplit, Clause.append_assoc]
    exact yields_column (hname c) (hin.append_yields hI.brackets)
  · have hnesting : (Condition.isUserIn c q).nesting ≠ 0 := by
      rw [nesting]
      exact Nat.ne_of_gt (Nat.lt_of_lt_of_le (by decide) (Nat.le_max_left 2 _))
    rw [Interpretation.truth?_of_literal hliteral, holds_isUserIn]
    show (Option.map _ (e.column (name c))).bind _ = _
    rw [hrow.column]
    show (e.select I).map (fun vs => decide (row c ∈ vs)) = _
    rw [hrow.users hnesting q I hI, Option.map_some, Sql.Test.decide_mem_texts]

theorem ReadsAs.not {I : List Item} (h : ReadsAs e name users row x I) (hliteral : Item.IsLiteral I) :
    ReadsAs e name users row (.not x) (.keyword .not :: I) := by
  have hnot : Leads e ⟨"NOT ".toList, []⟩ [.keyword .not] := fun _ _ _ _ => rfl
  refine ⟨?_, hliteral.not.toIsConjunction, fun hrow => ?_⟩
  · rw [clause]
    exact hnot.append_yields h.yields
  · have hinside : Represents e name users row x := hrow.mono (by simp [nesting])
    rw [Interpretation.truth?_not hliteral, h.truth hinside, holds_not]
    rfl

/-- Brackets around conditions that are read are one member of a conjunction. -/
theorem exists_readsAs_group (op : Connective) {xs : List (Condition C)} (hne : xs ≠ [])
    (h : ∀ x ∈ xs, ∃ I, ReadsAs e name users row x I) :
    ∃ I, ReadsAs e name users row (.group op xs) I ∧ Item.IsLiteral I := by
  obtain ⟨Is, hyields, hall, htruth⟩ := exists_items_of_forall h
  have hclauses : clauses name xs ≠ [] := by
    rw [clauses_eq]
    simpa using hne
  have hIs : Is ≠ [] := by
    rintro rfl
    exact hclauses (List.forall₂_nil_right_iff.1 hyields)
  have hliteral := Item.isLiteral_enclosed (e.enclose (joinItems op Is))
  refine ⟨_, ⟨?_, hliteral.toIsConjunction, fun hrow => ?_⟩, hliteral⟩
  · rw [clause]
    exact (yields_join hyields hclauses).brackets
  · have hmembers : ∀ x ∈ xs, Represents e name users row x := by
      intro x hx
      refine hrow.mono ?_
      rw [nesting]
      exact nestingOfAll_le.mp (le_refl _) x hx
    rw [Interpretation.truth?_enclosed]
    cases op with
    | all =>
      rw [truth?_joinItems_all hall hIs, htruth hmembers, holds_all]
      simp
    | any =>
      rw [truth?_joinItems_any hall hIs, htruth hmembers, holds_any]
      simp

theorem ReadsAs.both {y : Condition C} {I J : List Item} (hx : ReadsAs e name users row x I)
    (hy : ReadsAs e name users row y J) :
    ReadsAs e name users row (.both x y) (I ++ .keyword .and :: J) := by
  refine ⟨?_, hx.conjunction.and hy.conjunction, fun hrow => ?_⟩
  · rw [clause, Clause.append_assoc]
    exact hx.yields.append ((leads_word .all).append_yields hy.yields) (breaks_word .all _)
      (List.cons_ne_nil _ _)
  · have hleft : Represents e name users row x := hrow.mono (by simp [nesting])
    have hright : Represents e name users row y := hrow.mono (by simp [nesting])
    rw [Interpretation.truth?_and hx.conjunction hy.conjunction, hx.truth hleft, hy.truth hright,
      holds_both]
    rfl

/-- A readable condition is read as one condition; where it is in brackets, a negation may stand before
it. -/
theorem Readable.exists_items (hname : ∀ c, IsName (name c)) (hx : Readable x) :
    ∃ I, ReadsAs e name users row x I ∧ ∀ op xs, x = .group op xs → Item.IsLiteral I := by
  induction hx with
  | test ht => exact ⟨_, readsAs_test hname ht, nofun⟩
  | isUserIn hq =>
    obtain ⟨I, hI⟩ := UserQuery.exists_items (e := e) hq
    exact ⟨_, readsAs_isUserIn hname _ hI, nofun⟩
  | not _ ih =>
    obtain ⟨I, hI, hliteral⟩ := ih
    exact ⟨_, hI.not (hliteral _ _ rfl), nofun⟩
  | group hne _ ih =>
    obtain ⟨I, hI, hliteral⟩ := exists_readsAs_group _ hne fun x hx => (ih x hx).imp fun _ h => h.1
    exact ⟨I, hI, fun _ _ _ => hliteral⟩
  | both _ _ ihx ihy =>
    obtain ⟨I, hI, -⟩ := ihx
    obtain ⟨J, hJ, -⟩ := ihy
    exact ⟨_, hI.both hJ, nofun⟩

/-- The text of a condition, read back, says what the condition says. -/
theorem Readable.isTrue?_clause (hname : ∀ c, IsName (name c)) (hx : Readable x)
    (hrow : Represents e name users row x) :
    e.isTrue? (x.clause name) = some (x.holds users row) := by
  obtain ⟨I, hI, -⟩ := hx.exists_items hname
  rw [hI.yields.isTrue?_eq, hI.truth hrow]

theorem Readable.reads (hname : ∀ c, IsName (name c)) (hx : Readable x) :
    Reads e (x.clause name) := by
  obtain ⟨I, hI, -⟩ : ∃ I, ReadsAs e name (fun _ => []) (fun _ => .text []) x I ∧ _ :=
    hx.exists_items hname
  exact ⟨I, hI.yields, hI.conjunction⟩

end Condition

end ChannelSearch
