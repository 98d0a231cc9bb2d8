import ChannelSearch.Sql.Test
import ChannelSearch.Text.Integer
import Mathlib.Data.Char
import Mathlib.Data.List.Basic
import Mathlib.Data.List.Lex

/-!
How the text of a condition is read: cut into words, its marks bound to the arguments from the left,
and brackets read from the inside. A disjunction is read before a conjunction, a conjunction before a
negation, and a negation before a comparison. Main statement: pieces that are read on their own are read
the same way next to each other.
-/

namespace ChannelSearch.Sql

/-- Words that are no names. -/
inductive Keyword where
  | and | or | not | isIn | like | escape | between | lower | select | source | condition
  | equals | atLeast | atMost
deriving DecidableEq, Repr

/-- Keywords are known in capitals and in small letters. -/
def keyword? (w : Text) : Option Keyword :=
  match w.map Char.toUpper with
  | ['A', 'N', 'D'] => some .and
  | ['O', 'R'] => some .or
  | ['N', 'O', 'T'] => some .not
  | ['I', 'N'] => some .isIn
  | ['L', 'I', 'K', 'E'] => some .like
  | ['E', 'S', 'C', 'A', 'P', 'E'] => some .escape
  | ['B', 'E', 'T', 'W', 'E', 'E', 'N'] => some .between
  | ['L', 'O', 'W', 'E', 'R'] => some .lower
  | ['S', 'E', 'L', 'E', 'C', 'T'] => some .select
  | ['F', 'R', 'O', 'M'] => some .source
  | ['W', 'H', 'E', 'R', 'E'] => some .condition
  | ['='] => some .equals
  | ['>', '='] => some .atLeast
  | ['<', '='] => some .atMost
  | _ => none

inductive Lexeme where
  | opening
  | closing
  | comma
  | mark
  | word (w : Text)
  | quoted (t : Text)
  /-- A quote without a partner. -/
  | unclosed
deriving DecidableEq, Repr

/-- What a character other than a letter stands for, quotes aside. -/
def symbol (c : Char) : List Lexeme :=
  if c = '(' then [.opening]
  else if c = ')' then [.closing]
  else if c = ',' then [.comma]
  else if c = '?' then [.mark]
  else []

def isWordChar (c : Char) : Bool := c ≠ ' ' && c ≠ '\'' && symbol c = []

/-- Where a reader stands: between words, in a word or in quotes. -/
inductive LexState where
  | between
  | word (w : Text)
  | quoted (t : Text)
deriving DecidableEq, Repr

namespace LexState

/-- The word that ends here. -/
def flush : LexState → List Lexeme
  | between => []
  | word w => [.word w]
  | quoted _ => [.unclosed]

def letter (c : Char) : LexState → LexState
  | between => word [c]
  | word w => word (w ++ [c])
  | quoted t => quoted (t ++ [c])

end LexState

def lexFrom : LexState → Text → List Lexeme
  | s, [] => s.flush
  | .quoted t, c :: rest =>
    if c = '\'' then .quoted t :: lexFrom .between rest else lexFrom (.quoted (t ++ [c])) rest
  | s, c :: rest =>
    if isWordChar c then lexFrom (s.letter c) rest
    else if c = '\'' then s.flush ++ lexFrom (.quoted []) rest
    else s.flush ++ (symbol c ++ lexFrom .between rest)

def lex (t : Text) : List Lexeme := lexFrom .between t

/-- What is in brackets, read in each of the ways that are possible: as a condition, as values and as
a name. -/
structure Enclosed where
  truth : Option Bool
  values : Option (List Value)
  name : Option Text
deriving DecidableEq, Repr

inductive Item where
  | keyword (k : Keyword)
  | name (w : Text)
  | value (v : Value)
  | comma
  | enclosed (x : Enclosed)
deriving DecidableEq, Repr

namespace Item

def ofWord (w : Text) : Item :=
  match keyword? w with
  | some k => keyword k
  | none => name w

def isOr : Item → Bool
  | keyword .or => true
  | _ => false

def isComma : Item → Bool
  | comma => true
  | _ => false

/-- Puts an item in front of the first of some parts. -/
def extend (x : Item) : List (List Item) → List (List Item)
  | [] => [[x]]
  | part :: parts => (x :: part) :: parts

/-- The parts between separators. -/
def parts (separates : Item → Bool) : List Item → List (List Item)
  | [] => [[]]
  | x :: rest => if separates x then [] :: parts separates rest else x.extend (parts separates rest)

/-- The members of a conjunction. The word between two bounds separates nothing. -/
def conjuncts : Bool → List Item → List (List Item)
  | _, [] => [[]]
  | true, keyword .and :: rest => extend (keyword .and) (conjuncts false rest)
  | false, keyword .and :: rest => [] :: conjuncts false rest
  | _, keyword .between :: rest => extend (keyword .between) (conjuncts true rest)
  | bounds, x :: rest => extend x (conjuncts bounds rest)

def value? : List Item → Option Value
  | [value v] => some v
  | _ => none

def name? : List Item → Option Text
  | [name w] => some w
  | _ => none

end Item

/-- What names stand for: the values of columns, and what selects in brackets yield. -/
structure Interpretation where
  column : Text → Option Value
  select : List Item → Option (List Value)

/-- Numbers come before texts. -/
def Value.le : Value → Value → Bool
  | .int m, .int n => m ≤ n
  | .int _, .text _ => true
  | .text _, .int _ => false
  | .text s, .text t => s ≤ t

def Value.ofJson? : Json → Option Value
  | .int n => some (.int n)
  | .text t => some (.text t)
  | _ => none

namespace Interpretation

/-- What stands on the left of a comparison, and what follows it. -/
def operand? (e : Interpretation) : List Item → Option (Value × List Item)
  | .keyword .lower :: .enclosed x :: rest =>
    (x.name.bind e.column).map fun v => (.text v.asText.lower, rest)
  | .name w :: rest => (e.column w).map (·, rest)
  | _ => none

/-- What stands on its right. -/
def scalar? (e : Interpretation) : Item → Option Value
  | .value v => some v
  | .name w =>
    if w.all Char.isDigit then some (.int (Text.ofDigits (w.map fun c => c.toNat - 48)))
    else e.column w
  | _ => none

def compare? (e : Interpretation) (x : Value) : List Item → Option Bool
  | [.keyword .equals, y] => (e.scalar? y).map fun v => x = v
  | [.keyword .atLeast, y] => (e.scalar? y).map fun v => v.le x
  | [.keyword .atMost, y] => (e.scalar? y).map fun v => x.le v
  | [.keyword .between, y, .keyword .and, z] => do
    let low ← e.scalar? y
    let high ← e.scalar? z
    pure (low.le x && x.le high)
  | [.keyword .isIn, .enclosed y] => y.values.map fun vs => x ∈ vs
  | [.keyword .not, .keyword .isIn, .enclosed y] => y.values.map fun vs => x ∉ vs
  | [.keyword .like, y, .keyword .escape, .value (.text [c])] =>
    (e.scalar? y).map fun v => likeText c v.asText x.asText
  | [.keyword .not, .keyword .like, y, .keyword .escape, .value (.text [c])] =>
    (e.scalar? y).map fun v => !likeText c v.asText x.asText
  | _ => none

/-- A comparison or a condition in brackets, with any number of negations. -/
def literal? (e : Interpretation) : List Item → Option Bool
  | .keyword .not :: rest => (e.literal? rest).map (!·)
  | [.enclosed x] => x.truth
  | items => (e.operand? items).bind fun (x, rest) => e.compare? x rest

def conjunction? (e : Interpretation) (items : List Item) : Option Bool :=
  ((Item.conjuncts false items).mapM e.literal?).map fun bs => bs.all id

/-- Whether what is read is true; `none` where it has no reading as a condition. -/
def truth? (e : Interpretation) (items : List Item) : Option Bool :=
  ((Item.parts Item.isOr items).mapM e.conjunction?).map fun bs => bs.any id

/-- The values of a list, or of a select. -/
def values? (e : Interpretation) : List Item → Option (List Value)
  | .keyword .select :: rest => e.select rest
  | [] => some []
  | items => (Item.parts Item.isComma items).mapM Item.value?

def enclose (e : Interpretation) (items : List Item) : Enclosed :=
  ⟨e.truth? items, e.values? items, Item.name? items⟩

/-- Reads lexemes after some items, inside of brackets that are open. -/
def readFrom (e : Interpretation) (outer : List (List Item)) (items : List Item) (args : List Json) :
    List Lexeme → Option (List Item)
  | [] => if outer.isEmpty && args.isEmpty then some items else none
  | .opening :: rest => e.readFrom (items :: outer) [] args rest
  | .closing :: rest =>
    match outer with
    | [] => none
    | up :: outer => e.readFrom outer (up ++ [.enclosed (e.enclose items)]) args rest
  | .comma :: rest => e.readFrom outer (items ++ [.comma]) args rest
  | .mark :: rest =>
    match args with
    | [] => none
    | a :: args => (Value.ofJson? a).bind fun v => e.readFrom outer (items ++ [.value v]) args rest
  | .word w :: rest => e.readFrom outer (items ++ [.ofWord w]) args rest
  | .quoted t :: rest => e.readFrom outer (items ++ [.value (.text t)]) args rest
  | .unclosed :: _ => none

/-- What the text of a clause says of its arguments; `none` where it cannot be read. -/
def isTrue? (e : Interpretation) (c : Clause) : Option Bool :=
  (e.readFrom [] [] c.args (lex c.text)).bind e.truth?

end Interpretation

/-- What cannot go on with a word before it. -/
def Breaks (t : Text) : Prop := ∀ c ∈ t.head?, isWordChar c = false

theorem breaks_nil : Breaks [] := nofun

theorem breaks_cons {c : Char} (hc : isWordChar c = false) (t : Text) : Breaks (c :: t) := by
  intro d hd
  rw [← Option.some.inj hd]
  exact hc

theorem Breaks.append {t : Text} (h : Breaks t) (hne : t ≠ []) (u : Text) : Breaks (t ++ u) := by
  obtain ⟨c, t, rfl⟩ := List.exists_cons_of_ne_nil hne
  exact breaks_cons (h c rfl) (t ++ u)

/-- A word that is neither a keyword nor a number. -/
structure IsName (w : Text) : Prop where
  letters : ∀ c ∈ w, isWordChar c = true
  notKeyword : keyword? w = none
  notNumber : w.all Char.isDigit = false

theorem IsName.ne_nil {w : Text} (h : IsName w) : w ≠ [] := by
  rintro rfl
  exact absurd h.notNumber (by decide)

theorem lexFrom_letters {w : Text} (hw : ∀ c ∈ w, isWordChar c = true) (v t : Text) :
    lexFrom (.word v) (w ++ t) = lexFrom (.word (v ++ w)) t := by
  induction w generalizing v with
  | nil => rw [List.nil_append, List.append_nil]
  | cons c w ih =>
    obtain ⟨hc, hw⟩ := List.forall_mem_cons.mp hw
    rw [List.cons_append, lexFrom, if_pos hc, LexState.letter, ih hw, List.append_assoc]
    · rfl
    · exact nofun

theorem lexFrom_word (v : Text) {t : Text} (ht : Breaks t) :
    lexFrom (.word v) t = .word v :: lex t := by
  cases t with
  | nil => rfl
  | cons c t =>
    have hc : ¬ isWordChar c = true := by simp [ht c rfl]
    rw [lex, lexFrom, lexFrom, if_neg hc, if_neg hc]
    · split_ifs <;> rfl
    · exact nofun
    · exact nofun

theorem lex_word {w t : Text} (hne : w ≠ []) (hw : ∀ c ∈ w, isWordChar c = true) (ht : Breaks t) :
    lex (w ++ t) = .word w :: lex t := by
  obtain ⟨c, w, rfl⟩ := List.exists_cons_of_ne_nil hne
  obtain ⟨hc, hletters⟩ := List.forall_mem_cons.mp hw
  rw [lex, List.cons_append, lexFrom, if_pos hc, LexState.letter, lexFrom_letters hletters,
    lexFrom_word _ ht]
  · rfl
  · exact nofun

theorem Item.ofWord_name {w : Text} (hw : IsName w) : Item.ofWord w = .name w := by
  rw [Item.ofWord, hw.notKeyword]

namespace Item

variable {separates : Item → Bool} {I J : List Item} {x : Item}

theorem parts_of_forall (hI : ∀ y ∈ I, separates y = false) : parts separates I = [I] := by
  induction I with
  | nil => rfl
  | cons y I ih =>
    obtain ⟨hy, hI⟩ := List.forall_mem_cons.mp hI
    rw [parts, hy, if_neg Bool.false_ne_true, ih hI]
    rfl

theorem parts_append_cons (hI : ∀ y ∈ I, separates y = false) (hx : separates x = true)
    (J : List Item) : parts separates (I ++ x :: J) = I :: parts separates J := by
  induction I with
  | nil => rw [List.nil_append, parts, hx, if_pos rfl]
  | cons y I ih =>
    obtain ⟨hy, hI⟩ := List.forall_mem_cons.mp hI
    rw [List.cons_append, parts, hy, if_neg Bool.false_ne_true, ih hI]
    rfl

/-- Items that other conditions may be joined to on both sides. -/
structure IsConjunction (I : List Item) : Prop where
  noOr : ∀ x ∈ I, x.isOr = false
  splits : ∀ J, conjuncts false (I ++ keyword .and :: J) = conjuncts false I ++ conjuncts false J

/-- One member of a conjunction. -/
structure IsLiteral (I : List Item) : Prop extends IsConjunction I where
  single : conjuncts false I = [I]

theorem isLiteral_enclosed (x : Enclosed) : IsLiteral [enclosed x] :=
  ⟨⟨List.forall_mem_singleton.mpr rfl, fun _ => rfl⟩, rfl⟩

theorem IsLiteral.not (h : IsLiteral I) : IsLiteral (keyword .not :: I) := by
  have hcons (J : List Item) :
      conjuncts false (keyword .not :: J) = extend (keyword .not) (conjuncts false J) := rfl
  refine ⟨⟨List.forall_mem_cons.mpr ⟨rfl, h.noOr⟩, fun J => ?_⟩, ?_⟩
  · rw [List.cons_append, hcons, hcons, h.splits, h.single]
    rfl
  · rw [hcons, h.single]
    rfl

theorem IsConjunction.and (hI : IsConjunction I) (hJ : IsConjunction J) :
    IsConjunction (I ++ keyword .and :: J) := by
  refine ⟨List.forall_mem_append.mpr ⟨hI.noOr, List.forall_mem_cons.mpr ⟨rfl, hJ.noOr⟩⟩,
    fun K => ?_⟩
  rw [List.append_assoc, List.cons_append, hI.splits, hJ.splits, hI.splits, List.append_assoc]

end Item

namespace Interpretation

open Item

variable {e : Interpretation} {I : List Item}

theorem truth?_of_noOr (h : ∀ x ∈ I, x.isOr = false) : e.truth? I = e.conjunction? I := by
  rw [truth?, parts_of_forall h]
  cases hI : e.conjunction? I <;> simp [hI]

theorem truth?_of_literal (h : IsLiteral I) : e.truth? I = e.literal? I := by
  rw [truth?_of_noOr h.noOr, conjunction?, h.single]
  cases hI : e.literal? I <;> simp [hI]

theorem truth?_enclosed (J : List Item) : e.truth? [.enclosed (e.enclose J)] = e.truth? J :=
  truth?_of_literal (isLiteral_enclosed _)

theorem truth?_not (h : IsLiteral I) :
    e.truth? (.keyword .not :: I) = (e.truth? I).map (!·) := by
  rw [truth?_of_literal h.not, truth?_of_literal h]
  rfl

theorem conjunction?_and (h : IsConjunction I) (J : List Item) :
    e.conjunction? (I ++ .keyword .and :: J) =
      (e.conjunction? I).bind fun a => (e.conjunction? J).map fun b => a && b := by
  rw [conjunction?, h.splits, List.mapM_append]
  unfold conjunction?
  cases (conjuncts false I).mapM e.literal? <;> cases (conjuncts false J).mapM e.literal? <;>
    simp

theorem truth?_or (h : ∀ x ∈ I, x.isOr = false) (J : List Item) :
    e.truth? (I ++ .keyword .or :: J) =
      (e.truth? I).bind fun a => (e.truth? J).map fun b => a || b := by
  rw [truth?, parts_append_cons h rfl, truth?_of_noOr h, List.mapM_cons]
  unfold truth?
  cases e.conjunction? I <;> cases (parts isOr J).mapM e.conjunction? <;> simp

theorem truth?_and (hI : IsConjunction I) {J : List Item} (hJ : IsConjunction J) :
    e.truth? (I ++ .keyword .and :: J) =
      (e.truth? I).bind fun a => (e.truth? J).map fun b => a && b := by
  rw [truth?_of_noOr (hI.and hJ).noOr, truth?_of_noOr hI.noOr, truth?_of_noOr hJ.noOr,
    conjunction?_and hI]

end Interpretation

section Pieces

variable (e : Interpretation)

/-- A clause is read as some items, wherever it stands, if it is not part of a longer word. -/
def Yields (c : Clause) (items : List Item) : Prop :=
  ∀ outer done args t, Breaks t →
    e.readFrom outer done (c.args ++ args) (lex (c.text ++ t)) =
      e.readFrom outer (done ++ items) args (lex t)

/-- A clause after which a word may follow at once. -/
def Leads (c : Clause) (items : List Item) : Prop :=
  ∀ outer done args t, e.readFrom outer done (c.args ++ args) (lex (c.text ++ t)) =
    e.readFrom outer (done ++ items) args (lex t)

variable {e} {a b c : Clause} {I J : List Item}

theorem Leads.yields (h : Leads e c I) : Yields e c I := fun outer done args t _ => h outer done args t

theorem Yields.append (ha : Yields e a I) (hb : Yields e b J) (hbreaks : Breaks b.text)
    (hne : b.text ≠ []) : Yields e (a ++ b) (I ++ J) := by
  intro outer done args t ht
  have hread := ha outer done (b.args ++ args) (b.text ++ t) (hbreaks.append hne t)
  rw [hb outer (done ++ I) args t ht] at hread
  show e.readFrom outer done (a.args ++ b.args ++ args) (lex (a.text ++ b.text ++ t)) = _
  rw [List.append_assoc, List.append_assoc, hread, List.append_assoc]

theorem Leads.append (ha : Leads e a I) (hb : Leads e b J) : Leads e (a ++ b) (I ++ J) := by
  intro outer done args t
  have hread := ha outer done (b.args ++ args) (b.text ++ t)
  rw [hb outer (done ++ I) args t] at hread
  show e.readFrom outer done (a.args ++ b.args ++ args) (lex (a.text ++ b.text ++ t)) = _
  rw [List.append_assoc, List.append_assoc, hread, List.append_assoc]

theorem Leads.append_yields (ha : Leads e a I) (hb : Yields e b J) : Yields e (a ++ b) (I ++ J) := by
  intro outer done args t ht
  have hread := ha outer done (b.args ++ args) (b.text ++ t)
  rw [hb outer (done ++ I) args t ht] at hread
  show e.readFrom outer done (a.args ++ b.args ++ args) (lex (a.text ++ b.text ++ t)) = _
  rw [List.append_assoc, List.append_assoc, hread, List.append_assoc]

theorem yields_name {w : Text} (hw : IsName w) : Yields e ⟨w, []⟩ [.name w] := by
  intro outer done args t ht
  rw [lex_word hw.ne_nil hw.letters ht, ← Item.ofWord_name hw]
  rfl

theorem yields_lower : Yields e ⟨"LOWER".toList, []⟩ [.keyword .lower] := by
  intro outer done args t ht
  rw [lex_word (by decide) (by decide) ht]
  rfl

theorem leads_blank : Leads e ⟨[' '], []⟩ [] := by
  intro outer done args t
  rw [List.append_nil]
  rfl

/-- A mark takes the next argument. -/
theorem leads_mark {v : Json} {x : Value} (hv : Value.ofJson? v = some x) :
    Leads e ⟨['?'], [v]⟩ [.value x] := by
  intro outer done args t
  show (Value.ofJson? v).bind (fun x => e.readFrom outer (done ++ [.value x]) args (lex t)) = _
  rw [hv]
  rfl

/-- Brackets are read from the inside. -/
theorem Yields.brackets (h : Yields e c I) : Yields e c.brackets [.enclosed (e.enclose I)] := by
  intro outer done args t _
  have hread := h (done :: outer) [] args (')' :: t) (breaks_cons (by decide) t)
  show e.readFrom (done :: outer) [] (c.args ++ args) (lex (c.text ++ [')'] ++ t)) = _
  rw [List.append_assoc]
  exact hread

/-- What a clause says is what its items say. -/
theorem Yields.isTrue?_eq (h : Yields e c I) : e.isTrue? c = e.truth? I := by
  have hread := h [] [] [] [] breaks_nil
  rw [List.append_nil, List.append_nil] at hread
  rw [Interpretation.isTrue?, hread]
  rfl

end Pieces

end ChannelSearch.Sql
