import ChannelSearch.Proofs.ConditionTree
import ChannelSearch.Proofs.SearchRuns
import ChannelSearch.Proofs.Words

/-!
Statements that pass their checks. A clause is bindable when every mark has its argument and the store
can take each of them; pieces are put together from bindable ones, so selects are sent.
-/

namespace ChannelSearch

theorem fitsStore_iff {n : Int} : fitsStore n = true ↔ -2 ^ 63 ≤ n ∧ n < 2 ^ 63 := by
  have hhalf : ((Nat.pow 2 (64 - 1) : Nat) : Int) = 2 ^ 63 := by decide
  unfold fitsStore SignedWord.holds
  dsimp only
  rw [hhalf, Bool.and_eq_true, decide_eq_true_eq, decide_eq_true_eq, and_comm]

namespace Sql

/-- As many marks as arguments. -/
def Clause.Balanced (c : Clause) : Prop := c.placeholders = c.args.length

/-- As many marks as arguments, and every integer among these fits the store. -/
structure Clause.Bindable (c : Clause) : Prop where
  balanced : c.Balanced
  fits : ∀ n, Json.int n ∈ c.args → fitsStore n = true

namespace Clause

theorem balanced_text {t : Text} (h : '?' ∉ t) : Balanced ⟨t, []⟩ := List.count_eq_zero.mpr h

theorem Balanced.append {a b : Clause} (ha : a.Balanced) (hb : b.Balanced) : (a ++ b).Balanced := by
  show (a.text ++ b.text).count '?' = (a.args ++ b.args).length
  rw [List.count_append, List.length_append]
  exact congrArg₂ (· + ·) ha hb

theorem Balanced.brackets {c : Clause} (h : c.Balanced) : c.brackets.Balanced := by
  simpa [Balanced, Clause.brackets, placeholders] using h

theorem join_cons {separator : String} {c : Clause} {cs : List Clause} (h : cs ≠ []) :
    join separator (c :: cs) = c ++ (⟨separator.toList, []⟩ ++ join separator cs) := by
  unfold join
  rw [List.map_cons, Text.join_cons (by simpa using h), List.append_assoc]
  rfl

theorem balanced_join {separator : String} (hseparator : '?' ∉ separator.toList) {cs : List Clause}
    (h : ∀ c ∈ cs, c.Balanced) : (join separator cs).Balanced := by
  induction cs with
  | nil => rfl
  | cons c cs ih =>
    obtain ⟨hc, hcs⟩ := List.forall_mem_cons.mp h
    by_cases hnil : cs = []
    · subst hnil
      have hone : c.text.count '?' = c.args.length := hc
      simpa [join, Balanced, placeholders] using hone
    · rw [join_cons hnil]
      exact hc.append ((balanced_text hseparator).append (ih hcs))

theorem bindable_text {t : Text} (h : '?' ∉ t) : Bindable ⟨t, []⟩ :=
  ⟨balanced_text h, by simp⟩

theorem Bindable.append {a b : Clause} (ha : a.Bindable) (hb : b.Bindable) : (a ++ b).Bindable := by
  refine ⟨ha.balanced.append hb.balanced, fun n hn => ?_⟩
  exact (List.mem_append.mp hn).elim (ha.fits n) (hb.fits n)

theorem Bindable.brackets {c : Clause} (h : c.Bindable) : c.brackets.Bindable :=
  ⟨h.balanced.brackets, h.fits⟩

theorem bindable_join {separator : String} (hseparator : '?' ∉ separator.toList) {cs : List Clause}
    (h : ∀ c ∈ cs, c.Bindable) : (join separator cs).Bindable := by
  refine ⟨balanced_join hseparator fun c hc => (h c hc).balanced, fun n hn => ?_⟩
  obtain ⟨c, hc, hn⟩ := List.mem_flatMap.mp hn
  exact (h c hc).fits n hn

theorem bindable_list {values : List Json} (h : ∀ n, Json.int n ∈ values → fitsStore n = true) :
    (list values).Bindable := by
  refine (bindable_join (by decide) fun c hc => ?_).brackets
  obtain ⟨v, hv, rfl⟩ := List.mem_map.mp hc
  refine ⟨rfl, fun n hn => h n ?_⟩
  rwa [List.mem_singleton.mp hn]

end Clause

/-- The loop of a check passes exactly where nothing fails it. -/
theorem forIn_check {ε α : Type} {xs : List α} {p : α → Prop} [DecidablePred p] {e : α → ε} :
    (forIn xs PUnit.unit fun x _ =>
      if p x then (throw (e x) : Except ε PUnit) >>= fun _ => pure (ForInStep.yield PUnit.unit)
      else pure (ForInStep.yield PUnit.unit)) = .ok PUnit.unit ↔ ∀ x ∈ xs, ¬ p x := by
  induction xs with
  | nil => simp [pure, Except.pure]
  | cons x xs ih =>
    rw [List.forIn_cons, List.forall_mem_cons]
    split_ifs with hx
    · constructor
      · intro h
        cases h
      · intro h
        exact absurd hx h.1
    · rw [← ih]
      exact (and_iff_right hx).symm

/-- What a select needs to be sent: something to select from, an argument for every mark, and a limit
when it has a start. -/
structure Select.Checked (q : Select) : Prop where
  columns : q.columns ≠ []
  source : q.source ≠ []
  wheres : ∀ c ∈ q.wheres, c.Balanced
  limit : q.limit.isSome = true ∨ q.start = none

theorem Select.check_eq_ok_iff {q : Select} : q.check = .ok () ↔ q.Checked := by
  unfold check
  by_cases hhead : (q.columns.isEmpty || q.source.isEmpty) = true
  · rw [if_pos hhead]
    constructor
    · intro h
      cases h
    · intro h
      simp [h.columns, h.source] at hhead
  · rw [if_neg hhead]
    rw [Bool.or_eq_true, List.isEmpty_iff, List.isEmpty_iff, not_or] at hhead
    dsimp only
    rw [bind_eq_ok]
    constructor
    · rintro ⟨⟨⟩, hloop, hend⟩
      have hcounts := forIn_check.mp hloop
      refine ⟨hhead.1, hhead.2, fun c hc => not_not.mp (hcounts c hc), ?_⟩
      split_ifs at hend with hoffset
      cases hlimit : q.limit with
      | none => exact Or.inr (by simpa [hlimit] using hoffset)
      | some limit => exact Or.inl rfl
    · intro h
      refine ⟨PUnit.unit, forIn_check.mpr fun c hc => not_not.mpr (h.wheres c hc), ?_⟩
      rw [if_neg]
      · rfl
      · rcases h.limit with hlimit | hstart
        · simp [Option.isSome_iff_ne_none.mp hlimit]
        · simp [hstart]

theorem Select.statement_eq_ok_iff {q : Select} {s : Statement} :
    q.statement = .ok s ↔ q.Checked ∧ s = ⟨q.clause.text, q.clause.args⟩ := by
  rw [← check_eq_ok_iff, statement]
  cases h : q.check with
  | error e => simp [Except.map]
  | ok u => simp [Except.map, eq_comm]

theorem Select.statement_ok {q : Select} (hcolumns : q.columns ≠ []) (hsource : q.source ≠ [])
    (hwheres : ∀ c ∈ q.wheres, c.Balanced) (hlimit : q.limit.isSome = true ∨ q.offset = none) :
    q.statement = .ok ⟨q.clause.text, q.clause.args⟩ := by
  refine statement_eq_ok_iff.mpr ⟨⟨hcolumns, hsource, hwheres, hlimit.imp_right ?_⟩, rfl⟩
  intro hoffset
  rw [start, hoffset, Option.filter_none]

theorem Select.limitClause_balanced (q : Select) : q.limitClause.Balanced := by
  have hempty : Clause.Balanced ⟨[], []⟩ := rfl
  unfold limitClause
  split
  · exact hempty
  · refine Clause.Balanced.append rfl ?_
    split
    · exact hempty
    · rfl

/-- A select has as many marks as arguments when its conditions have. -/
theorem Select.clause_balanced {q : Select} (hhead : ∀ t ∈ q.source :: q.columns, '?' ∉ t)
    (hwheres : ∀ c ∈ q.wheres, c.Balanced) (horder : '?' ∉ q.orderBy) : q.clause.Balanced := by
  obtain ⟨hsource, hcolumns⟩ := List.forall_mem_cons.mp hhead
  have hverb (verb : String) (hverb : '?' ∉ verb.toList) : Clause.Balanced
      ⟨verb.toList ++ Text.join ", ".toList q.columns ++ " FROM ".toList ++ q.source, []⟩ := by
    refine Clause.balanced_text ?_
    simp only [List.mem_append, not_or]
    refine ⟨⟨⟨hverb, fun h => ?_⟩, by decide⟩, hsource⟩
    rcases Text.mem_join h with h | ⟨t, ht, h⟩
    · exact absurd h (by decide)
    · exact hcolumns t ht h
  unfold clause
  refine Clause.Balanced.append (Clause.Balanced.append (Clause.Balanced.append ?_ ?_) ?_)
    q.limitClause_balanced
  · split_ifs
    · exact hverb "SELECT DISTINCT " (by decide)
    · exact hverb "SELECT " (by decide)
  · split_ifs
    · rfl
    · exact (Clause.balanced_text (by decide)).append (Clause.balanced_join (by decide) hwheres)
  · split_ifs
    · rfl
    · exact Clause.balanced_text fun h => (List.mem_append.mp h).elim (absurd · (by decide)) horder

/-- The arguments of a select are those of its conditions, then its limit and its offset. -/
theorem Select.args_clause (q : Select) :
    q.clause.args = q.wheres.flatMap Clause.args ++ q.limitClause.args := by
  have happend (a b : Clause) : (a ++ b).args = a.args ++ b.args := rfl
  have hwheres : (if q.wheres.isEmpty then (⟨[], []⟩ : Clause)
      else ⟨" WHERE ".toList, []⟩ ++ Clause.join " AND " q.wheres).args =
        q.wheres.flatMap Clause.args := by
    split_ifs with h
    · rw [List.isEmpty_iff.mp h]
      rfl
    · rfl
  have horder : (if q.orderBy.isEmpty then (⟨[], []⟩ : Clause)
      else ⟨" ORDER BY ".toList ++ q.orderBy, []⟩).args = [] := by
    split_ifs <;> rfl
  rw [clause, happend, happend, happend, hwheres, horder, List.append_nil]
  rfl

theorem Select.args_limitClause {q : Select} {v : Json} (h : v ∈ q.limitClause.args) :
    (∃ n ∈ q.limit, v = .int n) ∨ ∃ n ∈ q.offset, v = .int n := by
  unfold limitClause at h
  split at h
  · cases h
  · next limit hlimit =>
    rcases List.mem_append.mp h with h | h
    · exact Or.inl ⟨limit, hlimit, List.mem_singleton.mp h⟩
    · split at h
      · cases h
      · next offset hoffset =>
        have hoffset : offset ∈ q.offset := Option.eq_some_of_filter_eq_some hoffset
        exact Or.inr ⟨offset, hoffset, List.mem_singleton.mp h⟩

/-- A select is bindable as a clause when its conditions, its limit and its offset are. -/
theorem Select.clause_bindable {q : Select} (hhead : ∀ t ∈ q.source :: q.columns, '?' ∉ t)
    (hwheres : ∀ c ∈ q.wheres, c.Bindable) (horder : '?' ∉ q.orderBy)
    (hlimit : ∀ n ∈ q.limit, fitsStore n = true) (hoffset : ∀ n ∈ q.offset, fitsStore n = true) :
    q.clause.Bindable := by
  refine ⟨clause_balanced hhead (fun c hc => (hwheres c hc).balanced) horder, fun n hn => ?_⟩
  rw [args_clause] at hn
  rcases List.mem_append.mp hn with hn | hn
  · obtain ⟨c, hc, hn⟩ := List.mem_flatMap.mp hn
    exact (hwheres c hc).fits n hn
  · rcases args_limitClause hn with ⟨m, hm, heq⟩ | ⟨m, hm, heq⟩
    · exact Json.int.inj heq ▸ hlimit m hm
    · exact Json.int.inj heq ▸ hoffset m hm

/-- Of a select whose conditions and limit are bindable, the store can only refuse the offset. -/
theorem Select.exists_unfit_iff {q : Select} (hwheres : ∀ c ∈ q.wheres, c.Bindable)
    (hlimit : ∀ n ∈ q.limit, fitsStore n = true) (hsome : q.limit.isSome = true) :
    (∃ n, Json.int n ∈ q.clause.args ∧ fitsStore n = false) ↔
      ∃ n ∈ q.offset, fitsStore n = false := by
  rw [args_clause]
  constructor
  · rintro ⟨n, hn, hfits⟩
    rcases List.mem_append.mp hn with hn | hn
    · obtain ⟨c, hc, hn⟩ := List.mem_flatMap.mp hn
      rw [(hwheres c hc).fits n hn] at hfits
      cases hfits
    · rcases args_limitClause hn with ⟨m, hm, heq⟩ | ⟨m, hm, heq⟩
      · rw [Json.int.inj heq, hlimit m hm] at hfits
        cases hfits
      · exact ⟨m, hm, Json.int.inj heq ▸ hfits⟩
  · rintro ⟨n, hn, hfits⟩
    obtain ⟨limit, hlimit⟩ := Option.isSome_iff_exists.mp hsome
    have hne : n ≠ 0 := by
      rintro rfl
      exact absurd hfits (by decide)
    have hstart : q.start = some n := by
      rw [start, Option.mem_def.mp hn, Option.filter_some, if_pos (by simpa using hne)]
    refine ⟨n, List.mem_append_right _ ?_, hfits⟩
    rw [limitClause, hlimit, hstart]
    exact List.mem_append_right _ (List.mem_singleton_self _)

namespace Test

variable {C : Type} {name : C → Text}

/-- The bounds of a test fit the store, and its escape is no mark of an argument. -/
def Binds : Test C → Prop
  | .atLeast _ bound => fitsStore bound = true
  | .atMost _ bound => fitsStore bound = true
  | .between _ low high => fitsStore low = true ∧ fitsStore high = true
  | .like _ escape _ => escape ≠ '?'
  | .unlike _ escape _ => escape ≠ '?'
  | _ => True

/-- The escape of a pattern is no mark of an argument. -/
def Unmarked : Test C → Prop
  | .like _ escape _ => escape ≠ '?'
  | .unlike _ escape _ => escape ≠ '?'
  | _ => True

theorem Binds.unmarked {t : Test C} (h : t.Binds) : t.Unmarked := by
  cases t <;> first | exact h | trivial

theorem not_mem_operand (hname : ∀ c, '?' ∉ name c) (x : Operand C) : '?' ∉ x.text name := by
  cases x with
  | column c => exact hname c
  | lower c =>
    unfold Operand.text
    rw [List.mem_append, List.mem_append]
    rintro ((hword | h) | hmark)
    · revert hword
      decide
    · exact hname c h
    · revert hmark
      decide

theorem not_mem_escapeText {escape : Char} (h : escape ≠ '?') : '?' ∉ escapeText escape := by
  unfold escapeText
  rw [List.mem_append]
  rintro (hword | hmark)
  · revert hword
    decide
  · simp [Ne.symm h] at hmark

theorem balanced_pattern (hname : ∀ c, '?' ∉ name c) (x : Operand C) {escape : Char}
    (hescape : escape ≠ '?') {word : String} (hword : word.toList.count '?' = 1) (pattern : Text) :
    Clause.Balanced ⟨x.text name ++ word.toList ++ escapeText escape, [.text pattern]⟩ := by
  have hend : (escapeText escape).count '?' = 0 :=
    List.count_eq_zero.mpr (not_mem_escapeText hescape)
  unfold Clause.Balanced
  rw [Clause.placeholders, List.count_append, List.count_append,
    List.count_eq_zero.mpr (not_mem_operand hname x), hword, hend]
  rfl

/-- Tests on columns whose names hold no mark have as many marks as arguments. -/
theorem clause_balanced (hname : ∀ c, '?' ∉ name c) {t : Test C} (h : t.Unmarked) :
    (t.clause name).Balanced := by
  have hword (c : C) {word : Text} {args : List Json} (hword : word.count '?' = args.length) :
      Clause.Balanced ⟨name c ++ word, args⟩ := by
    show (name c ++ word).count '?' = args.length
    rw [List.count_append, List.count_eq_zero.mpr (hname c), hword, Nat.zero_add]
  have hvalues (c : C) {word : String} (hplain : '?' ∉ word.toList) (values : List Text) :
      (⟨name c ++ word.toList, []⟩ ++ Clause.list (values.map .text) : Clause).Balanced :=
    (hword c (List.count_eq_zero.mpr hplain)).append (Clause.bindable_list (by simp)).balanced
  cases t with
  | equals c value => exact hword c rfl
  | sameAs c d =>
    show Clause.Balanced ⟨name c ++ " = ".toList ++ name d, []⟩
    exact Clause.balanced_text (by simp [hname])
  | isZero c => exact hword c rfl
  | isEmpty c => exact hword c rfl
  | atLeast c bound => exact hword c rfl
  | atMost c bound => exact hword c rfl
  | between c low high => exact hword c rfl
  | oneOf c values => exact hvalues c (by decide) values
  | noneOf c values => exact hvalues c (by decide) values
  | oneOfJson c values => exact hword c rfl
  | like x escape pattern => exact balanced_pattern hname x h (by decide) pattern
  | unlike x escape pattern => exact balanced_pattern hname x h (by decide) pattern

/-- They are bindable when the store can take their bounds. -/
theorem clause_bindable (hname : ∀ c, '?' ∉ name c) {t : Test C} (h : t.Binds) :
    (t.clause name).Bindable := by
  have hvalues (c : C) (word : String) (values : List Text) :
      ∀ n, Json.int n ∈ (⟨name c ++ word.toList, []⟩ ++ Clause.list (values.map .text) : Clause).args →
        fitsStore n = true :=
    fun n hn => (Clause.bindable_list (by simp)).fits n ((List.mem_append.mp hn).resolve_left (by simp))
  refine ⟨clause_balanced hname h.unmarked, ?_⟩
  cases t with
  | oneOf c values => exact hvalues c " IN " values
  | noneOf c values => exact hvalues c " NOT IN " values
  | atLeast c bound => simpa [clause, Binds] using h
  | atMost c bound => simpa [clause, Binds] using h
  | between c low high => simpa [clause, Binds] using h
  | _ => simp [clause]

end Test

end Sql

open Sql

/-- The select of a filter on authors is bindable when its tests are. -/
theorem UserQuery.select_bindable {q : UserQuery} (h : ∀ t ∈ q.tests, t.Binds) :
    q.select.clause.Bindable := by
  have hname (c : UserQuery.Column) : '?' ∉ c.name := by cases c <;> decide
  have hwheres : ∀ c ∈ q.select.wheres, c.Bindable := by
    intro c hc
    obtain ⟨t, ht, rfl⟩ := List.mem_map.mp hc
    exact Test.clause_bindable hname (h t ht)
  refine Select.clause_bindable ?_ hwheres ?_ ?_ ?_
  · refine List.forall_mem_cons.mpr ⟨?_, fun t ht => ?_⟩
    · unfold select
      dsimp only
      split_ifs <;> decide
    · exact List.mem_singleton.mp ht ▸ hname .id
  · exact List.not_mem_nil
  · rintro n ⟨⟩
  · rintro n ⟨⟩

namespace Condition

variable {C : Type} {name : C → Text}

theorem test_balanced (hname : ∀ c, '?' ∉ name c) {t : Test C} (h : t.Unmarked) :
    (clause name (.test t)).Balanced := by
  rw [clause]
  exact Test.clause_balanced hname h

theorem test_bindable (hname : ∀ c, '?' ∉ name c) {t : Test C} (h : t.Binds) :
    (clause name (.test t)).Bindable := by
  rw [clause]
  exact Test.clause_bindable hname h

theorem isUserIn_bindable (hname : ∀ c, '?' ∉ name c) (c : C) {q : UserQuery}
    (h : ∀ t ∈ q.tests, t.Binds) : (clause name (.isUserIn c q)).Bindable := by
  rw [clause]
  refine (Clause.bindable_text ?_).append (UserQuery.select_bindable h).brackets
  simp [hname]

theorem not_bindable {x : Condition C} (h : (clause name x).Bindable) :
    (clause name (.not x)).Bindable := by
  rw [clause]
  exact (Clause.bindable_text (by decide)).append h

theorem group_bindable {op : Connective} {xs : List (Condition C)}
    (h : ∀ x ∈ xs, (clause name x).Bindable) : (clause name (.group op xs)).Bindable := by
  rw [clause, clauses_eq]
  refine (Clause.bindable_join ?_ fun c hc => ?_).brackets
  · cases op <;> decide
  · obtain ⟨x, hx, rfl⟩ := List.mem_map.mp hc
    exact h x hx

theorem both_bindable {x y : Condition C} (hx : (clause name x).Bindable)
    (hy : (clause name y).Bindable) : (clause name (.both x y)).Bindable := by
  rw [clause]
  exact (hx.append (Clause.bindable_text (by decide))).append hy

/-- What holds of the clause of every condition of a list holds of the clauses of the list. -/
theorem forall_mem_clauses {p : Clause → Prop} {xs : List (Condition C)}
    (h : ∀ x ∈ xs, p (clause name x)) : ∀ c ∈ clauses name xs, p c := by
  intro c hc
  rw [clauses_eq] at hc
  obtain ⟨x, hx, rfl⟩ := List.mem_map.mp hc
  exact h x hx

end Condition

end ChannelSearch
