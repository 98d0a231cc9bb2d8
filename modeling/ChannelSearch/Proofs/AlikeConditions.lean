import ChannelSearch.Proofs.ReadProtocol
import ChannelSearch.Proofs.TextMeaning

/-!
Conditions that ask the same of every row, in whatever order they stand. Main statement: the store
answers queries with such conditions alike, patterns that are too long included, when it accepts the
height of both queries or of neither.
-/

namespace ChannelSearch

open Sql

namespace Condition

variable {C : Type} {users : UserQuery → List Text} {name : C → Text} {x y : Condition C}
  {xs ys zs xs' ys' : List (Condition C)}

/-- A pattern of one of its tests is too long. -/
def HasOverlong (x : Condition C) : Prop := ∃ t ∈ x.tests, isOverlong t = true

instance (x : Condition C) : Decidable x.HasOverlong := inferInstanceAs (Decidable (∃ t ∈ _, _))

/-- An argument is an integer that the store cannot take. -/
def HasUnfit (name : C → Text) (x : Condition C) : Prop :=
  ∃ n, Json.int n ∈ (x.clause name).args ∧ fitsStore n = false

/-- A pattern that is too long is met on every row. -/
def Exposed (x : Condition C) : Prop :=
  x.HasOverlong → ∀ users row, x.meetsOverlong users row = true

/-- A pattern that is too long is met wherever the condition holds. -/
def Settled (x : Condition C) : Prop :=
  x.HasOverlong → ∀ users row, x.holds users row = true → x.meetsOverlong users row = true

theorem hasOverlong_group {op : Connective} :
    HasOverlong (.group op xs) ↔ ∃ x ∈ xs, x.HasOverlong := by
  simp only [HasOverlong, mem_tests_group]
  constructor
  · rintro ⟨t, ⟨x, hx, ht⟩, hlong⟩
    exact ⟨x, hx, t, ht, hlong⟩
  · rintro ⟨x, hx, t, ht, hlong⟩
    exact ⟨t, ⟨x, hx, ht⟩, hlong⟩

theorem hasOverlong_both : HasOverlong (.both x y) ↔ x.HasOverlong ∨ y.HasOverlong := by
  simp only [HasOverlong, tests, List.mem_append, or_and_right, exists_or]

theorem Exposed.settled (h : x.Exposed) : x.Settled := fun hlong users row _ => h hlong users row

theorem exposed_test (t : Sql.Test C) : Exposed (.test t) := by
  rintro ⟨u, hu, hlong⟩ users row
  rw [tests, List.mem_singleton] at hu
  rwa [meetsOverlong, ← hu]

theorem Exposed.not (h : x.Exposed) : Exposed (.not x) := by
  intro hlong users row
  rw [HasOverlong, tests] at hlong
  rw [meetsOverlong]
  exact h hlong users row

/-- The first test of a group is decided on every row, so its pattern may stand for the others. -/
theorem exposed_group {t : Sql.Test C} (ts : List (Sql.Test C))
    (h : ∀ u ∈ ts, isOverlong u = true → isOverlong t = true) (op : Connective) :
    Exposed (.group op ((t :: ts).map .test)) := by
  intro hlong users row
  obtain ⟨x, hx, u, hu, hlong⟩ := hasOverlong_group.mp hlong
  obtain ⟨v, hv, rfl⟩ := List.mem_map.mp hx
  rw [tests, List.mem_singleton] at hu
  subst hu
  have hfirst : isOverlong t = true :=
    (List.mem_cons.mp hv).elim (fun heq => heq ▸ hlong) fun hmem => h u hmem hlong
  cases op with
  | all => rw [meetsOverlong, List.map_cons, allMeetOverlong, meetsOverlong, hfirst, Bool.true_or]
  | any => rw [meetsOverlong, List.map_cons, anyMeetsOverlong, meetsOverlong, hfirst, Bool.true_or]

theorem settled_all (h : ∀ x ∈ xs, x.Settled) : Settled (.group .all xs) := by
  intro hlong users row hholds
  obtain ⟨x, hx, hlong⟩ := hasOverlong_group.mp hlong
  rw [holds] at hholds
  have hmember : x.holds users row = true := by
    rw [holdsAll_eq, List.all_eq_true] at hholds
    exact hholds x hx
  rw [meetsOverlong]
  exact allMeetOverlong_of_holdsAll hholds hx (h x hx hlong users row hmember)

theorem settled_both (hx : x.Settled) (hy : y.Settled) : Settled (.both x y) := by
  intro hlong users row hholds
  rw [holds_both, Bool.and_eq_true] at hholds
  rw [meetsOverlong, hholds.1, Bool.true_and, Bool.or_eq_true]
  rcases hasOverlong_both.mp hlong with hlong | hlong
  · exact Or.inl (hx hlong users row hholds.1)
  · exact Or.inr (hy hlong users row hholds.2)

/-- Two lists of conditions hold of the same rows, and have patterns and arguments that the store
refuses in the same cases. -/
structure Alike (users : UserQuery → List Text) (name : C → Text) (xs ys : List (Condition C)) :
    Prop where
  holds : ∀ row, holdsAll users row xs = holdsAll users row ys
  overlong : (∃ x ∈ xs, x.HasOverlong) ↔ ∃ y ∈ ys, y.HasOverlong
  unfit : (∃ x ∈ xs, x.HasUnfit name) ↔ ∃ y ∈ ys, y.HasUnfit name
  left : ∀ x ∈ xs, x.Settled
  right : ∀ y ∈ ys, y.Settled

theorem Alike.symm (h : Alike users name xs ys) : Alike users name ys xs :=
  ⟨fun row => (h.holds row).symm, h.overlong.symm, h.unfit.symm, h.right, h.left⟩

theorem Alike.trans (h : Alike users name xs ys) (h' : Alike users name ys zs) :
    Alike users name xs zs :=
  ⟨fun row => (h.holds row).trans (h'.holds row), h.overlong.trans h'.overlong,
    h.unfit.trans h'.unfit, h.left, h'.right⟩

theorem Alike.append (h : Alike users name xs ys) (h' : Alike users name xs' ys') :
    Alike users name (xs ++ xs') (ys ++ ys') := by
  have heither {p : Condition C → Prop} (zs zs' : List (Condition C)) :
      (∃ z ∈ zs ++ zs', p z) ↔ (∃ z ∈ zs, p z) ∨ ∃ z ∈ zs', p z := by
    simp only [List.mem_append, or_and_right, exists_or]
  refine ⟨fun row => ?_, ?_, ?_, List.forall_mem_append.mpr ⟨h.left, h'.left⟩,
    List.forall_mem_append.mpr ⟨h.right, h'.right⟩⟩
  · have hxs := h.holds row
    have hxs' := h'.holds row
    simp only [holdsAll_eq] at hxs hxs' ⊢
    rw [List.all_append, List.all_append, hxs, hxs']
  · rw [heither, heither, h.overlong, h'.overlong]
  · rw [heither, heither, h.unfit, h'.unfit]

/-- The order of conditions does not count. -/
theorem alike_of_perm (h : xs.Perm ys) (hsettled : ∀ x ∈ xs, x.Settled) :
    Alike users name xs ys := by
  have hmem {p : Condition C → Prop} : (∃ x ∈ xs, p x) ↔ ∃ y ∈ ys, p y :=
    exists_congr fun x => and_congr_left fun _ => h.mem_iff
  refine ⟨fun row => ?_, hmem, hmem, hsettled, fun y hy => hsettled y (h.mem_iff.mpr hy)⟩
  rw [holdsAll_eq, holdsAll_eq]
  exact h.all_eq

theorem alike_refl (h : ∀ x ∈ xs, x.Settled) : Alike users name xs xs := alike_of_perm (.refl xs) h

/-- Conditions without patterns and with arguments that fit need only hold of the same rows. -/
theorem alike_of_holds (h : ∀ row, holdsAll users row xs = holdsAll users row ys)
    (hxs : ∀ x ∈ xs, ¬ x.HasOverlong ∧ ¬ x.HasUnfit name)
    (hys : ∀ y ∈ ys, ¬ y.HasOverlong ∧ ¬ y.HasUnfit name) : Alike users name xs ys := by
  refine ⟨h, iff_of_false ?_ ?_, iff_of_false ?_ ?_, fun x hx hlong => absurd hlong (hxs x hx).1,
    fun y hy hlong => absurd hlong (hys y hy).1⟩
  · rintro ⟨x, hx, hlong⟩
    exact (hxs x hx).1 hlong
  · rintro ⟨y, hy, hlong⟩
    exact (hys y hy).1 hlong
  · rintro ⟨x, hx, hunfit⟩
    exact (hxs x hx).2 hunfit
  · rintro ⟨y, hy, hunfit⟩
    exact (hys y hy).2 hunfit

/-- Brackets around conditions that are joined by `AND` change nothing. -/
theorem alike_all (h : ∀ x ∈ xs, x.Settled) : Alike users name [.group .all xs] xs := by
  refine ⟨fun row => ?_, ?_, ?_, List.forall_mem_singleton.mpr (settled_all h), h⟩
  · rw [holdsAll_eq, holdsAll_eq, List.all_cons, List.all_nil, Bool.and_true, holds_all]
  · simp only [List.mem_singleton, exists_eq_left, hasOverlong_group]
  · have hargs : (clause name (.group .all xs)).args = xs.flatMap fun x => (x.clause name).args := by
      rw [clause, clauses_eq]
      exact List.flatMap_map (clause name) Clause.args xs
    simp only [List.mem_singleton, exists_eq_left, HasUnfit, hargs, List.mem_flatMap]
    constructor
    · rintro ⟨n, ⟨x, hx, hn⟩, hfits⟩
      exact ⟨x, hx, n, hn, hfits⟩
    · rintro ⟨x, hx, n, hn, hfits⟩
      exact ⟨n, ⟨x, hx, hn⟩, hfits⟩

theorem alike_group? (h : ∀ x ∈ xs, x.Settled) : Alike users name (group? .all xs).toList xs := by
  cases hgroup : group? .all xs with
  | none =>
    rw [Tokens.group?_eq_none.mp hgroup]
    exact alike_refl (List.forall_mem_nil _)
  | some x =>
    rw [(Tokens.group?_eq_some.mp hgroup).2]
    exact alike_all h

theorem alike_both (hx : x.Settled) (hy : y.Settled) : Alike users name [.both x y] [x, y] := by
  refine ⟨fun row => ?_, ?_, ?_, List.forall_mem_singleton.mpr (settled_both hx hy),
    List.forall_mem_cons.mpr ⟨hx, List.forall_mem_singleton.mpr hy⟩⟩
  · rw [holdsAll_eq, holdsAll_eq]
    simp
  · simp [hasOverlong_both]
  · have hargs : (clause name (.both x y)).args = (x.clause name).args ++ (y.clause name).args := by
      rw [clause]
      exact congrArg (· ++ (y.clause name).args) (List.append_nil _)
    simp [HasUnfit, hargs, or_and_right, exists_or]

/-- What excluded tokens ask for. -/
def exclusions (tokens : Tokens) (column : C) : List (Condition C) :=
  ofExcludedTerms (.lower column) tokens.excludedTerms ++
    ofExcludedPhrases (.lower column) tokens.excludedPhrases

/-- Of a marked word and the word without its mark, the first has the longer pattern. -/
theorem exposed_marked (test : Text → Sql.Test C)
    (htest : ∀ pattern, (test pattern).pattern? = some pattern) (term : Text) (op : Connective) :
    Exposed (.group op [.test (test (withWildcards term true)),
      .test (test (withWildcards (term.drop 1) true))]) := by
  refine exposed_group [test (withWildcards (term.drop 1) true)] (fun u hu hlong => ?_) op
  rw [List.mem_singleton.mp hu] at hlong
  unfold isOverlong at hlong ⊢
  rw [htest, decide_eq_true_eq] at hlong ⊢
  refine hlong.trans_le ?_
  cases term with
  | nil => exact le_refl _
  | cons c term =>
    simp only [withWildcards, Text.byteSize, Bool.or_true, if_true, List.drop_succ_cons,
      List.drop_zero, List.cons_append, List.map_cons, List.foldr_cons]
    omega

theorem exposed_inclusions (tokens : Tokens) (column : C) :
    ∀ x ∈ inclusions tokens column, x.Exposed := by
  have hlike (term : Text) (middle : Bool) : Exposed (like (.lower column) term middle) :=
    exposed_test _
  refine List.forall_mem_append.mpr ⟨List.forall_mem_append.mpr
    ⟨Tokens.forall_ofHashtags hlike _, Tokens.forall_ofPhrases hlike _⟩, fun y hy => ?_⟩
  obtain ⟨term, -, hy⟩ := List.mem_filterMap.mp hy
  split_ifs at hy
  · exact Option.some.inj hy ▸
      exposed_marked (.like (.lower column) Tokens.messageEscape) (fun _ => rfl) term .any
  · exact Option.some.inj hy ▸ hlike _ _

theorem exposed_exclusions (tokens : Tokens) (column : C) :
    ∀ x ∈ exclusions tokens column, x.Exposed := by
  have hunlike (term : Text) (middle : Bool) : Exposed (unlike (.lower column) term middle) :=
    exposed_test _
  refine List.forall_mem_append.mpr ⟨fun y hy => ?_, Tokens.forall_ofExcludedPhrases hunlike _⟩
  obtain ⟨term, -, hy⟩ := List.mem_filterMap.mp hy
  dsimp only at hy
  split_ifs at hy
  · exact Option.some.inj hy ▸ exposed_marked (.unlike (.lower column) Tokens.messageEscape)
      (fun _ => rfl) (term.dropLeading '-') .all
  · exact Option.some.inj hy ▸ hunlike _ _

/-- The condition of tokens that must all match asks for its inclusions and its exclusions. -/
theorem alike_ofTokens? (tokens : Tokens) (column : C) :
    Alike users name (ofTokens? tokens column false).toList
      (inclusions tokens column ++ exclusions tokens column) := by
  have hincluded (x : Condition C) (hx : x ∈ inclusions tokens column) : x.Settled :=
    (exposed_inclusions tokens column x hx).settled
  have hexcluded (x : Condition C) (hx : x ∈ exclusions tokens column) : x.Settled :=
    (exposed_exclusions tokens column x hx).settled
  have hin : Alike users name (group? .all (inclusions tokens column)).toList
      (inclusions tokens column) := alike_group? hincluded
  have hex : Alike users name (group? .all (exclusions tokens column)).toList
      (exclusions tokens column) := alike_group? hexcluded
  refine Alike.trans ?_ (hin.append hex)
  have hsettled := List.forall_mem_append.mpr ⟨hin.left, hex.left⟩
  unfold ofTokens?
  cases hinclusion : group? .all (inclusions tokens column) with
  | none =>
    rw [hinclusion] at hsettled
    unfold inclusions at hinclusion
    simp only [Bool.false_eq_true, if_false, hinclusion]
    exact alike_refl hsettled
  | some inclusion =>
    rw [hinclusion] at hsettled
    unfold inclusions at hinclusion
    cases hexclusion : group? .all (exclusions tokens column) with
    | none =>
      rw [hexclusion] at hsettled
      unfold exclusions at hexclusion
      simp only [Bool.false_eq_true, if_false, hinclusion, hexclusion]
      exact alike_refl hsettled
    | some exclusion =>
      rw [hexclusion] at hsettled
      unfold exclusions at hexclusion
      simp only [Bool.false_eq_true, if_false, hinclusion, hexclusion]
      exact alike_both (hsettled _ List.mem_cons_self)
        (hsettled _ (List.mem_cons_of_mem _ (List.mem_singleton_self _)))

theorem exposed_containsAny? {columns : List C} {token : Text}
    (h : containsAny? columns token = some x) : x.Exposed := by
  unfold containsAny? at h
  dsimp only at h
  split_ifs at h
  rw [← Option.some.inj h]
  cases columns with
  | nil => exact fun hlong => absurd hlong (by simp [HasOverlong, tests, testsOfAll])
  | cons column columns =>
    generalize '%' :: (escapeWildcards ((token.trim (· = '"')).lower) [fileEscape] ++ ['%']) = pattern
    have hgroup : Exposed (.group .any (((Sql.Test.like (.lower column) fileEscape pattern) ::
        columns.map fun c => .like (.lower c) fileEscape pattern).map .test)) := by
      refine exposed_group _ (fun u hu hlong => ?_) .any
      obtain ⟨c, -, rfl⟩ := List.mem_map.mp hu
      exact hlong
    rw [List.map_cons, List.map_map] at hgroup
    exact hgroup

/-- The condition of texts on files that must all match asks for what they look for and rule out. -/
theorem alike_ofFileTexts? (columns : List C) (terms excludedTerms : Text) :
    Alike users name (ofFileTexts? columns terms excludedTerms false).toList
      (fileConditions columns terms ++ fileExclusions columns excludedTerms) := by
  have hincluded (x : Condition C) (hx : x ∈ fileConditions columns terms) : x.Settled := by
    obtain ⟨token, -, hx⟩ := List.mem_filterMap.mp hx
    exact (exposed_containsAny? hx).settled
  have hexcluded (x : Condition C) (hx : x ∈ fileExclusions columns excludedTerms) :
      x.Settled := by
    obtain ⟨token, -, hx⟩ := List.mem_filterMap.mp hx
    obtain ⟨y, hy, rfl⟩ := Option.map_eq_some_iff.mp hx
    exact (exposed_containsAny? hy).not.settled
  have hmembers : Alike users name ((group? .all (fileConditions columns terms)).toList ++
      (group? .all (fileExclusions columns excludedTerms)).toList)
      (fileConditions columns terms ++ fileExclusions columns excludedTerms) :=
    (alike_group? hincluded).append (alike_group? hexcluded)
  rw [ofFileTexts?_eq]
  exact (alike_group? hmembers.left).trans hmembers

end Condition

/-- What the store cannot take of the arguments of a select stands in its conditions, or is its limit or
its offset. -/
theorem Sql.Select.exists_unfit_congr {q q' : Select}
    (hwheres : (∃ w ∈ q.wheres, ∃ n, Json.int n ∈ w.args ∧ fitsStore n = false) ↔
      ∃ w ∈ q'.wheres, ∃ n, Json.int n ∈ w.args ∧ fitsStore n = false)
    (hlimit : q.limit = q'.limit) (hoffset : q.offset = q'.offset) :
    (∃ n, Json.int n ∈ q.clause.args ∧ fitsStore n = false) ↔
      ∃ n, Json.int n ∈ q'.clause.args ∧ fitsStore n = false := by
  have hsplit (q : Select) : (∃ n, Json.int n ∈ q.clause.args ∧ fitsStore n = false) ↔
      (∃ w ∈ q.wheres, ∃ n, Json.int n ∈ w.args ∧ fitsStore n = false) ∨
        ∃ n, Json.int n ∈ q.limitClause.args ∧ fitsStore n = false := by
    simp only [args_clause, List.mem_append, List.mem_flatMap, or_and_right, exists_or]
    refine or_congr_left ⟨?_, ?_⟩
    · rintro ⟨n, ⟨w, hw, hn⟩, hfits⟩
      exact ⟨w, hw, n, hn, hfits⟩
    · rintro ⟨w, hw, n, hn, hfits⟩
      exact ⟨n, ⟨w, hw, hn⟩, hfits⟩
  have hpage : q.limitClause = q'.limitClause := by
    unfold limitClause start
    rw [hlimit, hoffset]
  rw [hsplit q, hsplit q', hwheres, hpage]

/-- The conditions of a select as clauses have the arguments of the conditions. -/
theorem Condition.exists_unfit_clauses {C : Type} {name : C → Text} (xs : List (Condition C)) :
    (∃ w ∈ clauses name xs, ∃ n, Json.int n ∈ w.args ∧ fitsStore n = false) ↔
      ∃ x ∈ xs, x.HasUnfit name := by
  rw [clauses_eq]
  simp only [List.mem_map, exists_exists_and_eq_and]
  rfl

namespace PageQuery

variable {α β γ C : Type} {q q' : PageQuery C} {users : UserQuery → List Text}
  {values : α → C → Value} {name : C → Text}

instance (args : List Json) : Decidable (∃ n, Json.int n ∈ args ∧ fitsStore n = false) :=
  decidable_of_iff _ (any_beyondStore args)

/-- What is matched, once failures of the store are softened: nothing where a pattern is too long. -/
theorem softened_hits (hsettled : ∀ x ∈ q.conditions, x.Settled) (rows : List α)
    (f : List α → γ) :
    softened (f []) ((q.hits users values rows).map f) =
      if ∃ x ∈ q.conditions, x.HasOverlong then .ok (f [])
      else .ok (f (rows.filter fun a => Condition.holdsAll users (values a) q.conditions)) := by
  split_ifs with hlong
  · obtain ⟨x, hx, hlong⟩ := hlong
    cases hhits : q.hits users values rows with
    | error e =>
      unfold hits at hhits
      split_ifs at hhits
      obtain rfl := Except.error.inj hhits
      rfl
    | ok found =>
      obtain rfl := hits_eq_nil hhits hx fun a => hsettled x hx hlong users (values a)
      rfl
  · rw [hits_of_short]
    · rfl
    · intro x hx t ht
      by_contra hover
      exact hlong ⟨x, hx, t, ht, by simpa using hover⟩

/-- What a read gives: nothing where the store refuses the height or a pattern, and else the part of the
hits that makes the page. -/
theorem softened_read (hsettled : ∀ x ∈ q.conditions, x.Settled) (args : List Json)
    (createAt : α → Int) (rows : List α) (f : α → β) (g : List β → γ) :
    softened (g []) ((q.check args >>= fun _ => q.hits users values rows >>= fun found =>
      pure ((q.page createAt found).map f)).map g) =
      if q.IsPrepared then
        if ∃ n, Json.int n ∈ args ∧ fitsStore n = false then .error .integerOverflow
        else if ∃ x ∈ q.conditions, x.HasOverlong then .ok (g [])
        else .ok (g ((q.page createAt (rows.filter fun a =>
          Condition.holdsAll users (values a) q.conditions)).map f))
      else .ok (g []) := by
  by_cases hprepared : q.IsPrepared
  · by_cases hunfit : ∃ n, Json.int n ∈ args ∧ fitsStore n = false
    · rw [if_pos hprepared, if_pos hunfit, check_eq_overflow.mpr ⟨hprepared, hunfit⟩]
      rfl
    · have hfits (n : Int) (hn : Json.int n ∈ args) : fitsStore n = true := by
        by_contra hbeyond
        exact hunfit ⟨n, hn, by simpa using hbeyond⟩
      have hmap : (q.hits users values rows >>= fun found =>
          pure ((q.page createAt found).map f)).map g =
            (q.hits users values rows).map fun found => g ((q.page createAt found).map f) := by
        cases q.hits users values rows <;> rfl
      have hnone : ((q.page createAt ([] : List α)).map f) = [] :=
        List.map_eq_nil_iff.mpr
          (List.eq_nil_iff_forall_not_mem.mpr fun a ha => List.not_mem_nil (mem_page ha))
      have hhits : softened (g ((q.page createAt ([] : List α)).map f))
          ((q.hits users values rows).map fun found => g ((q.page createAt found).map f)) = _ :=
        softened_hits hsettled rows fun found => g ((q.page createAt found).map f)
      rw [hnone] at hhits
      rw [if_pos hprepared, if_neg hunfit, check_ok hprepared hfits, ok_bind, hmap, hhits]
  · rw [if_neg hprepared, check, if_pos (not_le.mp hprepared)]
    rfl

/-- Queries for the same page with conditions that are alike are answered alike, if the store accepts
the height of both or of neither. -/
theorem softened_read_congr (hconditions : Condition.Alike users name q.conditions q'.conditions)
    (hprepared : q.IsPrepared ↔ q'.IsPrepared) {args args' : List Json}
    (hunfit : (∃ n, Json.int n ∈ args ∧ fitsStore n = false) ↔
      ∃ n, Json.int n ∈ args' ∧ fitsStore n = false)
    (hlimit : q.limit = q'.limit) (hoffset : q.offset = q'.offset) (createAt : α → Int)
    (rows : List α) (f : α → β) (g : List β → γ) :
    softened (g []) ((q.check args >>= fun _ => q.hits users values rows >>= fun found =>
        pure ((q.page createAt found).map f)).map g) =
      softened (g []) ((q'.check args' >>= fun _ => q'.hits users values rows >>= fun found =>
        pure ((q'.page createAt found).map f)).map g) := by
  have hpage (found : List α) : q.page createAt found = q'.page createAt found := by
    unfold page
    rw [hlimit, hoffset]
  rw [softened_read hconditions.left, softened_read hconditions.right]
  simp only [hprepared, hunfit, hconditions.overlong, hpage, hconditions.holds]

end PageQuery

namespace Store

variable {γ : Type} (s : Store)

theorem softened_readPosts {q q' : PostQuery}
    (hconditions : Condition.Alike s.userIds PostColumn.name q.conditions q'.conditions)
    (hprepared : PageQuery.IsPrepared q ↔ PageQuery.IsPrepared q') (hlimit : q.limit = q'.limit)
    (hoffset : q.offset = q'.offset) (g : List PostRow → γ) :
    softened (g []) ((s.readPosts q).map g) = softened (g []) ((s.readPosts q').map g) := by
  refine PageQuery.softened_read_congr hconditions hprepared ?_ hlimit hoffset _ _ _ g
  refine Select.exists_unfit_congr ?_ (congrArg some hlimit) hoffset
  exact (Condition.exists_unfit_clauses _).trans
    (hconditions.unfit.trans (Condition.exists_unfit_clauses _).symm)

theorem softened_readFiles {q q' : FileQuery}
    (hconditions : Condition.Alike s.userIds FileColumn.text q.conditions q'.conditions)
    (hprepared : PageQuery.IsPrepared q ↔ PageQuery.IsPrepared q') (hlimit : q.limit = q'.limit)
    (hoffset : q.offset = q'.offset) (g : List FileRow → γ) :
    softened (g []) ((s.readFiles q).map g) = softened (g []) ((s.readFiles q').map g) := by
  refine PageQuery.softened_read_congr hconditions hprepared ?_ hlimit hoffset _ _ _ g
  refine Select.exists_unfit_congr ?_ (congrArg some hlimit) hoffset
  exact (Condition.exists_unfit_clauses _).trans
    (hconditions.unfit.trans (Condition.exists_unfit_clauses _).symm)

end Store

end ChannelSearch
