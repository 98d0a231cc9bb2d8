import ChannelSearch.Proofs.ConditionTree
import ChannelSearch.Proofs.SearchRuns
import ChannelSearch.Store.Read

/-!
The answers of a store to page queries: stored rows that satisfy every condition of the query, so for
a query within channels, rows of these channels, and inside the limits of the store a part of all of
them, newest first.
-/

namespace ChannelSearch

variable {α C : Type}

/-- Rows with the newest first. Rows of one time stay in their order. -/
def newestFirst (createAt : α → Int) (rows : List α) : List α :=
  rows.mergeSort fun a b => createAt b ≤ createAt a

@[simp] theorem newestFirst_nil (createAt : α → Int) : newestFirst createAt [] = [] :=
  List.mergeSort_nil

theorem newestFirst_perm (createAt : α → Int) (rows : List α) :
    (newestFirst createAt rows).Perm rows := List.mergeSort_perm _ _

theorem pairwise_newestFirst (createAt : α → Int) (rows : List α) :
    (newestFirst createAt rows).Pairwise fun a b => createAt b ≤ createAt a := by
  have hsorted : (newestFirst createAt rows).Pairwise
      fun a b => decide (createAt b ≤ createAt a) = true := by
    apply List.pairwise_mergeSort
    · simp only [decide_eq_true_eq]
      omega
    · simp only [Bool.or_eq_true, decide_eq_true_eq]
      omega
  simpa using hsorted

/-- What is shown of some rows is made of them. -/
theorem exists_of_mem_part {β : Type} {createAt : α → Int} {found : List α} {m n : Nat} {f : α → β}
    {b : β} (h : b ∈ (((newestFirst createAt found).drop m).take n).map f) : ∃ a ∈ found, f a = b := by
  obtain ⟨a, ha, hb⟩ := List.mem_map.mp h
  exact ⟨a, (newestFirst_perm createAt found).mem_iff.mp (List.mem_of_mem_drop (List.mem_of_mem_take ha)),
    hb⟩

/-- What is in a list is on one of its pages, and that page starts within the list. -/
theorem exists_page_of_mem {l : List α} {a : α} (h : a ∈ l) {limit : Nat} (hlimit : 0 < limit) :
    ∃ page, page * limit < l.length ∧ a ∈ (l.drop (page * limit)).take limit := by
  obtain ⟨i, hi, rfl⟩ := List.mem_iff_getElem.mp h
  have hpage : i / limit * limit + i % limit = i := Nat.div_add_mod' i limit
  have hrest : i % limit < limit := Nat.mod_lt i hlimit
  refine ⟨i / limit, by omega, List.mem_iff_getElem.mpr ⟨i % limit, ?_, ?_⟩⟩
  · rw [List.length_take, List.length_drop]
    omega
  · simp only [List.getElem_take, List.getElem_drop, hpage]

namespace PageQuery

variable {q : PageQuery C} {users : UserQuery → List Text} {values : α → C → Sql.Value}

theorem mem_page {createAt : α → Int} {rows : List α} {a : α} (h : a ∈ q.page createAt rows) :
    a ∈ rows := by
  have hdrop (n : Nat) (h : a ∈ (rows.mergeSort fun a b => createAt b ≤ createAt a).drop n) :
      a ∈ rows := List.mem_mergeSort.mp (List.mem_of_mem_drop h)
  unfold page at h
  dsimp only at h
  split_ifs at h
  · exact hdrop _ h
  · exact hdrop _ (List.mem_of_mem_take h)

theorem hits_ok {rows found : List α} (h : q.hits users values rows = .ok found) :
    found = rows.filter fun r => Condition.holdsAll users (values r) q.conditions := by
  unfold hits at h
  split_ifs at h
  exact (Except.ok.inj h).symm

/-- Nothing is found by a condition that holds only where it meets a pattern that is too long. -/
theorem hits_eq_nil {rows found : List α} (h : q.hits users values rows = .ok found)
    {x : Condition C} (hx : x ∈ q.conditions)
    (hlong : ∀ a, x.holds users (values a) = true → x.meetsOverlong users (values a) = true) :
    found = [] := by
  apply List.eq_nil_iff_forall_not_mem.mpr
  intro a ha
  unfold hits at h
  split_ifs at h with hany
  obtain rfl := Except.ok.inj h
  obtain ⟨hrow, hholds⟩ := List.mem_filter.mp ha
  have hmem (y : Condition C) : y ∈ q.inOrder ↔ y ∈ q.conditions := by
    rw [inOrder, List.mem_append, List.mem_filter, List.mem_filter]
    cases y.hasPattern <;> simp
  rw [Condition.holdsAll_eq, List.all_eq_true] at hholds
  have hinOrder : Condition.holdsAll users (values a) q.inOrder = true := by
    rw [Condition.holdsAll_eq, List.all_eq_true]
    exact fun y hy => hholds y ((hmem y).mp hy)
  exact hany (List.any_eq_true.mpr ⟨a, hrow,
    Condition.allMeetOverlong_of_holdsAll hinOrder ((hmem x).mpr hx) (hlong a (hholds x hx))⟩)

/-- A query within channels asks for what it asked before, in these channels. -/
theorem holdsAll_within {row : C → Sql.Value} {column : C} {ids : List Text} {id : Text}
    (hrow : row column = .text id) :
    Condition.holdsAll users row (q.within column ids).conditions = true ↔
      Condition.holdsAll users row q.conditions = true ∧ id ∈ ids := by
  rw [Condition.holdsAll_eq, Condition.holdsAll_eq, within, filter, List.all_append]
  simp [Sql.Test.holds, hrow]

/-- Rows outside the channels are decided before any pattern is matched. -/
theorem not_allMeetOverlong_within {row : C → Sql.Value} {column : C} {ids : List Text} {id : Text}
    (hrow : row column = .text id) (hid : id ∉ ids) :
    Condition.allMeetOverlong users row (q.within column ids).inOrder = false := by
  have hchannel : Condition.hasPattern (.test (.oneOfJson column ids)) = false := by
    rw [Condition.hasPattern]
    rfl
  have hfails : Condition.holdsAll users row
      ((q.within column ids).conditions.filter fun x => !x.hasPattern) = false := by
    rw [Condition.holdsAll_eq, within, filter, List.filter_append, List.all_append]
    simp only [List.filter_cons, hchannel, Bool.not_false, if_true, List.filter_nil, List.all_cons,
      Condition.holds_test, Sql.Test.holds, hrow, List.all_nil, Bool.and_true]
    rw [Bool.and_eq_false_iff, List.any_eq_false]
    refine Or.inr fun v hv => ?_
    rw [decide_eq_true_eq, Sql.Value.text.injEq]
    exact fun heq => hid (heq ▸ hv)
  rw [inOrder, Condition.allMeetOverlong_append, hfails, Bool.false_and, Bool.or_false]
  apply Condition.allMeetOverlong_eq_false
  intro x hx
  exact Condition.meetsOverlong_of_hasPattern (by simpa using (List.mem_filter.mp hx).2)

/-- A query within channels does not read the rows outside them. -/
theorem hits_within {column : C} {key : α → Text} (hkey : ∀ a, values a column = .text (key a))
    (ids : List Text) (rows : List α) :
    (q.within column ids).hits users values rows =
      (q.within column ids).hits users values (rows.filter (key · ∈ ids)) := by
  have hlong (a : α) :
      Condition.allMeetOverlong users (values a) (q.within column ids).inOrder =
        (decide (key a ∈ ids) &&
          Condition.allMeetOverlong users (values a) (q.within column ids).inOrder) := by
    by_cases hid : key a ∈ ids
    · simp [hid]
    · rw [not_allMeetOverlong_within (hkey a) hid, Bool.and_false]
  have hholds (a : α) :
      Condition.holdsAll users (values a) (q.within column ids).conditions =
        (Condition.holdsAll users (values a) (q.within column ids).conditions &&
          decide (key a ∈ ids)) := by
    rw [Bool.eq_iff_iff, Bool.and_eq_true, holdsAll_within (hkey a), decide_eq_true_eq]
    exact ⟨fun h => ⟨h, h.2⟩, fun h => h.1⟩
  unfold hits
  rw [List.any_filter, List.filter_filter, ← funext hlong, ← funext hholds]

/-- Only integers are looked at. -/
theorem any_beyondStore (args : List Json) :
    (args.any fun | .int n => !fitsStore n | _ => false) = true ↔
      ∃ n, Json.int n ∈ args ∧ fitsStore n = false := by
  rw [List.any_eq_true]
  constructor
  · rintro ⟨v, hv, hfits⟩
    cases v with
    | int n => exact ⟨n, hv, by simpa using hfits⟩
    | _ => simp at hfits
  · rintro ⟨n, hn, hfits⟩
    exact ⟨.int n, hn, by simpa using hfits⟩

/-- A query is accepted when it is not nested too deeply and the store can take its integers. -/
theorem check_ok {args : List Json}
    (hheight : q.height ≤ Condition.maxHeight)
    (hfits : ∀ n, Json.int n ∈ args → fitsStore n = true) : q.check args = .ok () := by
  rw [check, if_neg (by omega), if_neg]
  refine mt (any_beyondStore args).mp ?_
  rintro ⟨n, hn, hbeyond⟩
  simp [hfits n hn] at hbeyond

/-- The conditions of a query are not nested too deeply for the store. -/
def IsPrepared (q : PageQuery C) : Prop :=
  q.height ≤ Condition.maxHeight

instance (q : PageQuery C) : Decidable q.IsPrepared := inferInstanceAs (Decidable (_ ≤ _))

/-- An integer is refused only once the query is prepared. -/
theorem check_eq_overflow {args : List Json} :
    q.check args = .error .integerOverflow ↔
      q.IsPrepared ∧ ∃ n, Json.int n ∈ args ∧ fitsStore n = false := by
  rw [check, IsPrepared, ← any_beyondStore]
  split_ifs with hheight hfits
  · exact iff_of_false (by simp) fun h => absurd h.1 (not_le.mpr hheight)
  · exact iff_of_true rfl ⟨not_lt.mp hheight, hfits⟩
  · exact iff_of_false (by simp) fun h => hfits h.2

/-- What is read where a pattern is too long is nothing. -/
theorem read_eq_nil {β : Type} {args : List Json} {createAt : α → Int} {rows : List α} {f : α → β}
    {answer : List β}
    (h : (q.check args >>= fun _ => q.hits users values rows >>= fun found =>
      pure ((q.page createAt found).map f)) = .ok answer)
    {x : Condition C} (hx : x ∈ q.conditions)
    (hlong : ∀ a, x.meetsOverlong users (values a) = true) : answer = [] := by
  obtain ⟨-, -, h⟩ := bind_eq_ok.mp h
  obtain ⟨found, hfound, h⟩ := bind_eq_ok.mp h
  obtain rfl := hits_eq_nil hfound hx fun a _ => hlong a
  rw [← Except.ok.inj h, List.map_eq_nil_iff]
  exact List.eq_nil_iff_forall_not_mem.mpr fun a ha => List.not_mem_nil (mem_page ha)

/-- Matching rows refuses no integer, so a read does exactly when the check of its query does. -/
theorem read_eq_overflow {β : Type} {args : List Json} {rows : List α} {f : List α → β} :
    (q.check args >>= fun _ => q.hits users values rows >>= fun found => pure (f found)) =
        .error .integerOverflow ↔
      q.IsPrepared ∧ ∃ n, Json.int n ∈ args ∧ fitsStore n = false := by
  rw [← check_eq_overflow]
  cases hcheck : q.check args with
  | error e =>
    constructor
    · rintro ⟨⟩
      rfl
    · rintro ⟨⟩
      rfl
  | ok _ =>
    refine iff_of_false ?_ nofun
    rw [ok_bind, hits]
    split_ifs
    · exact nofun
    · exact nofun

/-- Without long patterns, the hits are the rows that satisfy every condition. -/
theorem hits_of_short (h : ∀ x ∈ q.conditions, ∀ t ∈ x.tests, Condition.isOverlong t = false)
    (rows : List α) :
    q.hits users values rows =
      .ok (rows.filter fun a => Condition.holdsAll users (values a) q.conditions) := by
  have hshort (row : C → Sql.Value) : Condition.allMeetOverlong users row q.inOrder = false := by
    refine Condition.allMeetOverlong_eq_false fun x hx => Condition.meetsOverlong_eq_false (h x ?_)
    exact (List.mem_append.mp hx).elim List.mem_of_mem_filter List.mem_of_mem_filter
  rw [hits, if_neg]
  simp [hshort]

/-- A page is a part of the rows, newest first. -/
theorem page_eq (hlimit : 0 ≤ q.limit) (createAt : α → Int) (rows : List α) :
    q.page createAt rows =
      ((newestFirst createAt rows).drop (q.offset.getD 0).toNat).take q.limit.toNat := by
  rw [page, if_neg (by omega)]
  rfl

/-- The store answers a query that it can check and match with a part of the hits, newest first. -/
theorem read_of_hits {β : Type} {args : List Json} {rows found : List α} (createAt : α → Int)
    (hprepared : q.IsPrepared) (hfits : ∀ n, Json.int n ∈ args → fitsStore n = true)
    (hhits : q.hits users values rows = .ok found) (hlimit : 0 ≤ q.limit) (f : α → β) :
    (q.check args >>= fun _ => q.hits users values rows >>= fun found =>
      pure ((q.page createAt found).map f)) =
      .ok ((((newestFirst createAt found).drop (q.offset.getD 0).toNat).take q.limit.toNat).map f) := by
  rw [check_ok hprepared hfits, ok_bind, hhits, ok_bind, page_eq hlimit]
  rfl

theorem filter_holdsAll {p : α → Prop} [DecidablePred p] {rows : List α}
    (hholds : ∀ a, Condition.holdsAll users (values a) q.conditions = true ↔ p a) :
    (rows.filter fun a => Condition.holdsAll users (values a) q.conditions) = rows.filter p := by
  apply List.filter_congr
  intro a _
  rw [Bool.eq_iff_iff, decide_eq_true_eq]
  exact hholds a

/-- The store answers a query inside its limits with a part of the rows that the query asks for, newest
first. -/
theorem read_ok {β : Type} {args : List Json} {createAt : α → Int} {p : α → Prop} [DecidablePred p]
    (hheight : q.height ≤ Condition.maxHeight)
    (hfits : ∀ n, Json.int n ∈ args → fitsStore n = true)
    (hshort : ∀ x ∈ q.conditions, ∀ t ∈ x.tests, Condition.isOverlong t = false)
    (hlimit : 0 ≤ q.limit)
    (hholds : ∀ a, Condition.holdsAll users (values a) q.conditions = true ↔ p a)
    (rows : List α) (f : α → β) :
    (q.check args >>= fun _ => q.hits users values rows >>= fun found =>
      pure ((q.page createAt found).map f)) =
      .ok ((((newestFirst createAt (rows.filter p)).drop (q.offset.getD 0).toNat).take
        q.limit.toNat).map f) := by
  rw [← filter_holdsAll hholds]
  exact read_of_hits createAt hheight hfits (hits_of_short hshort rows) hlimit f

/-- Once a query is answered, so is every other page of what it asks for. -/
theorem read_again {β : Type} {q' : PageQuery C} {args args' : List Json} {createAt : α → Int}
    {rows : List α} {f : α → β} {answer : List β} {p : α → Prop} [DecidablePred p]
    (hread : (q.check args >>= fun _ => q.hits users values rows >>= fun found =>
      pure ((q.page createAt found).map f)) = .ok answer)
    (hsame : q'.conditions = q.conditions)
    (hfits : ∀ n, Json.int n ∈ args' → fitsStore n = true) (hlimit : 0 ≤ q'.limit)
    (hholds : ∀ a, Condition.holdsAll users (values a) q.conditions = true ↔ p a) :
    (q'.check args' >>= fun _ => q'.hits users values rows >>= fun found =>
      pure ((q'.page createAt found).map f)) =
      .ok ((((newestFirst createAt (rows.filter p)).drop (q'.offset.getD 0).toNat).take
        q'.limit.toNat).map f) := by
  obtain ⟨⟨⟩, hcheck, hread⟩ := bind_eq_ok.mp hread
  obtain ⟨found, hfound, -⟩ := bind_eq_ok.mp hread
  have hprepared : q'.IsPrepared := by
    rw [IsPrepared, height, hsame]
    unfold check at hcheck
    split_ifs at hcheck with hheight
    exact not_lt.mp hheight
  have hhits : q'.hits users values rows = .ok found := by
    rw [← hfound, hits, hits, inOrder, inOrder, hsame]
  rw [← filter_holdsAll hholds, ← hits_ok hfound]
  exact read_of_hits createAt hprepared hfits hhits hlimit f

/-- Every row of an answer is made of a stored one that satisfies the conditions of the query. -/
theorem exists_of_mem_read {β : Type} {args : List Json} {createAt : α → Int} {rows : List α} {f : α → β}
    {answer : List β} {b : β}
    (h : (q.check args >>= fun _ => q.hits users values rows >>= fun found =>
      pure ((q.page createAt found).map f)) = .ok answer) (hb : b ∈ answer) :
    ∃ a ∈ rows, b = f a ∧ Condition.holdsAll users (values a) q.conditions = true := by
  obtain ⟨-, -, h⟩ := bind_eq_ok.mp h
  obtain ⟨found, hfound, h⟩ := bind_eq_ok.mp h
  rw [← Except.ok.inj h] at hb
  obtain ⟨a, ha, rfl⟩ := List.mem_map.mp hb
  have hmem := mem_page ha
  rw [hits_ok hfound] at hmem
  obtain ⟨hstored, hholds⟩ := List.mem_filter.mp hmem
  exact ⟨a, hstored, rfl, hholds⟩

end PageQuery

namespace Store

variable {s : Store} {ids : List Text}

/-- Every row that is read of posts in channels is that of a stored post in one of them. -/
theorem mem_readPosts {q : PostQuery} {rows : List PostRow}
    (h : s.readPosts (q.within .channelId ids) = .ok rows) {row : PostRow} (hrow : row ∈ rows) :
    ∃ p ∈ s.posts, row = s.postRow p ∧ p.channelId ∈ ids := by
  obtain ⟨p, hp, rfl, hholds⟩ := PageQuery.exists_of_mem_read h hrow
  have hchannel : p.values .channelId = .text p.channelId := rfl
  exact ⟨p, hp, rfl, ((PageQuery.holdsAll_within hchannel).mp hholds).2⟩

theorem mem_readFiles {q : FileQuery} {rows : List FileRow}
    (h : s.readFiles (q.within .channelId ids) = .ok rows) {row : FileRow} (hrow : row ∈ rows) :
    ∃ f ∈ s.files, row = f.row ∧ f.channelId ∈ ids := by
  obtain ⟨f, hf, rfl, hholds⟩ := PageQuery.exists_of_mem_read h hrow
  have hchannel : f.values .channelId = .text f.channelId := rfl
  exact ⟨f, hf, rfl, ((PageQuery.holdsAll_within hchannel).mp hholds).2⟩

end Store

end ChannelSearch
