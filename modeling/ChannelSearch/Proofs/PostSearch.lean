import ChannelSearch.Proofs.BuiltQueries
import ChannelSearch.Proofs.VisibleChannels

/-!
What a search of posts returns. Main statement: inside the limits, one page of the stored posts that
the search asks for, newest first, and the empty page where it asks for nothing.
-/

namespace ChannelSearch

open Condition (maxHeight)

variable {scope s : Store} {lookup : Lookup} {c : SearchContext} {first : SearchRequest}
  {rest : List SearchRequest}

/-- The stored posts that a search asks for, in the channels that it reads. -/
def Store.foundPosts (s : Store) (lookup : Lookup) (c : SearchContext) (first : SearchRequest)
    (rest : List SearchRequest) : List Post :=
  s.posts.filter fun p => p.IsWanted s c lookup.usersByUsername first rest ∧
    s.Sees c.userId c.teamId first lookup.channelsByName p.channelId

/-- A store answers which channels a search reads. -/
theorem visibleChannels_reader (s : Store) (user team : Text) (r : SearchRequest) (byName : Bool) :
    (visibleChannels s.reader (ScopeQuery.build user team r byName)).result =
      .ok (s.channelIds (ScopeQuery.build user team r byName)) := by
  have hstatement := (ScopeQuery.statement_build user team r byName).1
  unfold visibleChannels
  rw [hstatement]
  rfl

namespace PostQuery

variable {byUsername : Bool} {ids : List Text}

/-- The query of a search within the channels that it reads. -/
def wantedWithin (c : SearchContext) (byUsername : Bool) (first : SearchRequest)
    (rest : List SearchRequest) (ids : List Text) : PostQuery :=
  (wanted c byUsername first rest).within .channelId ids

theorem conditions_wantedWithin :
    (wantedWithin c byUsername first rest ids).conditions =
      wantedConditions c byUsername first rest ++ [.test (.oneOfJson .channelId ids)] := rfl

theorem bindable_wantedWithin (h : first.DatesFit c.now) :
    ∀ x ∈ (wantedWithin c byUsername first rest ids).conditions,
      (x.clause PostColumn.name).Bindable := by
  have hdates : ∀ x ∈ (first.dateTests c.now PostColumn.createAt).map Condition.test,
      (x.clause PostColumn.name).Bindable := by
    rw [List.forall_mem_map]
    intro t ht
    exact Condition.test_bindable not_mem_name (h.dateConditions_ok.2 t ht)
  exact PageQuery.bindable_within not_mem_name (forall_ofDates (fun _ hw => hw) hdates)

theorem isOverlong_wantedWithin (h : c.InPostLimits first rest) :
    ∀ x ∈ (wantedWithin c byUsername first rest ids).conditions,
      ∀ t ∈ x.tests, Condition.isOverlong t = false := by
  rw [conditions_wantedWithin]
  refine List.forall_mem_append.mpr ⟨isOverlong_wantedConditions h, List.forall_mem_singleton.mpr ?_⟩
  rw [Condition.tests]
  exact List.forall_mem_singleton.mpr rfl

theorem height_wantedWithin (h : ∀ x ∈ textCondition? (first :: rest) first.orTerms,
    x.height + 8 ≤ maxHeight) :
    (wantedWithin c byUsername first rest ids).height ≤ maxHeight := by
  have hchannel : Condition.Spans [.test (.oneOfJson PostColumn.channelId ids)] 1 3 :=
    Condition.spans_test (le_refl 3)
  have hheight : Condition.chainHeight (Condition.heights
      (wantedWithin c byUsername first rest ids).conditions) ≤ maxHeight - 6 :=
    ((spans_wantedConditions h).append hchannel).height_le
  have hnesting : Condition.nestingOfAll (wantedWithin c byUsername first rest ids).conditions ≤ 6 := by
    rw [Condition.nestingOfAll_le, conditions_wantedWithin]
    exact List.forall_mem_append.mpr
      ⟨nesting_wantedConditions, List.forall_mem_singleton.mpr (by decide : 1 ≤ 6)⟩
  exact Nat.add_le_add hheight hnesting

theorem holds_wantedWithin {p : Post} :
    Condition.holdsAll s.userIds p.values (wantedWithin c byUsername first rest ids).conditions = true ↔
      p.IsWanted s c byUsername first rest ∧ p.channelId ∈ ids := by
  have hchannel : p.values .channelId = .text p.channelId := rfl
  rw [wantedWithin, PageQuery.holdsAll_within hchannel, Condition.holdsAll_eq, List.all_eq_true]
  exact and_congr_left' holds_wantedConditions

/-- Its limit and its offset fit the store. -/
theorem bindable_select_wantedWithin (hdates : first.DatesFit c.now)
    (hoffset : c.pageNumber * c.limit < 2 ^ 63) :
    (select (wantedWithin c byUsername first rest ids)).clause.Bindable :=
  bindable_select (bindable_wantedWithin hdates) c.fitsStore_limit
    (SearchContext.fitsStore_pageOffset hoffset)

end PostQuery

/-- The store refuses no integer of a search whose page it can hold. -/
theorem Store.readPosts_ne_overflow (hdates : first.DatesFit c.now)
    (hoffset : c.pageNumber * c.limit < 2 ^ 63) {byUsername : Bool} {ids : List Text} :
    s.readPosts (PostQuery.wantedWithin c byUsername first rest ids) ≠ .error .integerOverflow := by
  intro hread
  obtain ⟨-, n, hn, hunfit⟩ := PageQuery.read_eq_overflow.mp hread
  have hfits := (PostQuery.bindable_select_wantedWithin hdates hoffset).fits n hn
  exact Bool.false_ne_true (hunfit.symm.trans hfits)

/-- The store answers the query of a search with a page of the posts that the search asks for. -/
theorem Store.readPosts_wantedWithin (h : c.InPostLimits first rest) (byUsername : Bool)
    (ids : List Text) :
    s.readPosts (PostQuery.wantedWithin c byUsername first rest ids) =
      .ok ((((newestFirst Post.createAt (s.posts.filter fun p =>
          p.IsWanted s c byUsername first rest ∧ p.channelId ∈ ids)).drop
            (c.pageNumber * c.limit).toNat).take c.limit.toNat).map s.postRow) := by
  rw [← c.getD_pageOffset]
  exact PageQuery.read_ok (PostQuery.height_wantedWithin h.height)
    (PostQuery.bindable_select_wantedWithin h.dates h.offset).fits (PostQuery.isOverlong_wantedWithin h)
    c.limit_bounds.1.le (fun _ => PostQuery.holds_wantedWithin) s.posts s.postRow

/-- The query of a search is sent, and its answer is the page. -/
theorem readPosts_wantedWithin (h : c.InPostLimits first rest) {byUsername : Bool} {ids : List Text}
    {rows : List PostRow}
    (hread : s.readPosts (PostQuery.wantedWithin c byUsername first rest ids) = .ok rows) :
    (readPosts (Store.readerOf scope s) c
        (PostQuery.wantedWithin c byUsername first rest ids)).result =
      .ok (c.pageOf (rows.filter (·.deleteAt = 0))) := by
  have hconditions : ∀ x ∈ (PostQuery.wantedWithin c byUsername first rest ids).conditions,
      (x.clause PostColumn.name).Balanced :=
    fun x hx => (PostQuery.bindable_wantedWithin h.dates x hx).balanced
  have hstatement := (PostQuery.statement_select hconditions).1
  have hanswer : (Store.readerOf scope s).posts
      (PostQuery.wantedWithin c byUsername first rest ids) = .ok rows := hread
  rw [readPosts_eq, hanswer]
  exact readPage_of_ok hstatement h.uncancelled

/-- Inside its limits, a search that asks for something finds the posts that it asks for. The channels
may be read of another store. -/
theorem searchPosts_readerOf (h : c.InPostLimits first rest)
    (hask : ¬ ((Tokens.sought (MergedText.ofRequests (first :: rest))).AskNothing ∧
      first.hasFilters = false)) :
    (searchPosts (Store.readerOf scope s) lookup c (first :: rest)).result =
      .ok (c.pageOf ((((newestFirst Post.createAt (s.posts.filter fun p =>
          p.IsWanted s c lookup.usersByUsername first rest ∧
            scope.Sees c.userId c.teamId first lookup.channelsByName p.channelId)).drop
        (c.pageNumber * c.limit).toNat).take c.limit.toNat).map s.postRow)) := by
  have hrequests : ¬ (first :: rest).all (·.isEmpty) = true := by
    intro hempty
    refine hask ⟨PostQuery.askNothing_of_isEmpty hempty, ?_⟩
    have hfirst := List.all_eq_true.mp hempty first List.mem_cons_self
    simp only [SearchRequest.isEmpty, Bool.not_or, Bool.and_eq_true, Bool.not_eq_true'] at hfirst
    exact hfirst.2
  have hbuild := PostQuery.build?_ok h.dates lookup.usersByUsername rest
  rw [PostQuery.wanted?, if_neg hask] at hbuild
  generalize hids : scope.channelIds
    (ScopeQuery.build c.userId c.teamId first lookup.channelsByName) = ids
  have hvisible : (visibleChannels (Store.readerOf scope s)
      (ScopeQuery.build c.userId c.teamId first lookup.channelsByName)).result = .ok ids :=
    hids ▸ visibleChannels_reader scope c.userId c.teamId first lookup.channelsByName
  have hfound : (s.posts.filter fun p => p.IsWanted s c lookup.usersByUsername first rest ∧
      scope.Sees c.userId c.teamId first lookup.channelsByName p.channelId) =
      s.posts.filter fun p => p.IsWanted s c lookup.usersByUsername first rest ∧ p.channelId ∈ ids :=
    hids ▸ Store.filter_sees Post.channelId s.posts
  rw [searchPosts_cons, if_neg hrequests, scopedSearch_of_some hbuild h.uncancelled hvisible, hfound]
  split_ifs with hnone
  · obtain rfl := List.isEmpty_iff.mp hnone
    simp [SearchContext.emptyPage]
  · have hlive {m n : Nat} (row : PostRow) (hrow : row ∈ (((newestFirst Post.createAt
        (s.posts.filter fun p => p.IsWanted s c lookup.usersByUsername first rest ∧
          p.channelId ∈ ids)).drop m).take n).map s.postRow) : decide (row.deleteAt = 0) = true := by
      obtain ⟨p, hp, rfl⟩ := exists_of_mem_part hrow
      exact decide_eq_true (of_decide_eq_true (List.mem_filter.mp hp).2).1.live
    have hread := Store.readPosts_wantedWithin (s := s) h lookup.usersByUsername ids
    exact (readPosts_wantedWithin h hread).trans (by rw [List.filter_eq_self.mpr hlive])

theorem searchPosts_found (h : c.InPostLimits first rest)
    (hask : ¬ ((Tokens.sought (MergedText.ofRequests (first :: rest))).AskNothing ∧
      first.hasFilters = false)) :
    (searchPosts s.reader lookup c (first :: rest)).result =
      .ok (c.pageOf ((((newestFirst Post.createAt (s.foundPosts lookup c first rest)).drop
        (c.pageNumber * c.limit).toNat).take c.limit.toNat).map s.postRow)) :=
  searchPosts_readerOf h hask

/-- The pages of a search, as far as the store can count, are the parts of these posts, newest first.
Posts of one time come in any order. -/
def Store.ShowsPosts (s : Store) (lookup : Lookup) (c : SearchContext) (requests : List SearchRequest)
    (posts : List Post) : Prop :=
  ∃ sorted : List Post, sorted.Perm posts ∧ sorted.Pairwise (fun a b => b.createAt ≤ a.createAt) ∧
    ∀ page : Int, max page 0 * c.limit < 2 ^ 63 →
      (searchPosts s.reader lookup { c with page } requests).result =
        .ok { rows := ((sorted.drop (max page 0 * c.limit).toNat).take c.limit.toNat).map s.postRow
              page := max page 0
              perPage := c.limit }

/-- The page that is asked for does not change what a search finds. -/
theorem Store.foundPosts_page (page perPage : Int) :
    s.foundPosts lookup { c with page, perPage } first rest = s.foundPosts lookup c first rest := by
  apply List.filter_congr
  intro p _
  rw [decide_eq_decide, Post.isWanted_iff, Post.isWanted_iff]

/-- Inside its limits, a search that asks for something shows the posts that it asks for. -/
theorem showsPosts_found (h : { c with page := 0 }.InPostLimits first rest)
    (hask : ¬ ((Tokens.sought (MergedText.ofRequests (first :: rest))).AskNothing ∧
      first.hasFilters = false)) :
    s.ShowsPosts lookup c (first :: rest) (s.foundPosts lookup c first rest) := by
  refine ⟨newestFirst Post.createAt (s.foundPosts lookup c first rest), newestFirst_perm _ _,
    pairwise_newestFirst _ _, fun page hpage => ?_⟩
  have hlimits : { c with page }.InPostLimits first rest :=
    ⟨h.uncancelled, hpage, h.dates, h.height, h.patterns⟩
  rw [← Store.foundPosts_page page c.perPage]
  exact searchPosts_found hlimits hask

/-- A single post makes the first page. -/
theorem Store.ShowsPosts.single {requests : List SearchRequest} {p : Post}
    (h : s.ShowsPosts lookup c requests [p]) :
    (searchPosts s.reader lookup { c with page := 0 } requests).result =
      .ok { rows := [s.postRow p], page := 0, perPage := c.limit } := by
  obtain ⟨sorted, hperm, -, hpages⟩ := h
  obtain rfl := List.perm_singleton.mp hperm
  have hlimit : 1 ≤ c.limit.toNat := by
    have hbounds := c.limit_bounds
    omega
  have hpage := hpages 0 (by simp)
  rwa [max_self, zero_mul, Int.toNat_zero, List.drop_zero, List.take_of_length_le hlimit] at hpage

/-- Inside its limits, a search returns the empty page where its texts ask for nothing and it has no
filter, and else one page of the posts that it asks for, newest first. -/
theorem searchPosts_page (h : c.InLimits first rest) :
    if (Tokens.sought (MergedText.ofRequests (first :: rest))).AskNothing ∧ first.hasFilters = false
    then (searchPosts s.reader lookup c (first :: rest)).result = .ok c.emptyPage
    else ∃ sorted : List Post, sorted.Perm (s.foundPosts lookup c first rest) ∧
      sorted.Pairwise (fun a b => b.createAt ≤ a.createAt) ∧
        (searchPosts s.reader lookup c (first :: rest)).result =
          .ok (c.pageOf (((sorted.drop (c.pageNumber * c.limit).toNat).take c.limit.toNat).map
            s.postRow)) := by
  split
  · next hask =>
    have hbuild := PostQuery.build?_ok h.dates.datesFit lookup.usersByUsername rest
    rw [PostQuery.wanted?, if_pos hask] at hbuild
    rw [searchPosts_cons]
    split_ifs
    · rfl
    · exact scopedSearch_of_none hbuild
  · next hask =>
    exact ⟨_, newestFirst_perm _ _, pairwise_newestFirst _ _, searchPosts_found h.inPostLimits hask⟩

/-- A word, a word to leave out, an author by name and a date, asked by a member of one channel. -/
theorem searchPosts_page_deploy :
    let c : SearchContext := { userId := "u1".toList, teamId := "T1".toList, now := 0 }
    let lookup : Lookup := { usersByUsername := true }
    let first : SearchRequest :=
      { terms := "Deploy".toList, excludedTerms := "succeeded".toList, fromUsers := ["@Alice".toList]
        onDate := "1970-01-01".toList }
    c.InLimits first [] ∧
      (searchPosts sampleStore.reader lookup c [first]).result.map
        (fun page => page.rows.map PostRow.id) = .ok ["p1".toList] := by
  intro c lookup first
  have hlimits : c.InLimits first [] := by decide +kernel
  have hask : ¬ ((Tokens.sought (MergedText.ofRequests [first])).AskNothing ∧
    first.hasFilters = false) := by decide +kernel
  have hfound : (sampleStore.foundPosts lookup c first []).map Post.id = ["p1".toList] := by
    decide +kernel
  have hpage := @searchPosts_page sampleStore lookup c first [] hlimits
  rw [if_neg hask] at hpage
  obtain ⟨sorted, hperm, -, hresult⟩ := hpage
  have hids : sorted.map Post.id = ["p1".toList] :=
    List.perm_singleton.mp (hfound ▸ hperm.map Post.id)
  have hrow : PostRow.id ∘ sampleStore.postRow = Post.id := rfl
  refine ⟨hlimits, ?_⟩
  rw [hresult]
  show Except.ok ((((sorted.drop 0).take 60).map sampleStore.postRow).map PostRow.id) = _
  rw [List.map_map, hrow, List.map_take, List.map_drop, hids]
  rfl

/-- A post of someone who is no user is found where no author is asked for, and nothing is found on the
last day of the calendar, which has no end. -/
theorem unknown_author_found_and_last_day_refused :
    let p : Post :=
      { id := "p1".toList, channelId := "C1".toList, userId := "ghost".toList
        message := "deploy".toList, createAt := 1000 }
    let s : Store := { sampleStore with posts := [p] }
    let c : SearchContext := { userId := "u1".toList, teamId := [], now := 0 }
    let first : SearchRequest := { terms := "deploy".toList }
    c.InLimits first [] ∧ (∀ u ∈ s.users, u.id ≠ p.userId) ∧
      (searchPosts s.reader {} c [first]).result = .ok (c.pageOf [s.postRow p]) ∧
      (searchPosts s.reader {} c [{ first with onDate := "9999-12-31".toList }]).result =
        .error (.date .outOfRange) := by
  decide +kernel

end ChannelSearch
