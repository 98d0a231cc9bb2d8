import ChannelSearch.Proofs.FileSearch
import ChannelSearch.Proofs.PostSearch

/-!
The pages of a search, one after another. Main statement: unless the search fails, they list all that it
asks for, newest first, in the same order whatever their size.
-/

namespace ChannelSearch

section Parts

variable {α β : Type} {listed : List α} {size : Nat}

/-- Pages of one size that make up a list: none is longer, all before the last are full, and the store
can count up to the last. -/
structure MakesUp (listed : List α) (size : Nat) (pages : Nat → List α) : Prop where
  length_le : ∀ n, (pages n).length ≤ size
  full : ∀ m n, m < n → pages n ≠ [] → (pages m).length = size
  flatMap_range : ∀ n, (List.range n).flatMap pages = listed.take (n * size)
  exhausted : listed.length ≤ 2 ^ 63 → ∃ count, (∀ n < count, n * size < 2 ^ 63) ∧
    (List.range count).flatMap pages = listed ∧ ∀ n, count ≤ n → pages n = []

/-- A part of a list, counted from zero. -/
def part (size : Nat) (listed : List α) (n : Nat) : List α := (listed.drop (n * size)).take size

theorem part_eq_nil (listed : List α) (h : 0 < size) {n : Nat} :
    part size listed n = [] ↔ listed.length ≤ n * size := by
  unfold part
  rw [List.take_eq_nil_iff, List.drop_eq_nil_iff]
  omega

theorem flatMap_part (listed : List α) (size n : Nat) :
    (List.range n).flatMap (part size listed) = listed.take (n * size) := by
  induction n with
  | zero => simp
  | succ n ih =>
    rw [List.range_succ, List.flatMap_append, ih, List.flatMap_singleton, Nat.succ_mul, List.take_add]
    rfl

theorem makesUp_part (listed : List α) (h : 0 < size) : MakesUp listed size (part size listed) := by
  refine ⟨fun n => List.length_take_le _ _, fun m n hmn hne => ?_, flatMap_part listed size,
    fun hlength => ?_⟩
  · have hstart : n * size < listed.length := not_le.mp (mt (part_eq_nil listed h).mpr hne)
    have hnext : (m + 1) * size ≤ n * size := Nat.mul_le_mul_right size hmn
    rw [Nat.add_one_mul] at hnext
    rw [part, List.length_take, List.length_drop]
    omega
  · have hbefore (n : Nat) : n < (listed.length + size - 1) / size ↔ n * size < listed.length := by
      rw [Nat.lt_iff_add_one_le, Nat.le_div_iff_mul_le h, Nat.add_one_mul]
      omega
    have hafter (n : Nat) (hn : (listed.length + size - 1) / size ≤ n) : listed.length ≤ n * size :=
      not_lt.mp (mt (hbefore n).mpr (not_lt.mpr hn))
    refine ⟨(listed.length + size - 1) / size, fun n hn => ?_, ?_, fun n hn => ?_⟩
    · exact ((hbefore n).mp hn).trans_le hlength
    · rw [flatMap_part, List.take_of_length_le (hafter _ le_rfl)]
    · exact (part_eq_nil listed h).mpr (hafter n hn)

/-- A search lists some rows page by page: the pages of every size, as far as the store can count, make
up one list of them, newest first. -/
def ListsInPages (search : Int → Int → Except SearchError (Page α)) (createAt : α → Int)
    (rows : List α) : Prop :=
  ∃ listed : List α, listed.Perm rows ∧ listed.Pairwise (fun a b => createAt b < createAt a) ∧
    ∀ perPage : Int, ∃ pages : Nat → List α, MakesUp listed (clampPerPage perPage).toNat pages ∧
      ∀ n : Nat, n * clampPerPage perPage < 2 ^ 63 →
        search n perPage = .ok { rows := pages n, page := n, perPage := clampPerPage perPage }

/-- Rows of different times are strictly in order. -/
theorem pairwise_lt_newestFirst {createAt : α → Int} {rows : List α}
    (h : (rows.map createAt).Nodup) :
    (newestFirst createAt rows).Pairwise fun a b => createAt b < createAt a := by
  have hnodup : ((newestFirst createAt rows).map createAt).Nodup :=
    ((newestFirst_perm createAt rows).map createAt).nodup_iff.mpr h
  have hne : (newestFirst createAt rows).Pairwise fun a b => createAt a ≠ createAt b :=
    List.pairwise_map.mp hnodup
  refine ((pairwise_newestFirst createAt rows).and hne).imp ?_
  intro a b hab
  omega

theorem listsInPages_of_sorted {search : Int → Int → Except SearchError (Page β)}
    {createAt : α → Int} {rowAt : β → Int} {row : α → β} (hrow : ∀ a, rowAt (row a) = createAt a)
    {found : List α} (hnodup : (found.map createAt).Nodup)
    (hpages : ∀ page perPage : Int, max page 0 * clampPerPage perPage < 2 ^ 63 →
      search page perPage = .ok
        { rows := (((newestFirst createAt found).drop (max page 0 * clampPerPage perPage).toNat).take
            (clampPerPage perPage).toNat).map row
          page := max page 0
          perPage := clampPerPage perPage }) :
    ListsInPages search rowAt (found.map row) := by
  have hsorted : ((newestFirst createAt found).map row).Pairwise fun a b => rowAt b < rowAt a := by
    simp only [List.pairwise_map, hrow]
    exact pairwise_lt_newestFirst hnodup
  refine ⟨(newestFirst createAt found).map row, (newestFirst_perm createAt found).map row, hsorted,
    fun perPage => ?_⟩
  have hbounds := SearchContext.limit_bounds { userId := [], teamId := [], perPage, now := 0 }
  have hsize : 0 < clampPerPage perPage := hbounds.1
  refine ⟨_, makesUp_part _ (by omega : 0 < (clampPerPage perPage).toNat), fun n hn => ?_⟩
  have hmax : max (n : Int) 0 = n := max_eq_left (Int.natCast_nonneg n)
  have hstart : (n * clampPerPage perPage).toNat = n * (clampPerPage perPage).toNat := by
    rw [Int.toNat_mul (Int.natCast_nonneg n) hsize.le, Int.toNat_natCast]
  rw [hpages n perPage (by rwa [hmax]), hmax, hstart, part, ← List.map_drop, ← List.map_take]

end Parts

/-- A search succeeds when it returns a page and the store fails on the way in none of its reads: it has
nothing to log, but for dates that it cannot read. -/
@[mk_iff succeeds_iff]
structure Traced.Succeeds {α : Type} (run : Traced SearchError (Page α)) : Prop where
  returns : run.result.isOk = true
  logs : ∀ l ∈ run.logs, l.source = .dates

instance {α : Type} (run : Traced SearchError (Page α)) : Decidable run.Succeeds :=
  decidable_of_iff' _ (Traced.succeeds_iff run)

section Outcomes

open Sql

variable {α C : Type} {reader : Reader} {lookup : Lookup} {c c' : SearchContext} {deleteAt : α → Int}
  {scope : Statement} {ids : List Text} {main main' : List Text → Read × Statement}
  {answer answer' : List Text → Except ReadError (List α)}

theorem exists_of_isOk {ε α : Type} {x : Except ε α} (h : x.isOk = true) : ∃ a, x = .ok a := by
  cases x with
  | ok a => exact ⟨a, rfl⟩
  | error e => cases h

/-- A search that returns a page was cancelled in time for no read, unless it came to none. -/
theorem cancellation_of_outcome {page : Page α}
    (h : (outcome c deleteAt scope (.ok ids) main answer).2 = .ok page) :
    c.cancellation = .never ∨ c.cancellation = .duringScope ∧ ids = [] := by
  unfold outcome at h
  cases hcancel : c.cancellation with
  | never => exact Or.inl rfl
  | before =>
    rw [hcancel] at h
    cases h
  | duringScope =>
    rw [hcancel] at h
    cases ids with
    | nil => exact Or.inr ⟨rfl, rfl⟩
    | cons id ids => cases h

/-- Where one page is returned, so is every other that the store answers. -/
theorem outcome_again {rows : List α} (hcancel : c'.cancellation = c.cancellation) {page : Page α}
    (h : (outcome c deleteAt scope (.ok ids) main answer).2 = .ok page)
    (hnone : ids = [] → rows = [])
    (hanswer : c.cancellation = .never → ids ≠ [] → answer' ids = .ok rows)
    (hlive : ∀ row ∈ rows, deleteAt row = 0) :
    (outcome c' deleteAt scope (.ok ids) main' answer').2 = .ok (c'.pageOf rows) := by
  rcases cancellation_of_outcome h with hnever | ⟨hduring, rfl⟩
  · rw [outcome_of_never (hcancel.trans hnever)]
    split_ifs with hids
    · rw [hnone hids]
      rfl
    · have hfilter : rows.filter (deleteAt · = 0) = rows :=
        List.filter_eq_self.mpr fun row hrow => decide_eq_true (hlive row hrow)
      rw [hanswer hnever hids]
      exact congrArg (fun rows => Except.ok (c'.pageOf rows)) hfilter
  · rw [hnone rfl, outcome, hcancel, hduring]
    rfl

/-- The answer that a page was made of, where it is not the empty page of a failure. -/
theorem answer_of_outcome {page : Page α}
    (h : (outcome c deleteAt scope (.ok ids) main answer).2 = .ok page)
    (hnever : c.cancellation = .never) (hids : ids ≠ [])
    (hstore : ∀ message, answer ids ≠ .error (.store message)) : ∃ rows, answer ids = .ok rows := by
  rw [outcome_of_never hnever, if_neg hids] at h
  match hanswer : answer ids with
  | .ok rows => exact ⟨rows, rfl⟩
  | .error (.store message) => exact absurd hanswer (hstore message)
  | .error .integerOverflow =>
    rw [hanswer] at h
    cases h

/-- A failure of the store to answer a query is logged. -/
theorem exists_log_of_failure {first : SearchRequest} {column : C} {q : PageQuery C}
    {build : Traced SearchError (Option (PageQuery C))} {select : PageQuery C → Select} {read : Read}
    {source : LogSource} {failure : String} {s : Statement} {t : List Text → Statement}
    {answer : PageQuery C → Except ReadError (List α)} {message : Text}
    (hbuild : build.result = .ok (some q))
    (hs : (ScopeQuery.build c.userId c.teamId first lookup.channelsByName).select.statement = .ok s)
    (ht : ∀ ids, (select (q.within column ids)).statement = .ok (t ids))
    (hnever : c.cancellation = .never)
    (hchannels : reader.channels
      (ScopeQuery.build c.userId c.teamId first lookup.channelsByName) = .ok ids)
    (hids : ids ≠ []) (hanswer : answer (q.within column ids) = .error (.store message)) :
    ∃ l ∈ (scopedSearch reader lookup c first column build fun q =>
      readPage c (select q) read source failure deleteAt (answer q)).logs, l.source = source := by
  have hcheck (point : Checkpoint) : c.check point = pure () := by
    unfold SearchContext.check
    rw [hnever]
    rfl
  have hvisible := (visibleChannels_outcome reader hs).2
  rw [hchannels] at hvisible
  have hread : (readPage c (select (q.within column ids)) read source failure deleteAt
      (answer (q.within column ids))).logs =
        [⟨.warning, source, failure.toList ++ message.logLine⟩] := by
    unfold readPage
    rw [ht, hcheck, hanswer]
    rfl
  have hne : ¬ ids.isEmpty = true := by simpa using hids
  refine ⟨⟨.warning, source, failure.toList ++ message.logLine⟩, ?_, rfl⟩
  unfold scopedSearch
  rw [Traced.logs_bind_of_ok hbuild]
  apply List.mem_append_right
  dsimp only
  rw [hcheck, pure_bind, Traced.logs_bind_of_ok hvisible, if_neg hne, hread]
  exact List.mem_append_right _ List.mem_cons_self

/-- Once a search of some kind succeeds, it returns every other page that is answered in the same way. -/
theorem scopedSearch_again {first : SearchRequest} {column : C} {q q' : PageQuery C}
    {build build' : Traced SearchError (Option (PageQuery C))} {select : PageQuery C → Select}
    {read : Read} {source : LogSource} {failure : String} {answer : PageQuery C → Except ReadError (List α)}
    {t t' : List Text → Statement} {rows : List α} {page perPage : Int}
    (h : (scopedSearch reader lookup c first column build fun q =>
      readPage c (select q) read source failure deleteAt (answer q)).Succeeds)
    (hsource : source ≠ .dates) (hreads : build.reads = []) (hreads' : build'.reads = [])
    (hbuild : build.result = .ok (some q)) (hbuild' : build'.result = .ok (some q'))
    (hs : (ScopeQuery.build c.userId c.teamId first lookup.channelsByName).select.statement =
      .ok scope)
    (ht : ∀ ids, (select (q.within column ids)).statement = .ok (t ids))
    (ht' : ∀ ids, (select (q'.within column ids)).statement = .ok (t' ids))
    (hchannels : reader.channels
      (ScopeQuery.build c.userId c.teamId first lookup.channelsByName) = .ok ids)
    (hnone : ids = [] → rows = [])
    (hanswer : ∀ found, answer (q.within column ids) = .ok found →
      answer (q'.within column ids) = .ok rows)
    (hlive : ∀ row ∈ rows, deleteAt row = 0) :
    (scopedSearch reader lookup { c with page, perPage } first column build' fun q =>
      readPage { c with page, perPage } (select q) read source failure deleteAt (answer q)).result =
        .ok ({ c with page, perPage : SearchContext }.pageOf rows) := by
  obtain ⟨shown, hshown⟩ := exists_of_isOk h.returns
  have hresult : (scopedSearch reader lookup c first column build fun q =>
      readPage c (select q) read source failure deleteAt (answer q)).result = _ :=
    congrArg Prod.snd (scopedSearch_outcome hreads hbuild hs ht)
  have hresult' : (scopedSearch reader lookup { c with page, perPage } first column build' fun q =>
      readPage { c with page, perPage } (select q) read source failure deleteAt (answer q)).result = _ :=
    congrArg Prod.snd
      (scopedSearch_outcome (c := { c with page, perPage }) hreads' hbuild' hs ht')
  rw [hchannels] at hresult hresult'
  have houtcome := hresult.symm.trans hshown
  refine hresult'.trans (outcome_again (c := c) rfl houtcome hnone (fun hnever hids => ?_) hlive)
  obtain ⟨found, hfound⟩ := answer_of_outcome houtcome hnever hids fun message hfailure => by
    obtain ⟨l, hl, hlogged⟩ := exists_log_of_failure hbuild hs ht hnever hchannels hids hfailure
    exact hsource (hlogged.symm.trans (h.logs l hl))
  exact hanswer found hfound

end Outcomes

variable {s : Store} {lookup : Lookup} {c : SearchContext} {requests : List SearchRequest}

namespace Store

/-- The stored posts that the pages of a search are to list: none where it asks for nothing. -/
def matchingPosts (s : Store) (lookup : Lookup) (c : SearchContext) (requests : List SearchRequest) :
    List Post :=
  if PostQuery.Asks requests then s.foundPosts lookup c (requests.headD {}) requests.tail else []

/-- The stored files that the pages of a search are to list. -/
def matchingFiles (s : Store) (lookup : Lookup) (c : SearchContext) (requests : List SearchRequest) :
    List FileInfo :=
  if FileQuery.Asks requests then s.foundFiles lookup c requests else []

end Store

/-- Once a page of what a search of posts asks for is answered, so are all others. -/
theorem Store.readPosts_part {byUsername : Bool} {first : SearchRequest} {rest : List SearchRequest}
    {ids : List Text} {rows : List PostRow}
    (hread : s.readPosts (PostQuery.wantedWithin c byUsername first rest ids) = .ok rows)
    (hdates : first.DatesFit c.now) {page perPage : Int}
    (hpage : max page 0 * clampPerPage perPage < 2 ^ 63) :
    s.readPosts (PostQuery.wantedWithin { c with page, perPage } byUsername first rest ids) =
      .ok ((((newestFirst Post.createAt (s.posts.filter fun p =>
          p.IsWanted s c byUsername first rest ∧ p.channelId ∈ ids)).drop
            (max page 0 * clampPerPage perPage).toNat).take (clampPerPage perPage).toNat).map
              s.postRow) := by
  let c' : SearchContext := { c with page, perPage }
  have hoffset : c'.pageNumber * c'.limit < 2 ^ 63 := hpage
  have hstart : (pageOffset c'.pageNumber c'.limit).getD 0 = max page 0 * clampPerPage perPage :=
    c'.getD_pageOffset
  rw [← hstart]
  exact PageQuery.read_again hread rfl
    (PostQuery.bindable_select_wantedWithin (c := c') hdates hoffset).fits c'.limit_bounds.1.le
    fun _ => PostQuery.holds_wantedWithin

/-- Once a search of posts succeeds, every page of it is a part of the posts that it asks for. -/
theorem searchPosts_part (h : (searchPosts s.reader lookup c requests).Succeeds) (page perPage : Int)
    (hpage : max page 0 * clampPerPage perPage < 2 ^ 63) :
    (searchPosts s.reader lookup { c with page, perPage } requests).result = .ok
      { rows := (((newestFirst Post.createAt (s.matchingPosts lookup c requests)).drop
          (max page 0 * clampPerPage perPage).toNat).take (clampPerPage perPage).toNat).map s.postRow
        page := max page 0
        perPage := clampPerPage perPage } := by
  by_cases hask : PostQuery.Asks requests
  · cases requests with
    | nil => exact absurd hask (by decide)
    | cons first rest =>
      have hrequests := mt PostQuery.not_asks_of_isEmpty (not_not.mpr hask)
      rw [searchPosts_cons, if_neg hrequests, funext readPosts_eq] at h ⊢
      obtain ⟨shown, hshown⟩ := exists_of_isOk h.returns
      obtain ⟨q?, hmade, -⟩ := Traced.result_bind_eq_ok.mp hshown
      have hdates := PostQuery.datesFit_of_build? hmade
      have hbuild := PostQuery.build?_of_asks hdates hask lookup.usersByUsername
      have hbuild' := PostQuery.build?_of_asks (c := { c with page, perPage }) hdates hask
        lookup.usersByUsername
      rw [Store.matchingPosts, if_pos hask, Store.foundPosts, Store.filter_sees Post.channelId]
      refine scopedSearch_again h (by decide) (PostQuery.reads_build? _ _) (PostQuery.reads_build? _ _)
        hbuild hbuild' (ScopeQuery.statement_build _ _ _ _).1
        (fun ids => (PostQuery.statement_within hbuild ids).1)
        (fun ids => (PostQuery.statement_within hbuild' ids).1) rfl (fun hnone => ?_)
        (fun found hfound => Store.readPosts_part hfound hdates hpage) (fun row hrow => ?_)
      · rw [List.headD_cons, hnone]
        simp
      · obtain ⟨p, hp, rfl⟩ := exists_of_mem_part hrow
        exact (of_decide_eq_true (List.mem_filter.mp hp).2).1.live
  · rw [(searchPosts_of_not_asks hask).2, Store.matchingPosts, if_neg hask]
    simp [SearchContext.emptyPage, SearchContext.pageOf, SearchContext.pageNumber,
      SearchContext.limit]

theorem Store.readFiles_part {byUsername : Bool} {first : SearchRequest} {rest : List SearchRequest}
    {ids : List Text} {rows : List FileRow}
    (hread : s.readFiles (FileQuery.wantedWithin c byUsername first rest ids) = .ok rows)
    (hdates : first.DatesFit c.now) {page perPage : Int}
    (hpage : max page 0 * clampPerPage perPage < 2 ^ 63) :
    s.readFiles (FileQuery.wantedWithin { c with page, perPage } byUsername first rest ids) =
      .ok ((((newestFirst FileInfo.createAt (s.files.filter fun f =>
          f.IsWanted s c byUsername (first :: rest) ∧ f.channelId ∈ ids)).drop
            (max page 0 * clampPerPage perPage).toNat).take (clampPerPage perPage).toNat).map
              FileInfo.row) := by
  let c' : SearchContext := { c with page, perPage }
  have hoffset : c'.pageNumber * c'.limit < 2 ^ 63 := hpage
  have hstart : (pageOffset c'.pageNumber c'.limit).getD 0 = max page 0 * clampPerPage perPage :=
    c'.getD_pageOffset
  rw [← hstart]
  exact PageQuery.read_again hread rfl
    (FileQuery.bindable_select_wantedWithin (c := c') hdates hoffset).fits c'.limit_bounds.1.le
    fun _ => FileQuery.holds_wantedWithin

/-- Once a search of files succeeds, every page of it is a part of the files that it asks for. -/
theorem searchFiles_part (h : (searchFiles s.reader lookup c requests).Succeeds) (page perPage : Int)
    (hpage : max page 0 * clampPerPage perPage < 2 ^ 63) :
    (searchFiles s.reader lookup { c with page, perPage } requests).result = .ok
      { rows := (((newestFirst FileInfo.createAt (s.matchingFiles lookup c requests)).drop
          (max page 0 * clampPerPage perPage).toNat).take (clampPerPage perPage).toNat).map
            FileInfo.row
        page := max page 0
        perPage := clampPerPage perPage } := by
  by_cases hask : FileQuery.Asks requests
  · cases requests with
    | nil => exact absurd hask (by decide)
    | cons first rest =>
      have hrequests := mt FileQuery.not_asks_of_isEmpty (not_not.mpr hask)
      rw [searchFiles_cons, if_neg hrequests, funext readFiles_eq] at h ⊢
      obtain ⟨shown, hshown⟩ := exists_of_isOk h.returns
      obtain ⟨q?, hmade, -⟩ := Traced.result_bind_eq_ok.mp hshown
      have hdates := FileQuery.datesFit_of_build? hmade
      have hbuild := FileQuery.build?_of_asks hdates hask lookup.usersByUsername
      have hbuild' := FileQuery.build?_of_asks (c := { c with page, perPage }) hdates hask
        lookup.usersByUsername
      rw [Store.matchingFiles, if_pos hask, Store.foundFiles, Store.filter_sees FileInfo.channelId]
      refine scopedSearch_again h (by decide) (FileQuery.reads_build? _ _) (FileQuery.reads_build? _ _)
        hbuild hbuild' (ScopeQuery.statement_build _ _ _ _).1
        (fun ids => (FileQuery.statement_within hbuild ids).1)
        (fun ids => (FileQuery.statement_within hbuild' ids).1) rfl (fun hnone => ?_)
        (fun found hfound => Store.readFiles_part hfound hdates hpage) (fun row hrow => ?_)
      · rw [List.headD_cons, hnone]
        simp
      · obtain ⟨f, hf, rfl⟩ := exists_of_mem_part hrow
        exact (of_decide_eq_true (List.mem_filter.mp hf).2).1.live
  · rw [(searchFiles_of_not_asks hask).2, Store.matchingFiles, if_neg hask]
    simp [SearchContext.emptyPage, SearchContext.pageOf, SearchContext.pageNumber,
      SearchContext.limit]

/-- Unless a search fails, its pages list what it asks for, if no two posts of these, or two files, are
of one time: all pages before the last are full, none has more rows than it may, and one after another
they show each row once, newest first and in the same order whatever their size. -/
theorem searches_list_in_pages (s : Store) (lookup : Lookup) (c : SearchContext)
    (requests : List SearchRequest) :
    ((searchPosts s.reader lookup c requests).Succeeds →
      ((s.matchingPosts lookup c requests).map Post.createAt).Nodup →
        ListsInPages
          (fun page perPage => (searchPosts s.reader lookup { c with page, perPage } requests).result)
          PostRow.createAt ((s.matchingPosts lookup c requests).map s.postRow)) ∧
      ((searchFiles s.reader lookup c requests).Succeeds →
        ((s.matchingFiles lookup c requests).map FileInfo.createAt).Nodup →
          ListsInPages
            (fun page perPage => (searchFiles s.reader lookup { c with page, perPage } requests).result)
            FileRow.createAt ((s.matchingFiles lookup c requests).map FileInfo.row)) := by
  constructor
  · intro hsucceeds hnodup
    exact listsInPages_of_sorted (fun _ => rfl) hnodup (searchPosts_part hsucceeds)
  · intro hsucceeds hnodup
    exact listsInPages_of_sorted (fun _ => rfl) hnodup (searchFiles_part hsucceeds)

/-- The three posts that a member of both channels finds, and two of three files that the other member
finds. -/
theorem searches_list_in_pages_deploy :
    let file (id channel : String) (createAt : Int) : FileInfo :=
      { id := id.toList, channelId := channel.toList, creatorId := "u1".toList
        name := "deploy.txt".toList, extension := "txt".toList, createAt }
    let s : Store :=
      { sampleStore with files := [file "f1" "C1" 10, file "f2" "C2" 30, file "f3" "C1" 20] }
    let bob : SearchContext := { userId := "u2".toList, teamId := "T1".toList, now := 0 }
    let alice : SearchContext := { bob with userId := "u1".toList }
    let requests : List SearchRequest := [{ terms := "deploy".toList }]
    (s.matchingPosts {} bob requests).map Post.id = ["p1".toList, "p2".toList, "s1".toList] ∧
      ListsInPages
        (fun page perPage => (searchPosts s.reader {} { bob with page, perPage } requests).result)
        PostRow.createAt ((s.matchingPosts {} bob requests).map s.postRow) ∧
      (s.matchingFiles {} alice requests).map FileInfo.id = ["f1".toList, "f3".toList] ∧
      ListsInPages
        (fun page perPage => (searchFiles s.reader {} { alice with page, perPage } requests).result)
        FileRow.createAt ((s.matchingFiles {} alice requests).map FileInfo.row) := by
  intro file s bob alice requests
  refine ⟨by decide +kernel, ?_, by decide +kernel, ?_⟩
  · exact (searches_list_in_pages s {} bob requests).1 (by decide +kernel) (by decide +kernel)
  · exact (searches_list_in_pages s {} alice requests).2 (by decide +kernel) (by decide +kernel)

end ChannelSearch
