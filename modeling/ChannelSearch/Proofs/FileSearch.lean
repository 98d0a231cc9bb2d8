import ChannelSearch.Proofs.FileTexts
import ChannelSearch.Proofs.SearchFailures

/-!
What a search of files returns. Main statement: inside the limits, one page of the stored files that
the search asks for, newest first, and the empty page where it asks for nothing.
-/

namespace ChannelSearch

open Condition (maxHeight)

/-- What a search asks of a file, its channel aside. -/
@[mk_iff isWanted_iff]
structure FileInfo.IsWanted (f : FileInfo) (s : Store) (c : SearchContext) (byUsername : Bool)
    (requests : List SearchRequest) : Prop where
  live : f.deleteAt = 0
  author : (requests.headD {}).fromUsers ≠ [] ∨ (requests.headD {}).excludedUsers ≠ [] →
    ∃ u : User, u.IsWanted s c.teamId (requests.headD {}) byUsername ∧ u.id = f.creatorId
  dates : (requests.headD {}).InDates c.now f.createAt
  extension : (requests.headD {}).extensions ≠ [] →
    f.extension ∈ (requests.headD {}).extensions.map extensionKey
  text : (FileTexts.ofRequests requests).Match (requests.headD {}).orTerms f

instance (f : FileInfo) (s : Store) (c : SearchContext) (byUsername : Bool)
    (requests : List SearchRequest) : Decidable (f.IsWanted s c byUsername requests) :=
  have : Decidable (∃ u : User, u.IsWanted s c.teamId (requests.headD {}) byUsername ∧
      u.id = f.creatorId) :=
    decidable_of_iff
      (∃ u ∈ s.users, u.IsWanted s c.teamId (requests.headD {}) byUsername ∧ u.id = f.creatorId)
      ⟨fun ⟨u, _, h⟩ => ⟨u, h⟩, fun ⟨u, h⟩ => ⟨u, h.1.stored, h⟩⟩
  decidable_of_iff' _ (FileInfo.isWanted_iff ..)

/-- The search is not cancelled, its page and its dates are not out of range, and the condition on
files leaves room for the other conditions of the query and has no pattern that is too long. -/
@[mk_iff inFileLimits_iff]
structure SearchContext.InFileLimits (c : SearchContext) (requests : List SearchRequest) : Prop where
  uncancelled : c.cancellation = .never
  offset : c.pageNumber * c.limit < 2 ^ 63
  dates : (requests.headD {}).DatesFit c.now
  height : ∀ x ∈ FileQuery.textCondition? requests (requests.headD {}).orTerms,
    x.height + 8 ≤ maxHeight
  patterns : ∀ x ∈ FileQuery.textCondition? requests (requests.headD {}).orTerms,
    ∀ t ∈ x.tests, Condition.isOverlong t = false

instance (c : SearchContext) (requests : List SearchRequest) : Decidable (c.InFileLimits requests) :=
  decidable_of_iff' _ (SearchContext.inFileLimits_iff ..)

/-- The stored files that a search asks for, in the channels that it reads. -/
def Store.foundFiles (s : Store) (lookup : Lookup) (c : SearchContext)
    (requests : List SearchRequest) : List FileInfo :=
  s.files.filter fun f => f.IsWanted s c lookup.usersByUsername requests ∧
    s.Sees c.userId c.teamId (requests.headD {}) lookup.channelsByName f.channelId

variable {s : Store} {lookup : Lookup} {c : SearchContext} {first : SearchRequest}
  {rest : List SearchRequest} {byUsername : Bool} {ids : List Text}

namespace FileQuery

theorem conditions_wanted :
    (wanted c byUsername first rest).conditions =
      [.test (.isZero .deleteAt)] ++ userConditions .creatorId c.teamId first byUsername ++
        (first.dateTests c.now .createAt).map .test ++ extensionConditions first ++
          (textCondition? (first :: rest) first.orTerms).toList := rfl

theorem holds_extensionConditions {f : FileInfo} {users : UserQuery → List Text} :
    (∀ x ∈ extensionConditions first, x.holds users f.values = true) ↔
      (first.extensions ≠ [] → f.extension ∈ first.extensions.map extensionKey) := by
  have hextension : f.values .extension = .text f.extension := rfl
  unfold extensionConditions
  split_ifs with hnone
  · simp [List.isEmpty_iff.mp hnone]
  · have hsome : first.extensions ≠ [] := by simpa using hnone
    rw [List.forall_mem_singleton, Condition.holds_test, Sql.Test.holds_oneOf hextension]
    exact ⟨fun h _ => h, fun h => h hsome⟩

/-- The conditions of a search on a file, its channel aside. -/
theorem holds_wanted {f : FileInfo} :
    (∀ x ∈ (wanted c byUsername first rest).conditions, x.holds s.userIds f.values = true) ↔
      f.IsWanted s c byUsername (first :: rest) := by
  have hlive : (Condition.test (Sql.Test.isZero FileColumn.deleteAt)).holds s.userIds f.values = true ↔
      f.deleteAt = 0 := by
    simp [Sql.Test.holds, FileInfo.values]
  have hdates : (∀ x ∈ (first.dateTests c.now FileColumn.createAt).map Condition.test,
      x.holds s.userIds f.values = true) ↔ first.InDates c.now f.createAt := by
    rw [List.forall_mem_map]
    simp only [Condition.holds_test]
    exact SearchRequest.holds_dateTests rfl
  have hauthor : f.values .creatorId = .text f.creatorId := rfl
  rw [conditions_wanted]
  simp only [List.forall_mem_append, List.forall_mem_singleton, Option.mem_toList, hlive, hdates,
    holds_userConditions hauthor, holds_extensionConditions]
  constructor
  · rintro ⟨⟨⟨⟨hlive, hauthor⟩, hdates⟩, hextension⟩, htext⟩
    exact ⟨hlive, hauthor, hdates, hextension, holds_textCondition?.mp htext⟩
  · intro h
    exact ⟨⟨⟨⟨h.live, h.author⟩, h.dates⟩, h.extension⟩, holds_textCondition?.mpr h.text⟩

/-- The query of a search within the channels that it reads. -/
def wantedWithin (c : SearchContext) (byUsername : Bool) (first : SearchRequest)
    (rest : List SearchRequest) (ids : List Text) : FileQuery :=
  (wanted c byUsername first rest).within .channelId ids

theorem conditions_wantedWithin :
    (wantedWithin c byUsername first rest ids).conditions =
      (wanted c byUsername first rest).conditions ++ [.test (.oneOfJson .channelId ids)] := rfl

theorem holds_wantedWithin {f : FileInfo} :
    Condition.holdsAll s.userIds f.values (wantedWithin c byUsername first rest ids).conditions = true ↔
      f.IsWanted s c byUsername (first :: rest) ∧ f.channelId ∈ ids := by
  have hchannel : f.values .channelId = .text f.channelId := rfl
  rw [wantedWithin, PageQuery.holdsAll_within hchannel, Condition.holdsAll_eq, List.all_eq_true]
  exact and_congr_left' holds_wanted

/-- Only the texts of a search make long patterns. -/
theorem isOverlong_wantedWithin (h : c.InFileLimits (first :: rest)) :
    ∀ x ∈ (wantedWithin c byUsername first rest ids).conditions,
      ∀ t ∈ x.tests, Condition.isOverlong t = false := by
  have htest (t : Sql.Test FileColumn) (ht : Condition.isOverlong t = false) :
      ∀ u ∈ (Condition.test t).tests, Condition.isOverlong u = false := by
    rw [Condition.tests]
    exact List.forall_mem_singleton.mpr ht
  rw [conditions_wantedWithin, conditions_wanted]
  simp only [List.forall_mem_append, List.forall_mem_singleton, Option.mem_toList, List.forall_mem_map]
  refine ⟨⟨⟨⟨⟨htest _ rfl, fun x hx t ht => ?_⟩, fun t ht => ?_⟩, ?_⟩, h.patterns⟩, htest _ rfl⟩
  · rw [tests_userConditions x hx] at ht
    cases ht
  · apply htest
    rw [Condition.isOverlong, SearchRequest.pattern_dateTests t ht]
  · unfold extensionConditions
    split_ifs
    · simp
    · exact List.forall_mem_singleton.mpr (htest _ rfl)

theorem spans_extensionConditions : Condition.Spans (extensionConditions first) 1 3 := by
  unfold extensionConditions
  split_ifs
  · exact Condition.spans_nil ..
  · exact Condition.spans_test (le_refl 3)

/-- The only select inside the conditions on a file, its channel aside, is that of the authors. -/
theorem nesting_wanted : ∀ x ∈ (wanted c byUsername first rest).conditions, x.nesting ≤ 6 := by
  rw [conditions_wanted]
  simp only [List.forall_mem_append, List.forall_mem_singleton, Option.mem_toList]
  refine ⟨⟨⟨⟨Nat.zero_le _, nesting_userConditions⟩, SearchRequest.nesting_dateTests⟩, ?_⟩,
    fun x hx => ?_⟩
  · unfold extensionConditions
    split_ifs
    · simp
    · exact List.forall_mem_singleton.mpr (Nat.zero_le _)
  · rw [(Condition.nesting_ofFileTexts? (by decide) hx).1]
    exact Nat.zero_le _

theorem height_wantedWithin (h : c.InFileLimits (first :: rest)) :
    (wantedWithin c byUsername first rest ids).height ≤ maxHeight := by
  have hlive : Condition.Spans [.test (.isZero FileColumn.deleteAt)] 1 3 :=
    Condition.spans_test (le_refl 3)
  have htext : Condition.Spans (textCondition? (first :: rest) first.orTerms).toList 1
      (maxHeight - 8) := by
    cases htext : textCondition? (first :: rest) first.orTerms with
    | none => exact Condition.spans_nil ..
    | some x =>
      have hheight := h.height x htext
      constructor
      · rw [Option.toList_some, Condition.heights_singleton]
        exact (Condition.nesting_ofFileTexts? (by decide) htext).2
      · rw [Option.toList_some, Condition.heights_singleton, ← Condition.height]
        omega
  have hchannel : Condition.Spans [.test (.oneOfJson FileColumn.channelId ids)] 1 3 :=
    Condition.spans_test (le_refl 3)
  have hheight : Condition.chainHeight (Condition.heights
      (wantedWithin c byUsername first rest ids).conditions) ≤ maxHeight - 6 :=
    (((((hlive.append spans_userConditions).append SearchRequest.spans_dateTests).append
      spans_extensionConditions).append htext).append hchannel).height_le
  have hnesting : Condition.nestingOfAll (wantedWithin c byUsername first rest ids).conditions ≤ 6 := by
    rw [Condition.nestingOfAll_le, conditions_wantedWithin]
    exact List.forall_mem_append.mpr
      ⟨nesting_wanted, List.forall_mem_singleton.mpr (by decide : 1 ≤ 6)⟩
  exact Nat.add_le_add hheight hnesting

theorem bindable_wantedWithin (h : first.DatesFit c.now) :
    ∀ x ∈ (wantedWithin c byUsername first rest ids).conditions,
      (x.clause FileColumn.text).Bindable := by
  have hdates : ∀ x ∈ (first.dateTests c.now FileColumn.createAt).map Condition.test,
      (x.clause FileColumn.text).Bindable := by
    rw [List.forall_mem_map]
    intro t ht
    exact Condition.test_bindable not_mem_text (h.dateConditions_ok.2 t ht)
  exact PageQuery.bindable_within not_mem_text (forall_ofDates (fun _ hw => hw) hdates)

/-- The store can take what the query binds. -/
theorem bindable_select_wantedWithin (hdates : first.DatesFit c.now)
    (hoffset : c.pageNumber * c.limit < 2 ^ 63) :
    (select (wantedWithin c byUsername first rest ids)).clause.Bindable :=
  bindable_select (bindable_wantedWithin hdates) c.fitsStore_limit
    (SearchContext.fitsStore_pageOffset hoffset)

/-- A search asks for nothing when no text, no filter and no extension does. -/
theorem not_asks_iff {requests : List SearchRequest} :
    ¬ Asks requests ↔ (FileTexts.ofRequests requests).AskNothing ∧
      (requests.headD {}).hasFilters = false ∧ (requests.headD {}).extensions = [] := by
  cases requests with
  | nil => exact iff_of_true (by decide) ⟨FileTexts.askNothing_nil, rfl, rfl⟩
  | cons first rest =>
    rw [asks_cons, not_or, not_or, not_not, Option.not_isSome_iff_eq_none, textCondition?_eq_none,
      Bool.not_eq_true]
    rfl

end FileQuery

/-- The store answers the query of a search with a page of the files that the search asks for. -/
theorem Store.readFiles_wantedWithin (h : c.InFileLimits (first :: rest)) (byUsername : Bool)
    (ids : List Text) :
    s.readFiles (FileQuery.wantedWithin c byUsername first rest ids) =
      .ok ((((newestFirst FileInfo.createAt (s.files.filter fun f =>
          f.IsWanted s c byUsername (first :: rest) ∧ f.channelId ∈ ids)).drop
            (c.pageNumber * c.limit).toNat).take c.limit.toNat).map FileInfo.row) := by
  rw [← c.getD_pageOffset]
  exact PageQuery.read_ok (FileQuery.height_wantedWithin h)
    (FileQuery.bindable_select_wantedWithin h.dates h.offset).fits (FileQuery.isOverlong_wantedWithin h)
    c.limit_bounds.1.le (fun _ => FileQuery.holds_wantedWithin) s.files FileInfo.row

/-- Inside its limits, a search that asks for something finds the files that it asks for. -/
theorem searchFiles_found (h : c.InFileLimits (first :: rest))
    (hask : FileQuery.Asks (first :: rest)) :
    (searchFiles s.reader lookup c (first :: rest)).result =
      .ok (c.pageOf ((((newestFirst FileInfo.createAt
        (s.foundFiles lookup c (first :: rest))).drop (c.pageNumber * c.limit).toNat).take
          c.limit.toNat).map FileInfo.row)) := by
  generalize hids : s.channelIds
    (ScopeQuery.build c.userId c.teamId first lookup.channelsByName) = ids
  have hfound : s.foundFiles lookup c (first :: rest) = s.files.filter fun f =>
      f.IsWanted s c lookup.usersByUsername (first :: rest) ∧ f.channelId ∈ ids :=
    hids ▸ Store.filter_sees FileInfo.channelId s.files
  have hdates : first.DatesFit c.now := h.dates
  have hbuild := FileQuery.build?_of_asks hdates hask lookup.usersByUsername
  have houtcome : (searchFiles s.reader lookup c (first :: rest)).result = _ :=
    congrArg Prod.snd (searchFiles_outcome hask hbuild)
  have hchannels : s.reader.channels
      (ScopeQuery.build c.userId c.teamId first lookup.channelsByName) = .ok ids :=
    congrArg Except.ok hids
  rw [hchannels, outcome_of_never h.uncancelled] at houtcome
  rw [houtcome, hfound]
  split_ifs with hnone
  · obtain rfl := hnone
    simp [SearchContext.emptyPage]
  · have hlive {m n : Nat} (row : FileRow) (hrow : row ∈ (((newestFirst FileInfo.createAt
        (s.files.filter fun f => f.IsWanted s c lookup.usersByUsername (first :: rest) ∧
          f.channelId ∈ ids)).drop m).take n).map FileInfo.row) : decide (row.deleteAt = 0) = true := by
      obtain ⟨f, hf, rfl⟩ := exists_of_mem_part hrow
      exact decide_eq_true (of_decide_eq_true (List.mem_filter.mp hf).2).1.live
    have hanswer : s.reader.files
        ((FileQuery.wanted c lookup.usersByUsername first rest).within .channelId ids) = _ :=
      Store.readFiles_wantedWithin (s := s) h lookup.usersByUsername ids
    rw [hanswer]
    exact congrArg (fun rows => Except.ok (c.pageOf rows)) (List.filter_eq_self.mpr hlive)

/-- Inside its limits, a search returns the empty page where its texts ask for nothing and it has
neither a filter nor extensions, and else one page of the files that it asks for, newest first. -/
theorem searchFiles_page {requests : List SearchRequest} (h : c.InFileLimits requests) :
    if (FileTexts.ofRequests requests).AskNothing ∧ (requests.headD {}).hasFilters = false ∧
      (requests.headD {}).extensions = []
    then (searchFiles s.reader lookup c requests).result = .ok c.emptyPage
    else ∃ sorted : List FileInfo, sorted.Perm (s.foundFiles lookup c requests) ∧
      sorted.Pairwise (fun a b => b.createAt ≤ a.createAt) ∧
        (searchFiles s.reader lookup c requests).result =
          .ok (c.pageOf (((sorted.drop (c.pageNumber * c.limit).toNat).take c.limit.toNat).map
            FileInfo.row)) := by
  split
  · next hnothing => exact (searchFiles_of_not_asks (FileQuery.not_asks_iff.mpr hnothing)).2
  · next hsomething =>
    have hask : FileQuery.Asks requests := not_not.mp (mt FileQuery.not_asks_iff.mp hsomething)
    cases requests with
    | nil => exact absurd hask (by decide)
    | cons first rest =>
      exact ⟨_, newestFirst_perm _ _, pairwise_newestFirst _ _, searchFiles_found h hask⟩

/-- A word of the content, a word to leave out, an extension and a date, asked by a member of one
channel. -/
theorem searchFiles_page_report :
    let file (id channel name content : String) : FileInfo :=
      { id := id.toList, channelId := channel.toList, creatorId := "u1".toList, name := name.toList
        extension := "pdf".toList, content := content.toList, createAt := 1000 }
    let s : Store :=
      { sampleStore with
        files :=
          [file "f1" "C1" "Q3.pdf" "Quarterly Report", file "f2" "C1" "draft.pdf" "report",
            file "f3" "C2" "secret.pdf" "report"] }
    let c : SearchContext := { userId := "u1".toList, teamId := "T1".toList, now := 0 }
    let first : SearchRequest :=
      { terms := "report*".toList, excludedTerms := "Draft".toList, extensions := [".PDF".toList]
        onDate := "1970-01-01".toList }
    c.InFileLimits [first] ∧
      (searchFiles s.reader {} c [first]).result.map
        (fun page => page.rows.map FileRow.id) = .ok ["f1".toList] := by
  intro file s c first
  have hlimits : c.InFileLimits [first] := by decide +kernel
  have hask : ¬ ((FileTexts.ofRequests [first]).AskNothing ∧ first.hasFilters = false ∧
    first.extensions = []) := by decide +kernel
  have hfound : (s.foundFiles {} c [first]).map FileInfo.id = ["f1".toList] := by decide +kernel
  have hpage := @searchFiles_page s {} c [first] hlimits
  rw [List.headD_cons, if_neg hask] at hpage
  obtain ⟨sorted, hperm, -, hresult⟩ := hpage
  have hids : sorted.map FileInfo.id = ["f1".toList] :=
    List.perm_singleton.mp (hfound ▸ hperm.map FileInfo.id)
  have hrow : FileRow.id ∘ FileInfo.row = FileInfo.id := rfl
  refine ⟨hlimits, ?_⟩
  rw [hresult]
  show Except.ok ((((sorted.drop 0).take 60).map FileInfo.row).map FileRow.id) = _
  rw [List.map_map, hrow, List.map_take, List.map_drop, hids]
  rfl

/-- A token of stars asks for nothing where it is excluded, though every file has the empty word; of an
excluded token the file may lack the leading dash; without words to look for, any file will do. On the
last day of the calendar, or at an offset of a day, there is no page. -/
theorem starred_dashed_and_dated_files :
    let f : FileInfo :=
      { id := "f1".toList, channelId := "C1".toList, creatorId := "u1".toList
        name := "plan.txt".toList, extension := "txt".toList, createAt := 1000 }
    let s : Store := { sampleStore with files := [f] }
    let c : SearchContext := { userId := "u1".toList, teamId := [], now := 0 }
    let plan : SearchRequest := { terms := "plan".toList }
    let day : SearchRequest := { plan with onDate := "1970-01-01".toList }
    (searchFiles s.reader {} c [{ plan with excludedTerms := "*".toList }]).result =
        .ok (c.pageOf [f.row]) ∧
      ([] : Text) <:+: f.name.lower ∧
      (searchFiles s.reader {} c [{ plan with excludedTerms := "-plan".toList }]).result =
        .ok c.emptyPage ∧
      ¬ f.Holds "-plan".toList ∧
      (searchFiles s.reader {} c [{ excludedTerms := "memo".toList, orTerms := true }]).result =
        .ok (c.pageOf [f.row]) ∧
      (searchFiles s.reader {} c [{ day with onDate := "9999-12-31".toList }]).result =
        .error (.date .outOfRange) ∧
      (searchFiles s.reader {} c [{ day with timeZoneOffset := 86400 }]).result =
        .error (.date (.offsetOfADay 1 0)) := by
  decide +kernel

end ChannelSearch
