import ChannelSearch.Proofs.ReadProtocol
import ChannelSearch.Proofs.SearchShapes

/-!
The texts of the statements that searches send. Main statement: searches of one form send the same
texts, whatever their values hold, and every text has as many marks as its statement has arguments.
-/

namespace ChannelSearch

open Sql

/-- The texts that a run sends, each with the read that it is for. -/
def Traced.sentTexts {ε α : Type} (run : Traced ε α) : List (Read × Text) :=
  run.reads.map fun r => (r.1, r.2.sql)

/-- One of two runs sends what the other sends first. -/
def Traced.SendsAlike {ε α β : Type} (run : Traced ε α) (run' : Traced ε β) : Prop :=
  run.sentTexts <+: run'.sentTexts ∨ run'.sentTexts <+: run.sentTexts

/-- As many marks in the text as arguments. -/
def Sql.Statement.Balanced (s : Statement) : Prop := s.sql.count '?' = s.args.length

section Reads

variable {α C : Type} {reader reader' : Reader} {lookup : Lookup} {c c' : SearchContext}
  {first first' : SearchRequest} {rest rest' requests : List SearchRequest}

theorem outcome_reads {deleteAt : α → Int} {scope : Statement}
    {channels : Except ReadError (List Text)} {main : List Text → Read × Statement}
    {answer : List Text → Except ReadError (List α)} {reads : List (Read × Statement)}
    {result : Except SearchError (Page α)}
    (h : (reads, result) = outcome c deleteAt scope channels main answer) :
    ∃ ids, reads <+: [(.channels, scope), main ids] := by
  obtain rfl : reads = _ := congrArg Prod.fst h
  unfold outcome
  by_cases hbefore : c.cancellation.seenAt .beforeScope = true
  · rw [if_pos hbefore]
    exact ⟨[], List.nil_prefix⟩
  · rw [if_neg hbefore]
    split
    · exact ⟨[], List.prefix_append _ _⟩
    · exact ⟨[], List.prefix_append _ _⟩
    · next ids _ _ =>
      refine ⟨ids, ?_⟩
      split_ifs
      · exact List.prefix_append _ _
      · exact List.prefix_rfl

/-- A search sends nothing, or first what asks for the channels in scope and then what asks for the
rows of the query that it builds. -/
theorem scopedSearch_reads {column : C} {build : Traced SearchError (Option (PageQuery C))}
    {select : PageQuery C → Select} {read : Read} {source : LogSource} {failure : String}
    {deleteAt : α → Int} {answer : PageQuery C → Except ReadError (List α)}
    (hreads : build.reads = [])
    (hselect : ∀ q, build.result = .ok (some q) → ∀ ids,
      (select (q.within column ids)).statement = .ok (select (q.within column ids)).sent) :
    let run := scopedSearch reader lookup c first column build fun q =>
      readPage c (select q) read source failure deleteAt (answer q)
    run.reads = [] ∨ ∃ q ids, build.result = .ok (some q) ∧
      run.reads <+: [(.channels, scopeStatement lookup c first),
        (read, (select (q.within column ids)).sent)] := by
  intro run
  cases hbuild : build.result with
  | error e =>
    refine Or.inl ?_
    show (build >>= _).reads = []
    rw [Traced.reads_bind_of_error hbuild, hreads]
  | ok query =>
    cases query with
    | none => exact Or.inl (scopedSearch_of_no_query hreads hbuild).1
    | some q =>
      obtain ⟨ids, hstart⟩ := outcome_reads (scopedSearch_outcome hreads hbuild
        (ScopeQuery.statement_build _ _ _ _).1 (hselect q hbuild))
      exact Or.inr ⟨q, ids, rfl, hstart⟩

theorem reads_searchPosts :
    (searchPosts reader lookup c (first :: rest)).reads = [] ∨ ∃ q ids,
      (PostQuery.build? c.teamId (first :: rest) c.pageNumber c.limit lookup.usersByUsername
        c.now).result = .ok (some q) ∧
      (searchPosts reader lookup c (first :: rest)).reads <+:
        [(.channels, scopeStatement lookup c first),
          (.posts, (PostQuery.select (q.within .channelId ids)).sent)] := by
  rw [searchPosts_cons]
  split_ifs
  · exact Or.inl rfl
  · rw [funext readPosts_eq]
    exact scopedSearch_reads (PostQuery.reads_build? first rest)
      fun q hbuild ids => (PostQuery.statement_within hbuild ids).1

theorem reads_searchFiles :
    (searchFiles reader lookup c (first :: rest)).reads = [] ∨ ∃ q ids,
      (FileQuery.build? c first (first :: rest) lookup.usersByUsername).result = .ok (some q) ∧
      (searchFiles reader lookup c (first :: rest)).reads <+:
        [(.channels, scopeStatement lookup c first),
          (.files, (FileQuery.select (q.within .channelId ids)).sent)] := by
  rw [searchFiles_cons]
  split_ifs
  · exact Or.inl rfl
  · rw [funext readFiles_eq]
    exact scopedSearch_reads (FileQuery.reads_build? first rest)
      fun q hbuild ids => (FileQuery.statement_within hbuild ids).1

theorem balanced_scopeStatement : (scopeStatement lookup c first).Balanced :=
  (ScopeQuery.statement_build _ _ _ _).2

/-- Every statement of a search of posts has as many marks as arguments. -/
theorem balanced_searchPosts :
    ∀ r ∈ (searchPosts reader lookup c requests).reads, r.2.Balanced := by
  cases requests with
  | nil => simp [searchPosts]
  | cons first rest =>
    rcases @reads_searchPosts reader lookup c first rest with hreads | ⟨q, ids, hbuild, hstart⟩
    · simp [hreads]
    · intro r hr
      rcases List.mem_pair.mp (hstart.subset hr) with rfl | rfl
      · exact balanced_scopeStatement
      · exact (PostQuery.statement_within hbuild ids).2

theorem balanced_searchFiles :
    ∀ r ∈ (searchFiles reader lookup c requests).reads, r.2.Balanced := by
  cases requests with
  | nil => simp [searchFiles]
  | cons first rest =>
    rcases @reads_searchFiles reader lookup c first rest with hreads | ⟨q, ids, hbuild, hstart⟩
    · simp [hreads]
    · intro r hr
      rcases List.mem_pair.mp (hstart.subset hr) with rfl | rfl
      · exact balanced_scopeStatement
      · exact (FileQuery.statement_within hbuild ids).2

/-- Two runs send alike when each sends a part of two statements of the same texts. -/
theorem Traced.sendsAlike_of_prefix {ε β : Type} {run : Traced ε α} {run' : Traced ε β}
    {read main : Read} {s s' t t' : Statement} (hrun : run.reads <+: [(read, s), (main, t)])
    (hrun' : run'.reads <+: [(read, s'), (main, t')]) (hs : s.sql = s'.sql) (ht : t.sql = t'.sql) :
    run.SendsAlike run' := by
  have htexts := hrun.map fun r => (r.1, r.2.sql)
  have htexts' := hrun'.map fun r => (r.1, r.2.sql)
  simp only [List.map_cons, List.map_nil, hs, ht] at htexts htexts'
  exact List.prefix_or_prefix_of_prefix htexts htexts'

theorem Traced.sendsAlike_of_nil {ε β : Type} {run : Traced ε α} {run' : Traced ε β}
    (h : run.reads = [] ∨ run'.reads = []) : run.SendsAlike run' := by
  rcases h with h | h
  · exact Or.inl (by simp [Traced.sentTexts, h])
  · exact Or.inr (by simp [Traced.sentTexts, h])

theorem scopeStatement_congr (hc : c.SameForm c') (h : first.SameForm first') :
    (scopeStatement lookup c first).sql = (scopeStatement lookup c' first').sql := by
  have hjoin : (!first.searchWithoutUserId) = !first'.searchWithoutUserId :=
    congrArg _ h.searchWithoutUserId
  exact ScopeQuery.text_select_congr hjoin (ScopeQuery.shape_build_congr hc.teamId h _)

theorem searchPosts_sendsAlike (hc : c.SameForm c') (h : first.SameForm first')
    (hkinds : PostQuery.SameKinds (first :: rest) (first' :: rest')) :
    (searchPosts reader lookup c (first :: rest)).SendsAlike
      (searchPosts reader' lookup c' (first' :: rest')) := by
  rcases @reads_searchPosts reader lookup c first rest with hreads | ⟨q, ids, hq, hstart⟩
  · exact Traced.sendsAlike_of_nil (Or.inl hreads)
  rcases @reads_searchPosts reader' lookup c' first' rest' with hreads | ⟨q', ids', hq', hstart'⟩
  · exact Traced.sendsAlike_of_nil (Or.inr hreads)
  obtain ⟨dates, hdates, rfl⟩ := PostQuery.eq_of_build? hq
  obtain ⟨dates', hdates', rfl⟩ := PostQuery.eq_of_build? hq'
  have hshape := (PostQuery.sameShape_ofDates hc h hkinds hdates hdates'
    lookup.usersByUsername).within .channelId ids ids'
  exact Traced.sendsAlike_of_prefix hstart hstart' (scopeStatement_congr hc h)
    (PostQuery.text_select_congr hshape)

theorem searchFiles_sendsAlike (hc : c.SameForm c') (h : first.SameForm first')
    (hkinds : FileQuery.SameKinds (first :: rest) (first' :: rest')) :
    (searchFiles reader lookup c (first :: rest)).SendsAlike
      (searchFiles reader' lookup c' (first' :: rest')) := by
  rcases @reads_searchFiles reader lookup c first rest with hreads | ⟨q, ids, hq, hstart⟩
  · exact Traced.sendsAlike_of_nil (Or.inl hreads)
  rcases @reads_searchFiles reader' lookup c' first' rest' with hreads | ⟨q', ids', hq', hstart'⟩
  · exact Traced.sendsAlike_of_nil (Or.inr hreads)
  obtain ⟨dates, hdates, rfl⟩ := FileQuery.eq_of_build? hq
  obtain ⟨dates', hdates', rfl⟩ := FileQuery.eq_of_build? hq'
  have hshape := (FileQuery.sameShape_ofDates hc h hkinds hdates hdates'
    lookup.usersByUsername).within .channelId ids ids'
  exact Traced.sendsAlike_of_prefix hstart hstart' (scopeStatement_congr hc h)
    (FileQuery.text_select_congr hshape)

end Reads

/-- Searches of one form send the same texts, whoever answers and whatever their values hold; where one
ends before the other, it has sent what the other sends first. Each text has as many marks as its
statement has arguments. -/
theorem searches_send_alike (reader reader' : Reader) (lookup : Lookup) {c c' : SearchContext}
    {first first' : SearchRequest} {rest rest' : List SearchRequest} (hc : c.SameForm c')
    (hfirst : first.SameForm first') :
    let requests := first :: rest
    let requests' := first' :: rest'
    let scope := visibleChannels reader
      (ScopeQuery.build c.userId c.teamId first lookup.channelsByName)
    let scope' := visibleChannels reader'
      (ScopeQuery.build c'.userId c'.teamId first' lookup.channelsByName)
    (PostQuery.SameKinds requests requests' →
      (searchPosts reader lookup c requests).SendsAlike (searchPosts reader' lookup c' requests')) ∧
    (FileQuery.SameKinds requests requests' →
      (searchFiles reader lookup c requests).SendsAlike (searchFiles reader' lookup c' requests')) ∧
    scope.sentTexts = scope'.sentTexts ∧
    (∀ r ∈ (searchPosts reader lookup c requests).reads, r.2.Balanced) ∧
    (∀ r ∈ (searchFiles reader lookup c requests).reads, r.2.Balanced) ∧
    ∀ r ∈ scope.reads, r.2.Balanced := by
  intro requests requests' scope scope'
  have hreads : scope.reads = [(.channels, scopeStatement lookup c first)] :=
    (visibleChannels_outcome reader (ScopeQuery.statement_build _ _ _ _).1).1
  have hreads' : scope'.reads = [(.channels, scopeStatement lookup c' first')] :=
    (visibleChannels_outcome reader' (ScopeQuery.statement_build _ _ _ _).1).1
  refine ⟨searchPosts_sendsAlike hc hfirst, searchFiles_sendsAlike hc hfirst, ?_,
    balanced_searchPosts, balanced_searchFiles, ?_⟩
  · rw [Traced.sentTexts, Traced.sentTexts, hreads, hreads', List.map_singleton, List.map_singleton,
      scopeStatement_congr hc hfirst]
  · rw [hreads]
    exact List.forall_mem_singleton.mpr balanced_scopeStatement

/-- Quotes, marks and words of the query language in the values of a search change no text. -/
theorem searches_send_alike_quoted :
    let reader : Reader :=
      { channels := fun _ => .ok ["C1".toList], posts := fun _ => .ok [], files := fun _ => .ok [] }
    let c : SearchContext := { userId := "u1".toList, teamId := "T1".toList, now := 0 }
    let c' : SearchContext := { userId := "' OR 1=1 --".toList, teamId := "?".toList, now := 0 }
    let first : SearchRequest := { terms := "deploy".toList, fromUsers := ["u2".toList] }
    let first' : SearchRequest :=
      { terms := "');DROP?%\\".toList, fromUsers := ["') UNION SELECT ?".toList] }
    c.SameForm c' ∧ first.SameForm first' ∧ PostQuery.SameKinds [first] [first'] ∧
      (searchPosts reader {} c [first]).sentTexts = (searchPosts reader {} c' [first']).sentTexts ∧
      ∀ r ∈ (searchPosts reader {} c' [first']).reads, r.2.Balanced := by
  intro reader c c' first first'
  have hc : c.SameForm c' := ⟨by decide, by decide⟩
  have hfirst : first.SameForm first' := by constructor <;> decide
  have hkinds : PostQuery.SameKinds [first] [first'] := by
    unfold PostQuery.SameKinds
    decide +kernel
  have hlength : (searchPosts reader {} c [first]).sentTexts.length =
      (searchPosts reader {} c' [first']).sentTexts.length := by
    decide +kernel
  obtain ⟨hposts, -⟩ := @searches_send_alike reader reader {} c c' first first' [] [] hc hfirst
  refine ⟨hc, hfirst, hkinds, ?_, balanced_searchPosts⟩
  rcases hposts hkinds with hstart | hstart
  · exact hstart.eq_of_length hlength
  · exact (hstart.eq_of_length hlength.symm).symm

end ChannelSearch
