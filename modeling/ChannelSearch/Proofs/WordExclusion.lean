import ChannelSearch.Proofs.AuthorSearches
import ChannelSearch.Proofs.SearchFailures
import ChannelSearch.Proofs.TypedWords

/-!
A word in the search box, and the same word after a dash. Main statement: the two searches share the
posts that the user may see between them, but a hashtag is looked for with its mark and left out with
and without.
-/

namespace ChannelSearch

open Text

namespace Needle

variable {C : Type} {users : UserQuery → List Text} {row : C → Sql.Value} {op : Connective}
  {one : Needle → Condition C} {n : Needle} {rest : List Needle}

theorem height_joined {test : Needle → Sql.Test C} (hrest : rest.length ≤ 1)
    (htest : ∀ n, Condition.testHeight (test n) ≤ 5) :
    (joined op (fun n => .test (test n)) (n :: rest)).height ≤ 6 := by
  have hn := htest n
  match rest with
  | [] =>
    rw [joined, Condition.height_test]
    omega
  | [m] =>
    have hm := htest m
    have hgroup : joined op (fun n => .test (test n)) [n, m] =
        .group op ([n, m].map fun n => .test (test n)) := rfl
    have hboth := (Condition.spans_test hn).append (Condition.spans_test hm)
    rw [hgroup, Condition.height_group]
    exact hboth.height_le
  | _ :: _ :: _ => simp at hrest

/-- The first of the ways is tried on every row. -/
theorem meetsOverlong_joined (h : (one n).meetsOverlong users row = true) :
    (joined op one (n :: rest)).meetsOverlong users row = true := by
  match rest with
  | [] => exact h
  | m :: rest =>
    have hgroup : joined op one (n :: m :: rest) = .group op (one n :: (m :: rest).map one) := rfl
    rw [hgroup]
    cases op with
    | all => rw [Condition.meetsOverlong, Condition.allMeetOverlong, h, Bool.true_or]
    | any => rw [Condition.meetsOverlong, Condition.anyMeetsOverlong, h, Bool.true_or]

end Needle

namespace SearchRequest

variable {r : SearchRequest} {ns : List Needle}

/-- One thing that is asked for, or left out, makes one condition with a test for each of its needles. -/
theorem exists_textCondition? (h : r.Seeks ns ∨ r.LeavesOut ns) :
    ∃ (outer inner : Connective) (test : Needle → Sql.Test PostColumn),
      PostQuery.textCondition? [r] r.orTerms =
          some (.group outer [Needle.joined inner (fun n => .test (test n)) ns]) ∧
        ∀ n, Condition.testHeight (test n) ≤ 5 ∧ (test n).pattern? = some n.pattern := by
  rw [PostQuery.textCondition?_eq, Tokens.ofTokens?_sought]
  rcases h with ⟨hwanted, hunwanted⟩ | ⟨hwanted, hunwanted⟩
  · rw [hwanted, hunwanted]
    exact ⟨_, .any, fun n => .like (.lower .message) Tokens.messageEscape n.pattern, rfl,
      fun n => ⟨(by decide : 4 ≤ 5), rfl⟩⟩
  · rw [hwanted, hunwanted]
    exact ⟨_, .all, fun n => .unlike (.lower .message) Tokens.messageEscape n.pattern, rfl,
      fun n => ⟨le_refl 5, rfl⟩⟩

end SearchRequest

variable {s : Store} {lookup : Lookup} {c : SearchContext} {r : SearchRequest} {w : Text}

/-- A search without filters finds, of the posts that the user may see, those that its texts match. -/
theorem Store.foundPosts_ofText (hfilters : r.hasFilters = false)
    (hscope : r.searchWithoutUserId = false ∧ r.includeDeletedChannels = false) :
    s.foundPosts lookup c r [] = (s.openPosts c.userId c.teamId).filter fun p =>
      (Tokens.sought (MergedText.ofRequests [r])).Match r.orTerms p.message.lower := by
  have hdates (millis : Int) : r.InDates c.now millis := by
    obtain ⟨hon, hafter, hbefore⟩ := SearchRequest.dates_of_not_hasFilters hfilters
    exact ⟨absurd hon, fun _ => absurd hafter, fun _ => absurd hbefore⟩
  simp only [SearchRequest.hasFilters, Bool.or_eq_false_iff, Bool.not_eq_false',
    List.isEmpty_iff] at hfilters
  obtain ⟨⟨⟨⟨⟨⟨hin, hnotIn⟩, hfrom⟩, hnotFrom⟩, -⟩, -⟩, -⟩ := hfilters
  rw [openPosts, List.filter_filter, foundPosts]
  apply List.filter_congr
  intro p _
  rw [← Bool.decide_and, decide_eq_decide, sees_iff_isOpenTo hscope hin hnotIn]
  constructor
  · rintro ⟨h, hopen⟩
    exact ⟨h.text, h.live, h.notSystem, hopen⟩
  · rintro ⟨htext, hlive, hkind, hopen⟩
    refine ⟨⟨hlive, hkind, fun hauthor => ?_, hdates _, htext⟩, hopen⟩
    exact absurd hauthor (not_or.mpr ⟨not_not.mpr hfrom, not_not.mpr hnotFrom⟩)

section OneThing

variable {n : Needle} {rest : List Needle}

theorem not_askNothing_ofNeedles (h : r.Seeks (n :: rest) ∨ r.LeavesOut (n :: rest)) :
    ¬ (Tokens.sought (MergedText.ofRequests [r])).AskNothing := by
  rintro ⟨hwanted, hunwanted⟩
  rcases h with h | h
  · exact List.cons_ne_nil _ _ (h.1.symm.trans hwanted)
  · exact List.cons_ne_nil _ _ (h.2.symm.trans hunwanted)

theorem inPostLimits_ofNeedles (h : r.Seeks (n :: rest) ∨ r.LeavesOut (n :: rest))
    (hrest : rest.length ≤ 1) (hfits : ∀ m ∈ n :: rest, m.Fits) (hdates : r.DatesFit c.now)
    (hcancel : c.cancellation = .never) : { c with page := 0 }.InPostLimits r [] := by
  obtain ⟨outer, inner, test, htext, htest⟩ := SearchRequest.exists_textCondition? h
  refine ⟨hcancel, by simp [SearchContext.pageNumber], hdates, fun x hx => ?_, fun x hx t ht => ?_⟩
  · obtain rfl := Option.some.inj (htext.symm.trans hx)
    have hheight : (Needle.joined inner (fun n => .test (test n)) (n :: rest)).height ≤ 6 :=
      Needle.height_joined hrest fun n => (htest n).1
    rw [Condition.height_group, Condition.heights_singleton, ← Condition.height]
    exact (Nat.add_le_add_right hheight 8).trans (by decide)
  · obtain rfl := Option.some.inj (htext.symm.trans hx)
    obtain ⟨x, hx, ht⟩ := Condition.mem_tests_group.mp ht
    obtain rfl := List.mem_singleton.mp hx
    obtain ⟨m, hm, ht⟩ := Needle.tests_joined ht
    rw [Condition.tests, List.mem_singleton] at ht
    rw [ht, Condition.isOverlong, (htest m).2]
    exact decide_eq_false (not_lt.mpr (hfits m hm))

/-- The first needle is tried on every post, also where its pattern is too long. -/
theorem meetsOverlong_textCondition? (h : r.Seeks (n :: rest) ∨ r.LeavesOut (n :: rest))
    (hlong : ¬ n.Fits) {x : Condition PostColumn}
    (hx : PostQuery.textCondition? [r] r.orTerms = some x) (users : UserQuery → List Text) (p : Post) :
    x.meetsOverlong users p.values = true := by
  obtain ⟨outer, inner, test, htext, htest⟩ := SearchRequest.exists_textCondition? h
  obtain rfl := Option.some.inj (htext.symm.trans hx)
  have hfirst : (Condition.test (test n)).meetsOverlong users p.values = true := by
    rw [Condition.meetsOverlong, Condition.isOverlong, (htest n).2]
    exact decide_eq_true (not_le.mp hlong)
  have hjoined : (Needle.joined inner (fun n => .test (test n)) (n :: rest)).meetsOverlong users
      p.values = true := Needle.meetsOverlong_joined hfirst
  cases outer with
  | all => rw [Condition.meetsOverlong, Condition.allMeetOverlong, hjoined, Bool.true_or]
  | any => rw [Condition.meetsOverlong, Condition.anyMeetsOverlong, hjoined, Bool.true_or]

/-- A needle whose pattern is too long for the store is not found anywhere, nor found missing. -/
theorem searchPosts_of_not_fits (h : r.Seeks (n :: rest) ∨ r.LeavesOut (n :: rest)) (hlong : ¬ n.Fits)
    (hdates : r.DatesFit c.now) (hcancel : c.cancellation = .never)
    (hpage : c.pageNumber * c.limit < 2 ^ 63) :
    (searchPosts s.reader lookup c [r]).result = .ok c.emptyPage := by
  obtain ⟨x, hx⟩ : ∃ x, PostQuery.textCondition? [r] r.orTerms = some x := by
    obtain ⟨_, _, _, htext, -⟩ := SearchRequest.exists_textCondition? h
    exact ⟨_, htext⟩
  have hask : PostQuery.Asks [r] := PostQuery.asks_cons.mpr (Or.inl (by rw [hx]; rfl))
  have hbuild := PostQuery.build?_of_asks hdates hask lookup.usersByUsername
  have houtcome : (searchPosts s.reader lookup c [r]).result = (outcome c PostRow.deleteAt
      (scopeStatement lookup c r)
      (.ok (s.channelIds (ScopeQuery.build c.userId c.teamId r lookup.channelsByName)))
      (fun ids => (.posts, (PostQuery.select (PostQuery.wantedWithin c lookup.usersByUsername r []
        ids)).sent))
      (fun ids => s.readPosts (PostQuery.wantedWithin c lookup.usersByUsername r [] ids))).2 :=
    congrArg Prod.snd (searchPosts_outcome hask hbuild)
  rw [houtcome, outcome_of_never hcancel]
  split_ifs
  · rfl
  cases hanswer : s.readPosts (PostQuery.wantedWithin c lookup.usersByUsername r [] _) with
  | ok rows =>
    have hmem : x ∈ PostQuery.wantedConditions c lookup.usersByUsername r [] :=
      List.mem_append_right _ (Option.mem_toList.mpr hx)
    obtain rfl : rows = [] := PageQuery.read_eq_nil hanswer (List.mem_append_left _ hmem)
      fun p => meetsOverlong_textCondition? h hlong hx s.userIds p
    rfl
  | error e =>
    cases e with
    | store message => rfl
    | integerOverflow => exact absurd hanswer (Store.readPosts_ne_overflow hdates hpage)

/-- A search for one thing, and nothing else, shows the posts that match it, or none where its pattern
is too long. -/
theorem showsPosts_ofNeedles (h : r.Seeks (n :: rest) ∨ r.LeavesOut (n :: rest))
    (hrest : rest.length ≤ 1) (hfirst : n.Fits → ∀ m ∈ rest, m.Fits) (hfilters : r.hasFilters = false)
    (hscope : r.searchWithoutUserId = false ∧ r.includeDeletedChannels = false)
    (hcancel : c.cancellation = .never) :
    s.ShowsPosts lookup c [r] (if n.Fits then (s.openPosts c.userId c.teamId).filter fun p =>
      (Tokens.sought (MergedText.ofRequests [r])).Match r.orTerms p.message.lower else []) := by
  have hdates : r.DatesFit c.now := by
    obtain ⟨hon, hafter, hbefore⟩ := SearchRequest.dates_of_not_hasFilters hfilters
    refine ⟨?_, ⟨absurd hon, fun _ => absurd hafter, fun _ => absurd hbefore⟩⟩
    rintro (h | h | h)
    · exact absurd hon h
    · exact absurd hafter h
    · exact absurd hbefore h
  split_ifs with hfits
  · rw [← Store.foundPosts_ofText hfilters hscope]
    apply showsPosts_found
    · exact inPostLimits_ofNeedles h hrest (List.forall_mem_cons.mpr ⟨hfits, hfirst hfits⟩) hdates
        hcancel
    · rintro ⟨hnothing, -⟩
      exact not_askNothing_ofNeedles h hnothing
  · refine ⟨[], List.Perm.refl _, List.Pairwise.nil, fun page hpage => ?_⟩
    have hempty : (searchPosts s.reader lookup { c with page } [r]).result =
        .ok { c with page }.emptyPage := searchPosts_of_not_fits h hfits hdates hcancel hpage
    rw [hempty, List.drop_nil, List.take_nil]
    rfl

end OneThing

namespace Store

/-- The posts that a word in the search box is looked for in and found. -/
def postsWithWord (s : Store) (user team w : Text) : List Post :=
  (s.openPosts user team).filter fun p => ∃ n ∈ Needle.ofSearched w, n.FoundIn p.message.lower

def postsWithoutWord (s : Store) (user team w : Text) : List Post :=
  (s.openPosts user team).filter fun p => ∀ n ∈ Needle.ofWord w, ¬ n.FoundIn p.message.lower

end Store

theorem shown_once (hw : SearchBox.IsTypedWord w) {p : Post} {user team : Text}
    (hp : p ∈ s.openPosts user team) :
    if w.head? = some '#' then
      ¬ (p ∈ s.postsWithWord user team w ∧ p ∈ s.postsWithoutWord user team w) ∧
      (p ∉ s.postsWithWord user team w ∧ p ∉ s.postsWithoutWord user team w ↔
        (Tokens.plain w).drop 1 <:+: p.message.lower ∧ ¬ Tokens.plain w <:+: p.message.lower)
    else Xor (p ∈ s.postsWithWord user team w) (p ∈ s.postsWithoutWord user team w) := by
  have hwith : p ∈ s.postsWithWord user team w ↔
      ∃ n ∈ Needle.ofSearched w, n.FoundIn p.message.lower := by
    rw [Store.postsWithWord, List.mem_filter, decide_eq_true_eq, and_iff_right hp]
  have hwithout : p ∈ s.postsWithoutWord user team w ↔
      ∀ n ∈ Needle.ofWord w, ¬ n.FoundIn p.message.lower := by
    rw [Store.postsWithoutWord, List.mem_filter, decide_eq_true_eq, and_iff_right hp]
  rw [hwith, hwithout, Needle.ofSearched]
  split_ifs with htag
  · have hone : (∃ n ∈ [Needle.within (Tokens.plain w)], n.FoundIn p.message.lower) ↔
        Tokens.plain w <:+: p.message.lower := by
      simp [Needle.FoundIn]
    have hboth : (∀ n ∈ Needle.ofWord w, ¬ n.FoundIn p.message.lower) ↔
        ¬ Tokens.plain w <:+: p.message.lower ∧
          ¬ (Tokens.plain w).drop 1 <:+: p.message.lower := by
      rw [Needle.ofWord_of_tag hw htag]
      simp [Needle.FoundIn]
    rw [hone, hboth]
    tauto
  · have hnone : (∀ n ∈ Needle.ofWord w, ¬ n.FoundIn p.message.lower) ↔
        ¬ ∃ n ∈ Needle.ofWord w, n.FoundIn p.message.lower := by
      simp only [not_exists, not_and]
    rw [hnone]
    by_cases hfound : ∃ n ∈ Needle.ofWord w, n.FoundIn p.message.lower
    · exact Or.inl ⟨hfound, not_not.mpr hfound⟩
    · exact Or.inr ⟨hfound, hfound⟩

/-- A word in the search box shows the posts that it is found in, or none where it is too long. -/
theorem showsPosts_word (hw : SearchBox.IsTypedWord w) (hcancel : c.cancellation = .never)
    (offset : Int) :
    s.ShowsPosts lookup c (SearchBox.parse w offset)
      (if ∀ n ∈ Needle.ofWord w, n.Fits then s.postsWithWord c.userId c.teamId w else []) := by
  obtain ⟨n, more, hsearched, hlength, hfirst, hfits⟩ := Needle.exists_ofSearched hw
  have hseeks := SearchBox.seeks_word hw offset
  rw [SearchBox.parse_word hw, if_congr hfits rfl rfl, Store.postsWithWord]
  simp only [← hseeks.match_iff]
  exact showsPosts_ofNeedles (Or.inl (hsearched ▸ hseeks)) hlength hfirst rfl ⟨rfl, rfl⟩ hcancel

/-- A dash before a word shows the posts that the word is not found in, or none where it is too long. -/
theorem showsPosts_dash (hw : SearchBox.IsTypedWord w)
    (hbare : (literal Tokens.messageEscape w).head? ≠ some '-') (hcancel : c.cancellation = .never)
    (offset : Int) :
    s.ShowsPosts lookup c (SearchBox.parse ('-' :: w) offset)
      (if ∀ n ∈ Needle.ofWord w, n.Fits then s.postsWithoutWord c.userId c.teamId w else []) := by
  obtain ⟨n, rest, hword, hlength, hfirst, hfits⟩ := Needle.exists_ofWord hw
  have hleaves := SearchBox.leavesOut_dash hw hbare offset
  rw [SearchBox.parse_dash hw, if_congr hfits rfl rfl, Store.postsWithoutWord]
  simp only [← hleaves.match_iff]
  exact showsPosts_ofNeedles (Or.inr (hword ▸ hleaves)) hlength hfirst rfl ⟨rfl, rfl⟩ hcancel

end ChannelSearch
