import ChannelSearch.Proofs.MergedTokens
import ChannelSearch.Proofs.PieceOrder
import ChannelSearch.Proofs.SearchFailures
import ChannelSearch.Proofs.SearchShapes
import ChannelSearch.Proofs.TokenCounts

/-!
The order of the words in the search box. Main statement: a search of files returns the same page for
the pieces of a text in any order, and so does a search of posts when the store accepts the height of
both queries or of neither.
-/

namespace ChannelSearch

open Text Tokens

section Texts

variable {ts us : List Text}

/-- The phrases and words that files are searched for are those of each text. -/
theorem extractPhrases_join (hpairs : ∀ t ∈ ts, PairsUp t) :
    (extractPhrases (join [' '] ts)).1 = ts.flatMap (fun t => (extractPhrases t).1) ∧
      (extractPhrases (join [' '] ts)).2.words = ts.flatMap fun t => (extractPhrases t).2.words := by
  induction ts with
  | nil => simp
  | cons t ts ih =>
    obtain ⟨ht, hts⟩ := List.forall_mem_cons.mp hpairs
    obtain ⟨hphrases, hwords⟩ := ih hts
    by_cases hlast : ts = []
    · simp [hlast]
    · rw [join_cons hlast, List.append_assoc, List.singleton_append, extractPhrases_append ht,
        extractPhrases_cons (by decide), List.flatMap_cons, List.flatMap_cons, ← hphrases, ← hwords]
      exact ⟨rfl, words_append_blank (by decide) _ _⟩

theorem Condition.fileTokens_perm (h : ts.Perm us) (hpairs : ∀ t ∈ ts, PairsUp t) :
    (fileTokens (join [' '] ts)).Perm (fileTokens (join [' '] us)) := by
  obtain ⟨hphrases, hwords⟩ := extractPhrases_join hpairs
  obtain ⟨hphrases', hwords'⟩ := extractPhrases_join fun u hu => hpairs u (h.mem_iff.mpr hu)
  unfold fileTokens
  dsimp only
  rw [hphrases, hwords, hphrases', hwords']
  exact (h.flatMap_right _).append (h.flatMap_right _)

end Texts

namespace Condition

variable {C : Type} {users : UserQuery → List Text} {name : C → Text}

/-- Tokens in another order ask the same. -/
theorem alike_ofTokens?_perm {t u : Tokens} (hphrases : t.phrases.Perm u.phrases)
    (hterms : t.terms.Perm u.terms) (hexcludedPhrases : t.excludedPhrases.Perm u.excludedPhrases)
    (hexcludedTerms : t.excludedTerms.Perm u.excludedTerms) (htags : t.hashtags.Perm u.hashtags)
    (column : C) :
    Alike users name (ofTokens? t column false).toList (ofTokens? u column false).toList ∧
      (ofTokens? t column false).isSome = (ofTokens? u column false).isSome := by
  have hincluded : (inclusions t column).Perm (inclusions u column) :=
    ((htags.filterMap _).append (hphrases.filterMap _)).append (hterms.filterMap _)
  have hexcluded : (exclusions t column).Perm (exclusions u column) :=
    (hexcludedTerms.filterMap _).append (hexcludedPhrases.filterMap _)
  have hnone (t : Tokens) : ofTokens? t column false = none ↔
      inclusions t column = [] ∧ exclusions t column = [] := by
    rw [ofTokens?_eq_none_iff, ← eq_nil_of_opposes (opposes_opposites t column)]
    rfl
  have hask : Alike users name (ofTokens? t column false).toList _ := alike_ofTokens? t column
  constructor
  · exact (hask.trans (alike_of_perm (hincluded.append hexcluded) hask.right)).trans
      (alike_ofTokens? u column).symm
  · rw [Option.isSome_eq_isSome, hnone, hnone, eq_nil_iff_of_perm hincluded,
      eq_nil_iff_of_perm hexcluded]

/-- All tokens of files that ask for something are as high. -/
theorem heights_containsAny? {columns : List C} {token : Text} {x : Condition C}
    (h : containsAny? columns token = some x) :
    x.operandHeights = [chainHeight (columns.map fun _ => 4)] := by
  unfold containsAny? at h
  dsimp only at h
  split_ifs at h
  have htests := heights_tests (columns.map fun c => Sql.Test.like (.lower c) fileEscape
    ('%' :: (escapeWildcards ((token.trim (· = '"')).lower) [fileEscape] ++ ['%'])))
  rw [List.map_map, List.map_map] at htests
  rw [← Option.some.inj h, operandHeights]
  exact congrArg (fun hs => [chainHeight hs]) htests

/-- Texts on files with the same tokens in another order ask the same, and are as high. -/
theorem alike_ofFileTexts?_perm {columns : List C} {terms terms' excluded excluded' : Text}
    (hterms : (fileTokens terms).Perm (fileTokens terms'))
    (hexcluded : (fileTokens excluded).Perm (fileTokens excluded')) :
    Alike users name (ofFileTexts? columns terms excluded false).toList
        (ofFileTexts? columns terms' excluded' false).toList ∧
      AsHigh (ofFileTexts? columns terms excluded false).toList
        (ofFileTexts? columns terms' excluded' false).toList ∧
      (ofFileTexts? columns terms excluded false).isSome =
        (ofFileTexts? columns terms' excluded' false).isSome := by
  have hin : (fileConditions columns terms).Perm (fileConditions columns terms') :=
    hterms.filterMap _
  have hex : (fileExclusions columns excluded).Perm (fileExclusions columns excluded') :=
    hexcluded.filterMap _
  have hask : Alike users name (ofFileTexts? columns terms excluded false).toList _ :=
    alike_ofFileTexts? columns terms excluded
  refine ⟨?_, ?_, ?_⟩
  · exact (hask.trans (alike_of_perm (hin.append hex) hask.right)).trans
      (alike_ofFileTexts? columns terms' excluded').symm
  · have hplain : ∀ x ∈ fileConditions columns terms,
        x.operandHeights = [chainHeight (columns.map fun _ => 4)] := by
      intro x hx
      obtain ⟨token, -, hx⟩ := List.mem_filterMap.mp hx
      exact heights_containsAny? hx
    have hinHigh : AsHigh (fileConditions columns terms) (fileConditions columns terms') :=
      asHigh_of_perm hin hplain
    have hnegated : ∀ x ∈ fileExclusions columns excluded,
        x.operandHeights = [chainHeight [chainHeight (columns.map fun _ => 4)] + 1] := by
      intro x hx
      obtain ⟨token, -, hx⟩ := List.mem_filterMap.mp hx
      obtain ⟨y, hy, rfl⟩ := Option.map_eq_some_iff.mp hx
      rw [operandHeights, heights_containsAny? hy]
    have hexHigh : AsHigh (fileExclusions columns excluded) (fileExclusions columns excluded') :=
      asHigh_of_perm hex hnegated
    rw [ofFileTexts?_eq, ofFileTexts?_eq]
    refine asHigh_group? .all ((asHigh_group? .all hinHigh (eq_nil_iff_of_perm hin)).append
      (asHigh_group? .all hexHigh (eq_nil_iff_of_perm hex))) ?_
    rw [List.append_eq_nil_iff, List.append_eq_nil_iff, Option.toList_eq_nil_iff,
      Option.toList_eq_nil_iff, Option.toList_eq_nil_iff, Option.toList_eq_nil_iff]
    simp only [Tokens.group?_eq_none, if_false, Bool.false_eq_true, eq_nil_iff_of_perm hin,
      eq_nil_iff_of_perm hex]
  · have hnone (terms excluded : Text) : ofFileTexts? columns terms excluded false = none ↔
        fileConditions columns terms = [] ∧ fileExclusions columns excluded = [] := by
      rw [ofFileTexts?_eq_none_iff, fileExclusions_eq_map, List.map_eq_nil_iff]
    rw [Option.isSome_eq_isSome, hnone, hnone, eq_nil_iff_of_perm hin, eq_nil_iff_of_perm hex]

end Condition

namespace SearchBox.Contents

variable {tokens tokens' : List Token}

/-- Pieces in another order make requests with the same filters. -/
theorem exists_firsts (hperm : tokens.Perm tokens') (hdates : NamesDatesOnce tokens)
    (hsome : (ofTokens tokens).isEmpty = false) (offset : Int) :
    ∃ first rest first' rest', (ofTokens tokens).requests offset = first :: rest ∧
      (ofTokens tokens').requests offset = first' :: rest' ∧ first.SameFilters first' ∧
        first.orTerms = false := by
  have hsame := ofTokens_perm hperm hdates
  obtain ⟨first, rest, hrequests, hfirst⟩ := exists_first _ offset hsome
  obtain ⟨first', rest', hrequests', hfirst'⟩ := exists_first _ offset (hsame.isEmpty.symm.trans hsome)
  refine ⟨first, rest, first', rest', hrequests, hrequests', ?_, ?_⟩
  · exact (hfirst.trans (hsame.filters.at_offset offset)).trans hfirst'.symm
  · exact hfirst.orTerms.trans (holdsFilters_ofTokens tokens).orTerms

/-- The texts on posts that pieces in another order make ask the same. -/
theorem alike_onPosts (users : UserQuery → List Text) (hperm : tokens.Perm tokens')
    (hcomplete : ∀ token ∈ tokens, token.Complete) (hdates : NamesDatesOnce tokens) (offset : Int) :
    let text := PostQuery.textCondition? ((ofTokens tokens).requests offset) false
    let text' := PostQuery.textCondition? ((ofTokens tokens').requests offset) false
    Condition.Alike users PostColumn.name text.toList text'.toList ∧ text.isSome = text'.isSome := by
  have hsame := ofTokens_perm hperm hdates
  have hcomplete' : ∀ token ∈ tokens', token.Complete :=
    fun token h => hcomplete token (hperm.mem_iff.mpr h)
  dsimp only
  rw [PostQuery.textCondition?_tokens, PostQuery.textCondition?_tokens, tokens_ofTokens hcomplete,
    tokens_ofTokens hcomplete']
  refine Condition.alike_ofTokens?_perm ?_ ?_ ?_ ?_ ?_ PostColumn.message
  · exact hsame.terms.flatMap_right _
  · exact hsame.terms.flatMap_right _
  · exact hsame.excluded.flatMap_right _
  · exact hsame.excluded.flatMap_right _
  · exact hsame.hashtags.flatMap_right _

/-- The words that files are searched for are those of the sorted words and hashtags. -/
theorem words_ofTokens (hcomplete : ∀ token ∈ tokens, token.Complete) (offset : Int) :
    FileQuery.words ((ofTokens tokens).requests offset) =
      join [' '] ((ofTokens tokens).terms ++ (ofTokens tokens).hashtags) := by
  have hne {ts : List Text} (h : ∀ t ∈ ts, t ≠ []) (hts : ts ≠ []) : join [' '] ts ≠ [] := by
    obtain ⟨t, ts, rfl⟩ := List.exists_cons_of_ne_nil hts
    have ht := h t List.mem_cons_self
    by_cases hlast : ts = []
    · rwa [hlast, join_singleton]
    · rw [join_cons hlast]
      simp [ht]
  have hterms : ∀ t ∈ (ofTokens tokens).terms, t ≠ [] := by
    intro t ht
    obtain ⟨c, hc, -⟩ :=
      (isSolid_of_mem (fun token h => (hcomplete token h).wellFormed) (Or.inl ht)).head
    exact List.ne_nil_of_mem (List.mem_of_mem_head? hc)
  have htags : ∀ t ∈ (ofTokens tokens).hashtags, t ≠ [] :=
    fun t ht => (hcomplete _ (exists_word_of_mem_hashtags ht)).1
  rw [FileQuery.words, merged_ofTokens fun token h => (hcomplete token h).wellFormed]
  dsimp only
  by_cases hnoTerms : (ofTokens tokens).terms = []
  · by_cases hnoTags : (ofTokens tokens).hashtags = []
    · rw [hnoTerms, hnoTags]
      rfl
    · rw [hnoTerms, join_nil, List.nil_append,
        List.filter_cons_of_neg (by simp), List.filter_cons_of_pos (by simp [hne htags hnoTags]),
        List.filter_nil, join_singleton]
  · by_cases hnoTags : (ofTokens tokens).hashtags = []
    · rw [hnoTags, join_nil, List.append_nil,
        List.filter_cons_of_pos (by simp [hne hterms hnoTerms]), List.filter_cons_of_neg (by simp),
        List.filter_nil, join_singleton]
    · rw [join_append hnoTerms hnoTags, List.filter_cons_of_pos (by simp [hne hterms hnoTerms]),
        List.filter_cons_of_pos (by simp [hne htags hnoTags]), List.filter_nil,
        join_cons (by simp), join_singleton]

/-- The texts on files that pieces in another order make ask the same, and are as high. -/
theorem alike_onFiles (users : UserQuery → List Text) (hperm : tokens.Perm tokens')
    (hcomplete : ∀ token ∈ tokens, token.Complete) (hdates : NamesDatesOnce tokens) (offset : Int) :
    let text := FileQuery.textCondition? ((ofTokens tokens).requests offset) false
    let text' := FileQuery.textCondition? ((ofTokens tokens').requests offset) false
    Condition.Alike users FileColumn.text text.toList text'.toList ∧
      Condition.AsHigh text.toList text'.toList ∧ text.isSome = text'.isSome := by
  have hsame := ofTokens_perm hperm hdates
  have hcomplete' : ∀ token ∈ tokens', token.Complete :=
    fun token h => hcomplete token (hperm.mem_iff.mpr h)
  dsimp only
  rw [FileQuery.textCondition?_words, FileQuery.textCondition?_words, words_ofTokens hcomplete,
    words_ofTokens hcomplete', merged_ofTokens fun token h => (hcomplete token h).wellFormed,
    merged_ofTokens fun token h => (hcomplete' token h).wellFormed]
  refine Condition.alike_ofFileTexts?_perm
    (Condition.fileTokens_perm (hsame.terms.append hsame.hashtags) fun t ht => ?_)
    (Condition.fileTokens_perm hsame.excluded fun t ht => ?_)
  · rcases List.mem_append.mp ht with ht | ht
    · exact pairsUp_of_mem hcomplete (Or.inl ht)
    · exact pairsUp_of_mem hcomplete (Or.inr (Or.inr ht))
  · exact pairsUp_of_mem hcomplete (Or.inr (Or.inl ht))

/-- Pieces that are words are sorted into the words. -/
theorem ofTokens_words {ts : List Text}
    (h : ∀ t ∈ ts, add {} t = { terms := [t] }) :
    ofTokens (ts.map Token.word) = { terms := ts } := by
  have hadd (c : Contents) {t : Text} (ht : add {} t = { terms := [t] }) :
      c.add t = { c with terms := c.terms ++ [t] } := by
    have hflag : flagOf? t = none := by
      by_contra hflag
      obtain ⟨found, hfound⟩ := Option.ne_none_iff_exists'.mp hflag
      simp [add, hfound] at ht
    obtain ⟨hterms, hexcluded, htags⟩ := add_words c t
    have hfilters := filters_add c t
    rw [hflag] at hfilters
    rw [ht] at hterms hexcluded htags
    calc c.add t
        = ⟨(c.add t).terms, (c.add t).excluded, (c.add t).hashtags, (c.add t).filters⟩ := rfl
      _ = { c with terms := c.terms ++ [t] } := by
        rw [hterms, hexcluded, htags, hfilters, List.append_nil, List.append_nil]
  have hrun (c : Contents) : (ts.map Token.word).foldl (fun c token => c.add token.text) c =
      { c with terms := c.terms ++ ts } := by
    induction ts generalizing c with
    | nil => simp
    | cons t ts ih =>
      obtain ⟨ht, hts⟩ := List.forall_mem_cons.mp h
      rw [List.map_cons, List.foldl_cons, Token.text, hadd c ht, ih hts, List.append_assoc]
      rfl
  exact hrun {}

theorem requests_words {ts : List Text} (hne : ts ≠ []) (offset : Int) :
    requests { terms := ts } offset =
      [{ terms := join [' '] ts, timeZoneOffset := offset }] := by
  obtain ⟨t, ts, rfl⟩ := List.exists_cons_of_ne_nil hne
  rfl

end SearchBox.Contents

open SearchBox

/-- The pieces of a search box text in another order find the same page of files, and the same page of
posts unless the store refuses one of the two queries for its height, which takes many pieces. -/
theorem searches_of_permuted_pieces (s : Store) (lookup : Lookup) (c : SearchContext) (offset : Int)
    {tokens tokens' : List Token} (hperm : tokens.Perm tokens')
    (hcomplete : ∀ token ∈ tokens, token.Complete) (hdates : NamesDatesOnce tokens) :
    let requests := parse (join [' '] (tokens.map Token.text)) offset
    let requests' := parse (join [' '] (tokens'.map Token.text)) offset
    let fits := PostQuery.FitsHeight c lookup.usersByUsername
    (searchFiles s.reader lookup c requests).result = (searchFiles s.reader lookup c requests').result ∧
      ((fits requests ↔ fits requests') →
        (searchPosts s.reader lookup c requests).result =
          (searchPosts s.reader lookup c requests').result) ∧
      (tokens.length ≤ 985 → fits requests ∧ fits requests') := by
  have hcomplete' : ∀ token ∈ tokens', token.Complete :=
    fun token h => hcomplete token (hperm.mem_iff.mpr h)
  dsimp only [parse]
  rw [ofText_join hcomplete, ofText_join hcomplete', ← and_assoc]
  refine ⟨?_, fun hfew => ⟨?_, ?_⟩⟩
  · by_cases hempty : (Contents.ofTokens tokens).isEmpty = true
    · have hempty' := (Contents.ofTokens_perm hperm hdates).isEmpty.symm.trans hempty
      rw [Contents.requests, Contents.requests, hempty, hempty']
      exact ⟨rfl, fun _ => rfl⟩
    · obtain ⟨first, rest, first', rest', hrequests, hrequests', hfilters, hall⟩ :=
        Contents.exists_firsts hperm hdates (Bool.not_eq_true _ ▸ hempty) offset
      have hall' : first'.orTerms = false := hfilters.orTerms.symm.trans hall
      have hfiles := Contents.alike_onFiles s.userIds hperm hcomplete hdates offset
      have hposts := Contents.alike_onPosts s.userIds hperm hcomplete hdates offset
      rw [hrequests, hrequests'] at hfiles hposts ⊢
      obtain ⟨hfiles, hhigh, hfilesSome⟩ := hfiles
      obtain ⟨hposts, hpostsSome⟩ := hposts
      refine ⟨searchFiles_alike s lookup hfilters ?_ ?_ ?_,
        searchPosts_alike s lookup hfilters ?_ ?_⟩
      all_goals rwa [hall, hall']
  · exact PostQuery.fitsHeight_of_count ((Contents.count_tokens_le hcomplete offset).trans hfew) c _
  · rw [hperm.length_eq] at hfew
    exact PostQuery.fitsHeight_of_count ((Contents.count_tokens_le hcomplete' offset).trans hfew) c _

/-- A word, a mention, a phrase to leave out, a hashtag and an author, in two orders. -/
theorem searches_of_permuted_pieces_ship :
    let s : Store :=
      { sampleStore with
        posts :=
          [{ id := "p1".toList, channelId := "C1".toList, userId := "u1".toList
             message := "Ship it @bob #now".toList, createAt := 1000 }] }
    let c : SearchContext := { userId := "u1".toList, teamId := "T1".toList, now := 0 }
    let tokens : List Token :=
      [.word "ship".toList, .word "@bob".toList, .phrase true "not yet".toList, .word "#now".toList,
        .word "from:u1".toList]
    let requests := parse (join [' '] (tokens.map Token.text)) 0
    let requests' := parse (join [' '] (tokens.reverse.map Token.text)) 0
    (searchPosts s.reader {} c requests).result.map (fun page => page.rows.map PostRow.id) =
        .ok ["p1".toList] ∧
      (searchPosts s.reader {} c requests).result = (searchPosts s.reader {} c requests').result ∧
      (searchFiles s.reader {} c requests).result = (searchFiles s.reader {} c requests').result := by
  intro s c tokens requests requests'
  obtain ⟨hfiles, hposts, hfew⟩ := searches_of_permuted_pieces s {} c 0
    (tokens.reverse_perm.symm) (by decide +kernel) (by decide +kernel)
  have hfits := hfew (by decide)
  exact ⟨by decide +kernel, hposts (iff_of_true hfits.1 hfits.2), hfiles⟩

/-- The tokens of words, each read on its own. -/
def Tokens.ofWords (ts : List Text) : Tokens :=
  { phrases := ts.flatMap fun t => phrasesOf [t]
    terms := ts.flatMap fun t => wordsOf [t] }

section Words

variable {ts : List Text}

theorem parse_words (hcomplete : ∀ t ∈ ts, (Token.word t).Complete)
    (hwords : ∀ t ∈ ts, Contents.add {} t = { terms := [t] }) (hne : ts ≠ []) (offset : Int) :
    parse (join [' '] ts) offset = [{ terms := join [' '] ts, timeZoneOffset := offset }] := by
  have hjoin : (ts.map Token.word).map Token.text = ts := by
    rw [List.map_map]
    exact List.map_id _
  have htext := ofText_join (List.forall_mem_map.mpr hcomplete)
  rw [hjoin] at htext
  rw [parse, htext, Contents.ofTokens_words hwords, Contents.requests_words hne]

theorem textCondition?_ofWords (hcomplete : ∀ t ∈ ts, (Token.word t).Complete)
    (hwords : ∀ t ∈ ts, Contents.add {} t = { terms := [t] }) (hne : ts ≠ []) (offset : Int) :
    PostQuery.textCondition? [{ terms := join [' '] ts, timeZoneOffset := offset }] false =
      Condition.ofTokens? (.ofWords ts) PostColumn.message false := by
  have htokens := Contents.tokens_ofTokens (List.forall_mem_map.mpr hcomplete) offset
  rw [Contents.ofTokens_words hwords, Contents.requests_words hne] at htokens
  rw [PostQuery.textCondition?_tokens, htokens]
  rfl

end Words

/-- A search for words that is not cancelled reads the posts with the condition of the words. -/
theorem searchPosts_words (s : Store) {c : SearchContext} (hcancel : c.cancellation = .never)
    (ts : List Text) (offset : Int) (hcomplete : ∀ t ∈ ts, (Token.word t).Complete)
    (hwords : ∀ t ∈ ts, Contents.add {} t = { terms := [t] })
    (hsome : (Condition.ofTokens? (.ofWords ts) PostColumn.message false).isSome = true) :
    let ids := s.channelIds (.build c.userId c.teamId {} false)
    (searchPosts s.reader {} c (parse (join [' '] ts) offset)).result =
      if ids = [] then .ok c.emptyPage
      else softened c.emptyPage ((s.readPosts
        { conditions :=
            [.test (.isZero .deleteAt),
              .test (.unlike (.column .kind) messageEscape systemKindPattern)] ++
              (Condition.ofTokens? (.ofWords ts) PostColumn.message false).toList ++
              [.test (.oneOfJson .channelId ids)]
          limit := c.limit
          offset := pageOffset c.pageNumber c.limit }).map (c.livePage PostRow.deleteAt)) := by
  let first : SearchRequest := { terms := join [' '] ts, timeZoneOffset := offset }
  have hne : ts ≠ [] := by
    rintro rfl
    cases hsome
  have htext : PostQuery.textCondition? [first] first.orTerms =
      Condition.ofTokens? (.ofWords ts) PostColumn.message false :=
    textCondition?_ofWords hcomplete hwords hne offset
  have hask : PostQuery.Asks [first] := by
    rw [PostQuery.asks_cons, htext]
    exact Or.inl hsome
  have hdates : first.DatesFit c.now :=
    ⟨fun h => absurd h (by simp [first]), ⟨fun h => absurd rfl h, fun _ h => absurd rfl h,
      fun _ h => absurd rfl h⟩⟩
  have hwanted : PostQuery.wanted c false first [] =
      { conditions :=
          [.test (.isZero .deleteAt),
            .test (.unlike (.column .kind) messageEscape systemKindPattern)] ++
            (Condition.ofTokens? (.ofWords ts) PostColumn.message false).toList
        limit := c.limit
        offset := pageOffset c.pageNumber c.limit } := by
    rw [PostQuery.wanted, PostQuery.wantedConditions, htext]
    rfl
  have hoffered : (_, (searchPosts s.reader {} c [first]).result) = _ :=
    searchPosts_outcome hask (PostQuery.build?_of_asks hdates hask false)
  rw [hwanted] at hoffered
  dsimp only
  rw [parse_words hcomplete hwords hne]
  exact (congrArg Prod.snd hoffered).trans (outcome_of_never hcancel)

/-- A mention ahead of 993 words makes the query too high for the store, and behind them it does not. -/
theorem mention_ahead_of_many_words_is_refused :
    let s : Store :=
      { sampleStore with
        posts :=
          [{ id := "p1".toList, channelId := "C1".toList, userId := "u1".toList
             message := "a @b".toList, createAt := 1000 }] }
    let c : SearchContext := { userId := "u1".toList, teamId := "T1".toList, now := 0 }
    let words := List.replicate 993 (Token.word "a".toList)
    let mention := Token.word "@b".toList
    let found := fun tokens : List Token =>
      (searchPosts s.reader {} c (parse (join [' '] (tokens.map Token.text)) 0)).result.map
        fun page => page.rows.map PostRow.id
    (mention :: words).Perm (words ++ [mention]) ∧ (∀ token ∈ mention :: words, token.Complete) ∧
      NamesDatesOnce (mention :: words) ∧ found (mention :: words) = .ok [] ∧
        found (words ++ [mention]) = .ok ["p1".toList] := by
  intro s c words mention found
  refine ⟨(List.perm_append_singleton mention words).symm, by decide +kernel, by decide +kernel, ?_, ?_⟩
  · have htexts : (mention :: words).map Token.text = "@b".toList :: List.replicate 993 "a".toList :=
      congrArg _ (List.map_replicate ..)
    have hresult := searchPosts_words s (c := c) rfl ("@b".toList :: List.replicate 993 "a".toList) 0
      (by decide +kernel) (by decide +kernel) (by decide +kernel)
    rw [← htexts] at hresult
    refine (congrArg (Except.map _) hresult).trans ?_
    decide +kernel
  · have htexts : (words ++ [mention]).map Token.text =
        List.replicate 993 "a".toList ++ ["@b".toList] :=
      List.map_append.trans (congrArg (· ++ _) (List.map_replicate ..))
    have hresult := searchPosts_words s (c := c) rfl (List.replicate 993 "a".toList ++ ["@b".toList]) 0
      (by decide +kernel) (by decide +kernel) (by decide +kernel)
    rw [← htexts] at hresult
    refine (congrArg (Except.map _) hresult).trans ?_
    decide +kernel

end ChannelSearch
