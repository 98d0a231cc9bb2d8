import ChannelSearch.Proofs.BuiltQueries
import ChannelSearch.Proofs.MergedTokens
import ChannelSearch.Proofs.StatementShapes

/-!
The shapes of the queries that searches build. Main statements: they are given by the flags of a
search, by which of its dates are set, by the lengths of its lists, and by the kinds of its tokens.
-/

namespace ChannelSearch

/-- What a token asks of a message: one pattern, or a word with and without its mark. -/
inductive TokenKind where
  | plain
  | marked
deriving DecidableEq, Repr

namespace Tokens

/-- The kind of a word; none when it asks for nothing. -/
def termKind? (term : Text) : Option TokenKind :=
  if isBlankToken term then none else if isMarked term then some .marked else some .plain

def phraseKind? (phrase : Text) : Option TokenKind :=
  if (phrase.trim (· = '"')).isBlankText then none else some .plain

def hashtagKind? (tag : Text) : Option TokenKind :=
  if tag.head? = some '#' && !isBlankToken tag then some .plain else none

/-- The kinds of the tokens that a message should match, in the order of their conditions. -/
def includedKinds (t : Tokens) : List TokenKind :=
  t.hashtags.filterMap hashtagKind? ++ t.phrases.filterMap phraseKind? ++ t.terms.filterMap termKind?

/-- The kinds of the tokens that a message should not match. -/
def excludedKinds (t : Tokens) : List TokenKind :=
  t.excludedTerms.filterMap (fun term => termKind? (term.dropLeading '-')) ++
    t.excludedPhrases.filterMap phraseKind?

end Tokens

namespace Condition

open Tokens

variable {C : Type}

/-- The shape of the condition of an included token. -/
def includedShape (x : Sql.Operand C) : TokenKind → Condition C
  | .plain => .test (.like x messageEscape [])
  | .marked => .group .any [.test (.like x messageEscape []), .test (.like x messageEscape [])]

def excludedShape (x : Sql.Operand C) : TokenKind → Condition C
  | .plain => .test (.unlike x messageEscape [])
  | .marked => .group .all [.test (.unlike x messageEscape []), .test (.unlike x messageEscape [])]

/-- Conditions that are made one by one have the shapes of the kinds of what they are made of. -/
theorem map_shape_filterMap {f : Text → Option (Condition C)} {kind : Text → Option TokenKind}
    {g : TokenKind → Condition C} (h : ∀ t, (f t).map shape = (kind t).map g) (ts : List Text) :
    (ts.filterMap f).map shape = (ts.filterMap kind).map g := by
  rw [List.map_filterMap, List.map_filterMap]
  exact List.filterMap_congr fun t _ => h t

theorem shape_ofTerm (op : Connective) {test : Text → Bool → Condition C} {one : Condition C}
    (htest : ∀ t middle, (test t middle).shape = one) {g : TokenKind → Condition C}
    (hplain : g .plain = one) (hmarked : g .marked = .group op [one, one]) (term : Text) :
    (if isBlankToken term then none
      else if isMarked term then some (.group op [test term true, test (term.drop 1) true])
      else some (test term false) : Option (Condition C)).map shape = (termKind? term).map g := by
  unfold termKind?
  split_ifs
  · rfl
  · rw [Option.map_some, Option.map_some, hmarked, shape, shapes_eq, List.map_cons,
      List.map_singleton, htest, htest]
  · rw [Option.map_some, Option.map_some, hplain, htest]

theorem shape_ofPhrase {test : Text → Condition C} {g : TokenKind → Condition C}
    (htest : ∀ t, (test t).shape = g .plain) (phrase : Text) :
    (if (phrase.trim (· = '"')).isBlankText then none
      else some (test (phrase.trim (· = '"'))) : Option (Condition C)).map shape =
        (phraseKind? phrase).map g := by
  unfold phraseKind?
  split_ifs
  · rfl
  · rw [Option.map_some, Option.map_some, htest]

theorem shape_like (x : Sql.Operand C) (term : Text) (middle : Bool) :
    (like x term middle).shape = .test (.like x messageEscape []) := by
  rw [like, shape]
  rfl

theorem shape_unlike (x : Sql.Operand C) (term : Text) (middle : Bool) :
    (unlike x term middle).shape = .test (.unlike x messageEscape []) := by
  rw [unlike, shape]
  rfl

theorem shape_group? (op : Connective) (xs : List (Condition C)) :
    (group? op xs).map shape = group? op (xs.map shape) := by
  cases xs with
  | nil => rfl
  | cons x xs =>
    unfold group?
    simp [shape, shapes_eq]

/-- The shape of the condition of tokens is given by their kinds. -/
theorem shape_ofTokens? (t : Tokens) (column : C) (orTerms : Bool) :
    (ofTokens? t column orTerms).map shape =
      match group? (if orTerms then .any else .all)
          (t.includedKinds.map (includedShape (.lower column))),
        group? .all (t.excludedKinds.map (excludedShape (.lower column))) with
      | some inclusion, some exclusion => some (.both inclusion exclusion)
      | some inclusion, none => some inclusion
      | none, exclusion => exclusion := by
  have hincluded : (ofHashtags (.lower column) t.hashtags ++ ofPhrases (.lower column) t.phrases ++
      ofTerms (.lower column) t.terms).map shape =
        t.includedKinds.map (includedShape (.lower column)) := by
    rw [includedKinds, List.map_append, List.map_append, List.map_append, List.map_append]
    congr 1
    · congr 1
      · refine map_shape_filterMap (fun tag => ?_) t.hashtags
        unfold hashtagKind?
        split_ifs
        · exact congrArg some (shape_like _ _ _)
        · rfl
      · refine map_shape_filterMap (fun phrase => ?_) t.phrases
        exact shape_ofPhrase (g := includedShape (.lower column))
          (fun phrase => shape_like _ phrase true) phrase
    · exact map_shape_filterMap (shape_ofTerm .any (shape_like _) rfl rfl) t.terms
  have hexcluded : (ofExcludedTerms (.lower column) t.excludedTerms ++
      ofExcludedPhrases (.lower column) t.excludedPhrases).map shape =
        t.excludedKinds.map (excludedShape (.lower column)) := by
    rw [excludedKinds, List.map_append, List.map_append]
    congr 1
    · exact map_shape_filterMap (fun term => shape_ofTerm .all (shape_unlike _) rfl rfl _)
        t.excludedTerms
    · refine map_shape_filterMap (fun phrase => ?_) t.excludedPhrases
      exact shape_ofPhrase (g := excludedShape (.lower column))
        (fun phrase => shape_unlike _ phrase true) phrase
  unfold ofTokens?
  dsimp only
  rw [← hincluded, ← hexcluded, ← shape_group?, ← shape_group?]
  generalize group? (if orTerms then .any else .all) _ = inclusion
  generalize group? .all _ = exclusion
  cases inclusion with
  | none => rfl
  | some x =>
    cases exclusion with
    | none => rfl
    | some y => rw [Option.map_some, shape, Option.map_some, Option.map_some]

/-- A token with something visible in it is looked for in files. -/
def asksOfFile (token : Text) : Bool :=
  !Text.isBlankText (escapeWildcards ((token.trim (· = '"')).lower) [fileEscape])

/-- The number of tokens of a text that a file should match. -/
def includedCount (terms : Text) : Nat := (fileTokens terms).countP asksOfFile

/-- The number of tokens of a text that a file should not match. -/
def excludedCount (excludedTerms : Text) : Nat :=
  (fileTokens excludedTerms).countP fun token => asksOfFile (token.dropLeading '-')

/-- The shape of the condition of a token on files. -/
def fileShape (columns : List C) : Condition C :=
  .group .any (columns.map fun c => .test (.like (.lower c) fileEscape []))

theorem shape_containsAny? (columns : List C) (token : Text) :
    (containsAny? columns token).map shape =
      if asksOfFile token then some (fileShape columns) else none := by
  unfold containsAny? asksOfFile
  dsimp only
  cases Text.isBlankText (escapeWildcards ((token.trim (· = '"')).lower) [fileEscape]) with
  | true => rfl
  | false =>
    have hone (c : C) (pattern : Text) : shape (.test (.like (.lower c) fileEscape pattern)) =
        .test (.like (.lower c) fileEscape []) := by
      rw [shape]
      rfl
    rw [if_neg Bool.false_ne_true, Option.map_some, shape, shapes_eq, List.map_map]
    simp only [Function.comp_def, hone]
    rfl

/-- Conditions of one shape, made of the members of a list that ask for something. -/
theorem map_shape_countP {f : Text → Option (Condition C)} {p : Text → Bool} {x : Condition C}
    (h : ∀ t, (f t).map shape = if p t then some x else none) (ts : List Text) :
    (ts.filterMap f).map shape = List.replicate (ts.countP p) x := by
  induction ts with
  | nil => rfl
  | cons t ts ih =>
    have ht := h t
    cases hp : p t with
    | true =>
      rw [hp, if_pos rfl] at ht
      obtain ⟨y, hy, hshape⟩ := Option.map_eq_some_iff.mp ht
      rw [List.filterMap_cons_some hy, List.map_cons, hshape, ih, List.countP_cons_of_pos hp,
        List.replicate_succ]
    | false =>
      rw [hp, if_neg Bool.false_ne_true, Option.map_eq_none_iff] at ht
      rw [List.filterMap_cons_none ht, ih, List.countP_cons_of_neg (by simp [hp])]

/-- The shape of the condition of texts on files is given by the numbers of their tokens. -/
theorem shape_ofFileTexts? (columns : List C) (terms excludedTerms : Text) (orTerms : Bool) :
    (ofFileTexts? columns terms excludedTerms orTerms).map shape =
      group? .all
        ((group? (if orTerms then .any else .all)
          (List.replicate (includedCount terms) (fileShape columns))).toList ++
        (group? .all (List.replicate (excludedCount excludedTerms) (.not (fileShape columns)))).toList) := by
  have hincluded : (fileConditions columns terms).map shape =
      List.replicate (includedCount terms) (fileShape columns) :=
    map_shape_countP (shape_containsAny? columns) _
  have hexcluded : (fileExclusions columns excludedTerms).map shape =
      List.replicate (excludedCount excludedTerms) (.not (fileShape columns)) := by
    refine map_shape_countP (fun token => ?_) _
    have hnot : shape ∘ Condition.not = Condition.not ∘ shape (C := C) :=
      funext fun x => by rw [Function.comp_apply, Function.comp_apply, shape]
    rw [Option.map_map, hnot, ← Option.map_map, shape_containsAny?]
    split_ifs <;> rfl
  rw [ofFileTexts?_eq, shape_group?, List.map_append, ← Option.toList_map, ← Option.toList_map,
    shape_group?, shape_group?, hincluded, hexcluded]

end Condition

/-- Requests of one form: the same flags, the same dates set, and lists of the same lengths. -/
structure SearchRequest.SameForm (r r' : SearchRequest) : Prop where
  orTerms : r.orTerms = r'.orTerms
  includeDeletedChannels : r.includeDeletedChannels = r'.includeDeletedChannels
  searchWithoutUserId : r.searchWithoutUserId = r'.searchWithoutUserId
  onDate : r.onDate = [] ↔ r'.onDate = []
  afterDate : r.afterDate = [] ↔ r'.afterDate = []
  beforeDate : r.beforeDate = [] ↔ r'.beforeDate = []
  inChannels : r.inChannels.length = r'.inChannels.length
  excludedChannels : r.excludedChannels.length = r'.excludedChannels.length
  fromUsers : r.fromUsers.length = r'.fromUsers.length
  excludedUsers : r.excludedUsers.length = r'.excludedUsers.length
  extensions : r.extensions.length = r'.extensions.length

/-- Searches from a team or from none alike, and both for the first page or both for a later one. -/
structure SearchContext.SameForm (c c' : SearchContext) : Prop where
  teamId : c.teamId = [] ↔ c'.teamId = []
  page : 0 < c.page ↔ 0 < c'.page

section Parts

open Condition (shape shapes_eq)

variable {C : Type} {column : C} {r r' : SearchRequest}

theorem isEmpty_congr {α : Type} {xs ys : List α} (h : xs.length = ys.length) :
    xs.isEmpty = ys.isEmpty := by
  rw [Bool.eq_iff_iff, List.isEmpty_iff_length_eq_zero, List.isEmpty_iff_length_eq_zero, h]

theorem isEmpty_eq_of_iff {t u : Text} (h : t = [] ↔ u = []) : t.isEmpty = u.isEmpty := by
  rw [Bool.eq_iff_iff, List.isEmpty_iff, List.isEmpty_iff, h]

/-- A test on a list that may be empty has a shape of the length of the list. -/
theorem shape_listTest {test : List Text → Sql.Test C}
    (htest : ∀ vs ws, vs.length = ws.length → (test vs).shape = (test ws).shape)
    {keys : List Text → List Text} (hkeys : ∀ vs, (keys vs).length = vs.length) {vs ws : List Text}
    (h : vs.length = ws.length) :
    (if vs.isEmpty then [] else [test (keys vs)]).map Sql.Test.shape =
      (if ws.isEmpty then [] else [test (keys ws)]).map Sql.Test.shape := by
  rw [isEmpty_congr h]
  split_ifs
  · rfl
  · have hkeysLength : (keys vs).length = (keys ws).length := by rw [hkeys, hkeys, h]
    rw [List.map_singleton, List.map_singleton, htest _ _ hkeysLength]

theorem shape_oneOf (c : C) (vs ws : List Text) (h : vs.length = ws.length) :
    (Sql.Test.oneOf c vs).shape = (Sql.Test.oneOf c ws).shape := by
  rw [Sql.Test.shape, Sql.Test.shape, h]

theorem shape_noneOf (c : C) (vs ws : List Text) (h : vs.length = ws.length) :
    (Sql.Test.noneOf c vs).shape = (Sql.Test.noneOf c ws).shape := by
  rw [Sql.Test.shape, Sql.Test.shape, h]

theorem shape_userConditions_congr {team team' : Text} (hteam : team = [] ↔ team' = [])
    (h : r.SameForm r') (byUsername : Bool) :
    (userConditions column team r byUsername).map shape =
      (userConditions column team' r' byUsername).map shape := by
  have hkeys (users : List Text) : (UserQuery.keys byUsername users).length = users.length := by
    cases byUsername <;> simp [UserQuery.keys]
  have hteamEmpty : team.isEmpty = team'.isEmpty := isEmpty_eq_of_iff hteam
  have hteamTests : (if team'.isEmpty then [] else
        [Sql.Test.equals UserQuery.Column.memberTeam team, .sameAs .id .memberUser]).map Sql.Test.shape =
      (if team'.isEmpty then [] else
        [Sql.Test.equals UserQuery.Column.memberTeam team', .sameAs .id .memberUser]).map
          Sql.Test.shape := by
    split_ifs <;> rfl
  have hlists : UserQuery.build? team r.fromUsers r.excludedUsers byUsername = none ↔
      UserQuery.build? team' r'.fromUsers r'.excludedUsers byUsername = none := by
    rw [UserQuery.build?_eq_none, UserQuery.build?_eq_none, ← List.length_eq_zero_iff,
      ← List.length_eq_zero_iff, h.fromUsers, h.excludedUsers, List.length_eq_zero_iff,
      List.length_eq_zero_iff]
  unfold userConditions
  cases hq : UserQuery.build? team r.fromUsers r.excludedUsers byUsername with
  | none => rw [hlists.mp hq]
  | some q =>
    cases hq' : UserQuery.build? team' r'.fromUsers r'.excludedUsers byUsername with
    | none =>
      rw [hlists.mpr hq'] at hq
      cases hq
    | some q' =>
      have hshape : q.shape = q'.shape := by
        rw [UserQuery.eq_of_build? hq, UserQuery.eq_of_build? hq', UserQuery.shape, UserQuery.shape]
        simp only [List.map_append, hteamTests, hteamEmpty,
          shape_listTest (shape_oneOf _) hkeys h.fromUsers,
          shape_listTest (shape_noneOf _) hkeys h.excludedUsers]
      dsimp only
      rw [List.map_singleton, List.map_singleton, shape, shape, hshape]

theorem shape_dateConditions_congr {now now' : Int} (h : r.SameForm r')
    {dates dates' : List (Condition C)} (hdates : (r.dateConditions now column).result = .ok dates)
    (hdates' : (r'.dateConditions now' column).result = .ok dates') :
    dates.map shape = dates'.map shape := by
  have hbound {date date' : Text} (hdate : date = [] ↔ date' = []) {test : Int → Sql.Test C}
      (htest : ∀ n m, (test n).shape = (test m).shape) (n m : Int) :
      (if date = [] then [] else [Condition.test (test n)]).map shape =
        (if date' = [] then [] else [Condition.test (test m)]).map shape := by
    rw [if_congr hdate rfl rfl]
    split_ifs
    · rfl
    · rw [List.map_singleton, List.map_singleton, shape, shape, htest n m]
  rcases SearchRequest.dateConditions_bounds hdates with ⟨hon, low, high, rfl⟩ | ⟨hon, n, m, rfl⟩
  · rcases SearchRequest.dateConditions_bounds hdates' with ⟨-, low', high', rfl⟩ | ⟨hon', -⟩
    · rw [List.map_singleton, List.map_singleton, shape, shape]
      rfl
    · exact absurd (h.onDate.mpr hon') hon
  · rcases SearchRequest.dateConditions_bounds hdates' with ⟨hon', -⟩ | ⟨-, n', m', rfl⟩
    · exact absurd (h.onDate.mp hon) hon'
    · rw [List.map_append, List.map_append, hbound h.afterDate (fun _ _ => rfl) n n',
        hbound h.beforeDate (fun _ _ => rfl) m m']

/-- A condition on a list that may be empty has a shape of the length of the list. -/
theorem shape_listCondition {test : List Text → Sql.Test C}
    (htest : ∀ vs ws, vs.length = ws.length → (test vs).shape = (test ws).shape)
    {keys : List Text → List Text} (hkeys : ∀ vs, (keys vs).length = vs.length) {vs ws : List Text}
    (h : vs.length = ws.length) :
    (if vs.isEmpty then [] else [Condition.test (test (keys vs))]).map shape =
      (if ws.isEmpty then [] else [Condition.test (test (keys ws))]).map shape := by
  have hmap (us : List Text) :
      (if us.isEmpty then [] else [Condition.test (test (keys us))]).map shape =
        ((if us.isEmpty then [] else [test (keys us)]).map Sql.Test.shape).map .test := by
    split_ifs
    · rfl
    · rw [List.map_singleton, shape]
      rfl
  rw [hmap, hmap, shape_listTest htest hkeys h]

theorem shape_extensionConditions_congr (h : r.SameForm r') :
    (FileQuery.extensionConditions r).map shape = (FileQuery.extensionConditions r').map shape :=
  shape_listCondition (shape_oneOf _) (fun _ => List.length_map _) h.extensions

/-- The channels in scope are asked for in the same way. -/
theorem ScopeQuery.shape_build_congr {user user' team team' : Text} (hteam : team = [] ↔ team' = [])
    (h : r.SameForm r') (byName : Bool) :
    (build user team r byName).conditions.map shape =
      (build user' team' r' byName).conditions.map shape := by
  have hkeys (channels : List Text) :
      (if byName then channels.map nameKey else channels).length = channels.length := by
    cases byName <;> simp
  have hmembership : (if r.searchWithoutUserId then [] else
        [Condition.test (.sameAs Column.id .memberChannel), .test (.equals .memberUser user)]).map shape =
      (if r'.searchWithoutUserId then [] else
        [Condition.test (.sameAs Column.id .memberChannel), .test (.equals .memberUser user')]).map
          shape := by
    rw [h.searchWithoutUserId]
    split_ifs <;> simp [shape, Sql.Test.shape]
  have hteamConditions : (teamConditions team).map shape = (teamConditions team').map shape := by
    unfold teamConditions
    rw [isEmpty_eq_of_iff hteam]
    split_ifs <;> simp [shape, shapes_eq, Sql.Test.shape]
  rw [build, build]
  dsimp only
  rw [List.map_append, List.map_append, List.map_append, List.map_append, List.map_append,
    List.map_append, List.map_append, List.map_append, hmembership, hteamConditions,
    h.includeDeletedChannels, shape_listCondition (shape_oneOf _) hkeys h.inChannels,
    shape_listCondition (shape_noneOf _) hkeys h.excludedChannels]

/-- A page after the first has a start. -/
theorem SearchContext.isSome_start (c : SearchContext) :
    ((pageOffset c.pageNumber c.limit).filter (· ≠ 0)).isSome = decide (0 < c.page) := by
  have hpos := c.limit_bounds.1
  have hnumber : 0 < c.pageNumber ↔ 0 < c.page := by simp [pageNumber]
  unfold pageOffset
  split_ifs with h
  · have hstart : c.pageNumber * c.limit ≠ 0 := (Int.mul_pos h hpos).ne'
    rw [Option.filter_some_pos (by simpa using hstart), decide_eq_true (hnumber.mp h)]
    rfl
  · rw [decide_eq_false (hnumber.not.mp h)]
    rfl

variable {c c' : SearchContext} {rest rest' : List SearchRequest}

namespace PostQuery

/-- Texts whose tokens are of the same kinds, in the same order. -/
def SameKinds (requests requests' : List SearchRequest) : Prop :=
  (MergedText.ofRequests requests).tokens.includedKinds =
      (MergedText.ofRequests requests').tokens.includedKinds ∧
    (MergedText.ofRequests requests).tokens.excludedKinds =
      (MergedText.ofRequests requests').tokens.excludedKinds

theorem textCondition?_tokens (requests : List SearchRequest) (orTerms : Bool) :
    textCondition? requests orTerms =
      Condition.ofTokens? (MergedText.ofRequests requests).tokens .message orTerms := by
  rw [textCondition?_eq, MergedText.tokens, Tokens.ofTexts_eq]

theorem sameShape_ofDates (hc : c.SameForm c') (h : r.SameForm r')
    (hkinds : SameKinds (r :: rest) (r' :: rest')) {dates dates' : List (Condition PostColumn)}
    (hdates : (r.dateConditions c.now PostColumn.createAt).result = .ok dates)
    (hdates' : (r'.dateConditions c'.now PostColumn.createAt).result = .ok dates')
    (byUsername : Bool) :
    PageQuery.SameShape (ofDates c byUsername r rest dates) (ofDates c' byUsername r' rest' dates') := by
  have htext : (textCondition? (r :: rest) r.orTerms).map shape =
      (textCondition? (r' :: rest') r'.orTerms).map shape := by
    rw [textCondition?_tokens, textCondition?_tokens, Condition.shape_ofTokens?,
      Condition.shape_ofTokens?, hkinds.1, hkinds.2, h.orTerms]
  constructor
  · rw [ofDates, ofDates]
    simp only [List.map_append, shape_userConditions_congr hc.teamId h byUsername,
      shape_dateConditions_congr h hdates hdates', ← Option.toList_map, htext]
  · rw [ofDates, ofDates, c.isSome_start, c'.isSome_start, decide_eq_decide]
    exact hc.page

end PostQuery

namespace FileQuery

/-- The words that are looked for in files; hashtags are among them. -/
def words (requests : List SearchRequest) : Text :=
  let merged := MergedText.ofRequests requests
  Text.join [' '] ([merged.terms, merged.hashtagTerms].filter (· ≠ []))

theorem textCondition?_words (requests : List SearchRequest) (orTerms : Bool) :
    textCondition? requests orTerms =
      Condition.ofFileTexts? textColumns (words requests)
        (MergedText.ofRequests requests).excludedTerms orTerms := rfl

/-- Texts with as many tokens that a file should match, and as many that it should not. -/
def SameKinds (requests requests' : List SearchRequest) : Prop :=
  Condition.includedCount (words requests) = Condition.includedCount (words requests') ∧
    Condition.excludedCount (MergedText.ofRequests requests).excludedTerms =
      Condition.excludedCount (MergedText.ofRequests requests').excludedTerms

theorem sameShape_ofDates (hc : c.SameForm c') (h : r.SameForm r')
    (hkinds : SameKinds (r :: rest) (r' :: rest')) {dates dates' : List (Condition FileColumn)}
    (hdates : (r.dateConditions c.now FileColumn.createAt).result = .ok dates)
    (hdates' : (r'.dateConditions c'.now FileColumn.createAt).result = .ok dates')
    (byUsername : Bool) :
    PageQuery.SameShape (ofDates c byUsername r rest dates) (ofDates c' byUsername r' rest' dates') := by
  have htext : (textCondition? (r :: rest) r.orTerms).map shape =
      (textCondition? (r' :: rest') r'.orTerms).map shape := by
    rw [textCondition?_words, textCondition?_words, Condition.shape_ofFileTexts?,
      Condition.shape_ofFileTexts?, hkinds.1, hkinds.2, h.orTerms]
  constructor
  · rw [ofDates, ofDates]
    simp only [List.map_append, shape_userConditions_congr hc.teamId h byUsername,
      shape_dateConditions_congr h hdates hdates', shape_extensionConditions_congr h,
      ← Option.toList_map, htext]
  · rw [ofDates, ofDates, c.isSome_start, c'.isSome_start, decide_eq_decide]
    exact hc.page

end FileQuery

end Parts

end ChannelSearch
