import ChannelSearch.Proofs.EmptyQueries
import ChannelSearch.Proofs.PieceOrder
import ChannelSearch.Proofs.RequestFields

/-!
Where the pieces of a search box text go. Main statement: each piece has one place, in a filter, among
the excluded words, the hashtags or the terms, or is dropped; the requests have what stands at these
places in the order of the text, and nothing else.
-/

namespace ChannelSearch.SearchBox

open Text

instance : DecidablePred SaysNothing := fun _ => inferInstanceAs (Decidable (_ ∨ _))

/-- What a piece is good for. -/
inductive Place where
  | filter (flag : Flag) (value : Text)
  | excluded (word : Text)
  | hashtag (word : Text)
  | term (word : Text)
  | dropped
deriving DecidableEq, Repr

/-- A dash that stands alone, and a mark of a hashtag that does, are words. -/
def placeOf (piece : Text) : Place :=
  match flagOf? piece with
  | some (flag, value) => .filter flag value
  | none =>
    if piece.head? = some '-' ∧ piece ≠ ['-'] then .excluded piece.tail
    else if piece.head? = some '#' ∧ piece ≠ ['#'] then .hashtag piece
    else if ∀ c ∈ piece, SaysNothing c then .dropped
    else .term piece

theorem filterMap_cons_toList {α β : Type} (f : α → Option β) (x : α) (xs : List α) :
    (x :: xs).filterMap f = (f x).toList ++ xs.filterMap f := by
  cases h : f x <;> simp [h]

namespace Place

/-- The places of the pieces of a text, in their order. -/
def ofText (t : Text) : List Place := (lex t.strip).map fun token => placeOf token.text

def excluded? : Place → Option Text
  | .excluded word => some word
  | _ => none

def hashtag? : Place → Option Text
  | .hashtag word => some word
  | _ => none

def term? : Place → Option Text
  | .term word => some word
  | _ => none

def value? (flag : Flag) : Place → Option Text
  | .filter found value => if found = flag then some value else none
  | _ => none

/-- The values of a filter, in the order of the text. -/
def values (places : List Place) (flag : Flag) : List Text := places.filterMap (value? flag)

/-- The last value of a filter, or what it has without one. -/
def lastOr (places : List Place) (flag : Flag) (value : Text) : Text :=
  (values places flag).getLastD value

theorem values_cons (place : Place) (places : List Place) (flag : Flag) :
    values (place :: places) flag = (place.value? flag).toList ++ values places flag :=
  filterMap_cons_toList (value? flag) place places

theorem lastOr_cons (place : Place) (places : List Place) (flag : Flag) (value : Text) :
    lastOr (place :: places) flag value = lastOr places flag ((place.value? flag).getD value) := by
  unfold lastOr
  rw [values_cons]
  cases place.value? flag with
  | none => rfl
  | some other => exact List.getLastD_cons

end Place

/-- The request has the filters that stand at the places, and the offset. What no piece can ask for is as
in an empty request. -/
structure HasPlacedFilters (r : SearchRequest) (places : List Place) (offset : Int) : Prop where
  inChannels : r.inChannels = Place.values places .inChannel
  excludedChannels : r.excludedChannels = Place.values places .notInChannel
  fromUsers : r.fromUsers = (Place.values places .fromUser).map mentionKey
  excludedUsers : r.excludedUsers = (Place.values places .notFromUser).map mentionKey
  extensions : r.extensions = Place.values places .extension
  onDate : r.onDate = Place.lastOr places .on []
  afterDate : r.afterDate = Place.lastOr places .after []
  beforeDate : r.beforeDate = Place.lastOr places .before []
  timeZoneOffset : r.timeZoneOffset = offset
  phrases : r.phrases = []
  excludedPhrases : r.excludedPhrases = []
  orTerms : r.orTerms = false
  includeDeletedChannels : r.includeDeletedChannels = false
  searchWithoutUserId : r.searchWithoutUserId = false

section Pieces

variable {token : Token}

/-- The pieces that are dropped are those that have only quotes and white space. -/
theorem placeOf_eq_dropped_iff (hwf : token.WellFormed) :
    placeOf token.text = .dropped ↔ ∀ c ∈ token.text, SaysNothing c := by
  constructor
  · intro h
    unfold placeOf at h
    split at h
    · cases h
    · split_ifs at h with _ _ hsilent
      exact hsilent
  · intro h
    obtain ⟨rest, htext⟩ := hwf.head_of_saysNothing h
    rw [htext] at h ⊢
    have hflag : flagOf? ('"' :: rest) = none := rfl
    unfold placeOf
    rw [hflag]
    dsimp only
    rw [if_neg (by simp), if_neg (by simp), if_pos h]

end Pieces

namespace Contents

/-- The contents with what stands at one more place. -/
def put (c : Contents) : Place → Contents
  | .filter flag value => { c with filters := setFlag c.filters flag value }
  | .excluded word => { c with excluded := c.excluded ++ [word] }
  | .hashtag word => { c with hashtags := c.hashtags ++ [word] }
  | .term word => { c with terms := c.terms ++ [word] }
  | .dropped => c

/-- A piece is sorted by its place. -/
theorem add_eq_put (c : Contents) {token : Token} (hwf : token.WellFormed) :
    c.add token.text = c.put (placeOf token.text) := by
  have hblank := isBlankWord_iff hwf
  have hne : token.text ≠ [] := by
    obtain ⟨d, hd, -⟩ := hwf.isSolid_text.head
    exact List.ne_nil_of_mem (List.mem_of_mem_head? hd)
  generalize token.text = piece at hblank hne
  unfold add placeOf
  cases flagOf? piece with
  | some found => rfl
  | none =>
    dsimp only
    split
    · simp [put]
    · simp [put]
    · next hdash hmark =>
      have hnoDash : ¬ (piece.head? = some '-' ∧ piece ≠ ['-']) := by
        intro h
        obtain ⟨rest, rfl⟩ := List.head?_eq_some_iff.mp h.1
        cases rest with
        | nil => exact h.2 rfl
        | cons d rest => exact hdash d rest rfl
      have hnoMark : ¬ (piece.head? = some '#' ∧ piece ≠ ['#']) := by
        intro h
        obtain ⟨rest, rfl⟩ := List.head?_eq_some_iff.mp h.1
        cases rest with
        | nil => exact h.2 rfl
        | cons d rest => exact hmark d rest rfl
      rw [if_neg hnoDash, if_neg hnoMark]
      simp only [hblank]
      split_ifs <;> rfl

theorem ofTokens_eq {tokens : List Token} (hwf : ∀ token ∈ tokens, token.WellFormed) :
    ofTokens tokens = (tokens.map fun token => placeOf token.text).foldl put {} := by
  unfold ofTokens
  generalize ({} : Contents) = c
  induction tokens generalizing c with
  | nil => rfl
  | cons token tokens ih =>
    obtain ⟨htoken, htokens⟩ := List.forall_mem_cons.mp hwf
    rw [List.foldl_cons, add_eq_put c htoken, ih htokens]
    rfl

theorem words_put (c : Contents) (place : Place) :
    (c.put place).terms = c.terms ++ place.term?.toList ∧
      (c.put place).excluded = c.excluded ++ place.excluded?.toList ∧
        (c.put place).hashtags = c.hashtags ++ place.hashtag?.toList := by
  cases place <;> simp [put, Place.term?, Place.excluded?, Place.hashtag?]

theorem lists_put (c : Contents) (place : Place) :
    (c.put place).filters.inChannels = c.filters.inChannels ++ (place.value? .inChannel).toList ∧
      (c.put place).filters.excludedChannels =
          c.filters.excludedChannels ++ (place.value? .notInChannel).toList ∧
        (c.put place).filters.fromUsers =
            c.filters.fromUsers ++ (place.value? .fromUser).toList.map mentionKey ∧
          (c.put place).filters.excludedUsers =
              c.filters.excludedUsers ++ (place.value? .notFromUser).toList.map mentionKey ∧
            (c.put place).filters.extensions =
              c.filters.extensions ++ (place.value? .extension).toList := by
  cases place with
  | filter flag value => cases flag <;> simp [put, setFlag, Place.value?]
  | _ => simp [put, Place.value?]

theorem dates_put (c : Contents) (place : Place) :
    (c.put place).filters.onDate = (place.value? .on).getD c.filters.onDate ∧
      (c.put place).filters.afterDate = (place.value? .after).getD c.filters.afterDate ∧
        (c.put place).filters.beforeDate = (place.value? .before).getD c.filters.beforeDate := by
  cases place with
  | filter flag value => cases flag <;> simp [put, setFlag, Place.value?]
  | _ => simp [put, Place.value?]

/-- The words stand in the order of their places. -/
theorem words_foldl_put (places : List Place) (c : Contents) :
    (places.foldl put c).terms = c.terms ++ places.filterMap Place.term? ∧
      (places.foldl put c).excluded = c.excluded ++ places.filterMap Place.excluded? ∧
        (places.foldl put c).hashtags = c.hashtags ++ places.filterMap Place.hashtag? := by
  induction places generalizing c with
  | nil => simp
  | cons place places ih =>
    obtain ⟨hterms, hexcluded, htags⟩ := ih (c.put place)
    obtain ⟨hterm, hexclude, htag⟩ := words_put c place
    rw [List.foldl_cons, hterms, hexcluded, htags, hterm, hexclude, htag]
    simp only [filterMap_cons_toList, List.append_assoc, and_self]

/-- Lists of filters collect their values. -/
theorem lists_foldl_put (places : List Place) (c : Contents) :
    (places.foldl put c).filters.inChannels =
        c.filters.inChannels ++ Place.values places .inChannel ∧
      (places.foldl put c).filters.excludedChannels =
          c.filters.excludedChannels ++ Place.values places .notInChannel ∧
        (places.foldl put c).filters.fromUsers =
            c.filters.fromUsers ++ (Place.values places .fromUser).map mentionKey ∧
          (places.foldl put c).filters.excludedUsers =
              c.filters.excludedUsers ++ (Place.values places .notFromUser).map mentionKey ∧
            (places.foldl put c).filters.extensions =
              c.filters.extensions ++ Place.values places .extension := by
  induction places generalizing c with
  | nil => simp [Place.values]
  | cons place places ih =>
    obtain ⟨hins, hnotIns, hfroms, hnotFroms, hexts⟩ := ih (c.put place)
    obtain ⟨hin, hnotIn, hfrom, hnotFrom, hext⟩ := lists_put c place
    rw [List.foldl_cons, hins, hnotIns, hfroms, hnotFroms, hexts, hin, hnotIn, hfrom, hnotFrom, hext]
    simp only [Place.values_cons, List.map_append, List.append_assoc, and_self]

/-- Of the dates of one kind the last one counts. -/
theorem dates_foldl_put (places : List Place) (c : Contents) :
    (places.foldl put c).filters.onDate = Place.lastOr places .on c.filters.onDate ∧
      (places.foldl put c).filters.afterDate = Place.lastOr places .after c.filters.afterDate ∧
        (places.foldl put c).filters.beforeDate =
          Place.lastOr places .before c.filters.beforeDate := by
  induction places generalizing c with
  | nil => simp [Place.lastOr, Place.values]
  | cons place places ih =>
    obtain ⟨hons, hafters, hbefores⟩ := ih (c.put place)
    obtain ⟨hon, hafter, hbefore⟩ := dates_put c place
    rw [List.foldl_cons, hons, hafters, hbefores, hon, hafter, hbefore]
    simp only [Place.lastOr_cons, and_self]

end Contents

variable {t : Text} {offset : Int} {r : SearchRequest}

theorem ofText_eq (t : Text) : Contents.ofText t = (Place.ofText t).foldl Contents.put {} :=
  Contents.ofTokens_eq fun _ h => wellFormed_of_mem_lex h

theorem words_ofText (t : Text) :
    (Contents.ofText t).terms = (Place.ofText t).filterMap Place.term? ∧
      (Contents.ofText t).excluded = (Place.ofText t).filterMap Place.excluded? ∧
        (Contents.ofText t).hashtags = (Place.ofText t).filterMap Place.hashtag? := by
  rw [ofText_eq]
  exact Contents.words_foldl_put (Place.ofText t) {}

theorem hasPlacedFilters_ofText (t : Text) (offset : Int) :
    HasPlacedFilters { (Contents.ofText t).filters with timeZoneOffset := offset } (Place.ofText t)
      offset := by
  have hfilters := Contents.holdsFilters_ofTokens (lex t.strip)
  obtain ⟨hin, hnotIn, hfrom, hnotFrom, hext⟩ := Contents.lists_foldl_put (Place.ofText t) {}
  obtain ⟨hon, hafter, hbefore⟩ := Contents.dates_foldl_put (Place.ofText t) {}
  rw [← ofText_eq] at hin hnotIn hfrom hnotFrom hext hon hafter hbefore
  exact ⟨hin, hnotIn, hfrom, hnotFrom, hext, hon, hafter, hbefore, rfl, hfilters.phrases,
    hfilters.excludedPhrases, hfilters.orTerms, hfilters.includeDeletedChannels,
    hfilters.searchWithoutUserId⟩

/-- All requests have the same filters. -/
theorem hasPlacedFilters_of_mem_parse (h : r ∈ parse t offset) :
    HasPlacedFilters r (Place.ofText t) offset := by
  obtain ⟨terms, excludedTerms, isHashtag, rfl⟩ := Contents.exists_of_mem_requests h
  exact { hasPlacedFilters_ofText t offset with }

theorem length_parse_le (t : Text) (offset : Int) : (parse t offset).length ≤ 2 := by
  unfold parse Contents.requests
  split_ifs <;> simp

/-- Hashtags are asked for last. -/
theorem isHashtag_of_mem_dropLast (h : r ∈ (parse t offset).dropLast) : r.isHashtag = false := by
  have hfilters := Contents.holdsFilters_ofTokens (lex t.strip)
  unfold parse Contents.requests at h
  split_ifs at h
  · simp at h
  · simp at h
  · simp at h
  · rw [List.dropLast_cons_cons, List.dropLast_singleton, List.mem_singleton] at h
    rw [h]
    exact hfilters.isHashtag

/-- The excluded words go with one request. -/
theorem excludedTerms_parse (t : Text) (offset : Int) :
    (parse t offset).flatMap SearchRequest.excludedTerms = join [' '] (Contents.ofText t).excluded := by
  have hfilters : (Contents.ofText t).filters.excludedTerms = [] :=
    (Contents.holdsFilters_ofTokens (lex t.strip)).excludedTerms
  unfold parse Contents.requests
  split_ifs with hempty
  · simp only [Contents.isEmpty, Bool.and_eq_true, List.isEmpty_iff] at hempty
    simp [hempty.1.1.2]
  · simp
  · simp
  · simp [hfilters]

theorem parse_eq_nil_iff_dropped (t : Text) (offset : Int) :
    parse t offset = [] ↔ ∀ place ∈ Place.ofText t, place = .dropped := by
  have hwf (token : Token) (h : token ∈ lex t.strip) : token.WellFormed := wellFormed_of_mem_lex h
  rw [parse, Contents.requests_eq_nil_iff, Contents.ofText, Contents.isEmpty_ofTokens hwf]
  unfold Place.ofText
  rw [List.forall_mem_map]
  constructor
  · intro h token htoken
    exact (placeOf_eq_dropped_iff (hwf token htoken)).mpr (h token htoken)
  · intro h token htoken
    exact (placeOf_eq_dropped_iff (hwf token htoken)).mp (h token htoken)

/-- Nothing is lost and nothing doubled: each piece goes to its place, only quotes and white space are
dropped, and the requests have the filters of the text each, its words together, and nothing that would
be refused. -/
theorem pieces_go_to_their_places (t : Text) (offset : Int) :
    (∀ token ∈ lex t.strip,
        placeOf token.text = .dropped ↔ ∀ c ∈ token.text, isBlank c = true ∨ c = '"') ∧
      (parse t offset).length ≤ 2 ∧
      (parse t offset = [] ↔ ∀ place ∈ Place.ofText t, place = .dropped) ∧
      (∀ r ∈ parse t offset, HasPlacedFilters r (Place.ofText t) offset ∧
        ∀ fields : List SearchRequest.Field,
          (∀ f ∉ fields, r.get f = ({} : SearchRequest).get f) →
            SearchRequest.ofFields (fields.map fun f => (f.name, r.get f)) = .ok r) ∧
      (∀ r ∈ (parse t offset).dropLast, r.isHashtag = false) ∧
      MergedText.ofRequests (parse t offset) =
        { terms := join [' '] ((Place.ofText t).filterMap Place.term?)
          excludedTerms := join [' '] ((Place.ofText t).filterMap Place.excluded?)
          hashtagTerms := join [' '] ((Place.ofText t).filterMap Place.hashtag?) } ∧
      (parse t offset).flatMap SearchRequest.excludedTerms =
        join [' '] ((Place.ofText t).filterMap Place.excluded?) := by
  have hwf (token : Token) (h : token ∈ lex t.strip) : token.WellFormed := wellFormed_of_mem_lex h
  obtain ⟨hterms, hexcluded, htags⟩ := words_ofText t
  rw [← hterms, ← hexcluded, ← htags]
  refine ⟨?_, length_parse_le t offset, parse_eq_nil_iff_dropped t offset, ?_, ?_,
    Contents.merged_ofTokens hwf offset, excludedTerms_parse t offset⟩
  · intro token htoken
    exact placeOf_eq_dropped_iff (hwf token htoken)
  · intro r hr
    exact ⟨hasPlacedFilters_of_mem_parse hr, fun fields => SearchRequest.ofFields_get fields⟩
  · intro r hr
    exact isHashtag_of_mem_dropLast hr

/-- Of two dates of one kind the last one counts, and the empty quotes are the one piece dropped. -/
theorem pieces_go_to_their_places_deploy :
    Place.ofText "deploy \"\" from:@Bob on:2024-1-5 -flaky on:2024-1-6 #now".toList =
        [.term "deploy".toList, .dropped, .filter .fromUser "@Bob".toList,
          .filter .on "2024-1-5".toList, .excluded "flaky".toList, .filter .on "2024-1-6".toList,
          .hashtag "#now".toList] ∧
      (parse "deploy \"\" from:@Bob on:2024-1-5 -flaky on:2024-1-6 #now".toList 3600).length = 2 ∧
      (∀ r ∈ parse "deploy \"\" from:@Bob on:2024-1-5 -flaky on:2024-1-6 #now".toList 3600,
        r.fromUsers = ["bob".toList] ∧ r.onDate = "2024-1-6".toList ∧ r.timeZoneOffset = 3600) ∧
      MergedText.ofRequests
          (parse "deploy \"\" from:@Bob on:2024-1-5 -flaky on:2024-1-6 #now".toList 3600) =
        { terms := "deploy".toList, excludedTerms := "flaky".toList
          hashtagTerms := "#now".toList } := by
  have hplaces : Place.ofText "deploy \"\" from:@Bob on:2024-1-5 -flaky on:2024-1-6 #now".toList =
      [.term "deploy".toList, .dropped, .filter .fromUser "@Bob".toList,
        .filter .on "2024-1-5".toList, .excluded "flaky".toList, .filter .on "2024-1-6".toList,
        .hashtag "#now".toList] := by decide +kernel
  obtain ⟨-, -, -, hfilters, -, hmerged, -⟩ :=
    pieces_go_to_their_places "deploy \"\" from:@Bob on:2024-1-5 -flaky on:2024-1-6 #now".toList 3600
  rw [hplaces] at hfilters hmerged
  refine ⟨hplaces, by decide +kernel, fun r hr => ?_, hmerged.trans (by decide)⟩
  have hplaced := (hfilters r hr).1
  exact ⟨hplaced.fromUsers.trans (by decide), hplaced.onDate.trans (by decide),
    hplaced.timeZoneOffset⟩

end ChannelSearch.SearchBox
