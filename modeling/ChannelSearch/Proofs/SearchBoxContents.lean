import ChannelSearch.MergedText
import ChannelSearch.Proofs.Pieces

/-!
What the pieces of a search box text become. Each piece is sorted on its own, filters never touch the
words, and the requests that are made hold the sorted words joined by spaces, exclusions once.
-/

namespace ChannelSearch

open Text

/-- Neither empty nor with white space at an end. -/
structure IsSolid (t : Text) : Prop where
  head : ∃ c, t.head? = some c ∧ isBlank c = false
  last : ∃ c, t.getLast? = some c ∧ isBlank c = false

theorem isSolid_of_visible {t : Text} (hne : t ≠ []) (h : ∀ c ∈ t, isBlank c = false) :
    IsSolid t :=
  ⟨⟨t.head hne, List.head?_eq_some_head hne, h _ (List.head_mem hne)⟩,
    ⟨t.getLast hne, List.getLast?_eq_some_getLast hne, h _ (List.getLast_mem hne)⟩⟩

theorem isSolid_inQuotes (body : Text) : IsSolid (inQuotes body) :=
  ⟨⟨'"', rfl, rfl⟩, ⟨'"', by simp [inQuotes, List.getLast?_cons], rfl⟩⟩

theorem IsSolid.not_blank {t : Text} (h : IsSolid t) : isBlankText t = false := by
  obtain ⟨c, hc, hblank⟩ := h.head
  rw [isBlankText, List.all_eq_false]
  exact ⟨c, List.mem_of_mem_head? hc, by simp [hblank]⟩

theorem dropWhile_of_head {p : Char → Bool} {t : Text} {c : Char} (h : t.head? = some c)
    (hc : p c = false) : t.dropWhile p = t := by
  cases t with
  | nil => rfl
  | cons d rest =>
    cases h
    rw [List.dropWhile_cons_of_neg (by simp [hc])]

theorem IsSolid.strip_eq {t : Text} (h : IsSolid t) : t.strip = t := by
  obtain ⟨c, hc, hblank⟩ := h.head
  obtain ⟨d, hd, hdblank⟩ := h.last
  rw [strip, trim, dropWhile_of_head hc hblank,
    dropWhile_of_head (by rwa [List.head?_reverse]) hdblank, List.reverse_reverse]

theorem isSolid_join {ts : List Text} (hne : ts ≠ []) (h : ∀ t ∈ ts, IsSolid t) :
    IsSolid (join [' '] ts) := by
  induction ts with
  | nil => exact absurd rfl hne
  | cons t ts ih =>
    have ht := h t List.mem_cons_self
    by_cases hts : ts = []
    · simpa [hts] using ht
    · have hrest := ih hts fun u hu => h u (List.mem_cons_of_mem t hu)
      rw [join_cons hts, List.append_assoc]
      obtain ⟨c, hc, hblank⟩ := ht.head
      obtain ⟨d, hd, hdblank⟩ := hrest.last
      refine ⟨⟨c, ?_, hblank⟩, ⟨d, ?_, hdblank⟩⟩
      · rw [List.head?_append, hc, Option.some_or]
      · rw [List.getLast?_append, List.getLast?_append, hd, Option.some_or, Option.some_or]

namespace SearchBox

theorem Token.WellFormed.isSolid_text {token : Token} (h : token.WellFormed) :
    IsSolid token.text := by
  cases token with
  | phrase negated body =>
    cases negated with
    | false => exact isSolid_inQuotes body
    | true =>
      obtain ⟨d, hd, hdblank⟩ := (isSolid_inQuotes body).last
      exact ⟨⟨'-', rfl, rfl⟩, ⟨d, by simp [Token.text, List.getLast?_cons, hd], hdblank⟩⟩
  | word w => exact isSolid_of_visible h.1 h.2

namespace Contents

/-- A piece is sorted in the same way whatever was sorted before it. -/
theorem add_words (c : Contents) (token : Text) :
    (c.add token).terms = c.terms ++ (add {} token).terms ∧
      (c.add token).excluded = c.excluded ++ (add {} token).excluded ∧
        (c.add token).hashtags = c.hashtags ++ (add {} token).hashtags := by
  unfold add
  split
  · simp
  · split
    · simp
    · simp
    · split_ifs <;> simp

theorem foldl_words (tokens : List Token) (c : Contents) :
    let d := tokens.foldl (fun c token => c.add token.text) c
    d.terms = c.terms ++ tokens.flatMap (fun token => (ofTokens [token]).terms) ∧
      d.excluded = c.excluded ++ tokens.flatMap (fun token => (ofTokens [token]).excluded) ∧
        d.hashtags = c.hashtags ++ tokens.flatMap (fun token => (ofTokens [token]).hashtags) := by
  induction tokens generalizing c with
  | nil => simp
  | cons token tokens ih =>
    obtain ⟨hterms, hexcluded, htags⟩ := add_words c token.text
    obtain ⟨iht, ihe, ihh⟩ := ih (c.add token.text)
    simp only [List.foldl_cons, List.flatMap_cons, iht, ihe, ihh, hterms, hexcluded, htags]
    simp [ofTokens]

theorem terms_ofTokens (tokens : List Token) :
    (ofTokens tokens).terms = tokens.flatMap fun token => (ofTokens [token]).terms :=
  (foldl_words tokens {}).1

theorem excluded_ofTokens (tokens : List Token) :
    (ofTokens tokens).excluded = tokens.flatMap fun token => (ofTokens [token]).excluded :=
  (foldl_words tokens {}).2.1

/-- What a piece is sorted into is the piece, or what follows its dash. -/
theorem mem_add {token t : Text} (h : t ∈ (add {} token).terms ∨ t ∈ (add {} token).excluded) :
    t = token ∨ t ≠ [] ∧ token = '-' :: t := by
  unfold add at h
  split at h
  · simp at h
  · split at h
    · exact Or.inr (by simp_all)
    · simp at h
    · split_ifs at h
      · simp at h
      · simp_all

theorem isSolid_of_mem {tokens : List Token} (hwf : ∀ token ∈ tokens, token.WellFormed) {t : Text}
    (h : t ∈ (ofTokens tokens).terms ∨ t ∈ (ofTokens tokens).excluded) : IsSolid t := by
  rw [terms_ofTokens, excluded_ofTokens, List.mem_flatMap, List.mem_flatMap] at h
  have hone : ∃ token ∈ tokens,
      t ∈ (add {} token.text).terms ∨ t ∈ (add {} token.text).excluded := by
    rcases h with ⟨token, htoken, h⟩ | ⟨token, htoken, h⟩
    · exact ⟨token, htoken, Or.inl h⟩
    · exact ⟨token, htoken, Or.inr h⟩
  obtain ⟨token, htoken, h⟩ := hone
  have hwf := hwf token htoken
  rcases mem_add h with rfl | ⟨hne, htext⟩
  · exact hwf.isSolid_text
  · cases token with
    | phrase negated body =>
      cases negated with
      | false => cases htext
      | true => exact (List.cons.inj htext).2 ▸ isSolid_inQuotes body
    | word w =>
      have hw : w = '-' :: t := htext
      exact isSolid_of_visible hne fun c hc => hwf.2 c (hw ▸ List.mem_cons_of_mem '-' hc)

end Contents

/-- A request that holds nothing but filters, and leaves the scope of the user alone. -/
structure HoldsFilters (r : SearchRequest) : Prop where
  terms : r.terms = []
  excludedTerms : r.excludedTerms = []
  phrases : r.phrases = []
  excludedPhrases : r.excludedPhrases = []
  isHashtag : r.isHashtag = false
  orTerms : r.orTerms = false
  includeDeletedChannels : r.includeDeletedChannels = false
  searchWithoutUserId : r.searchWithoutUserId = false

theorem HoldsFilters.setFlag {r : SearchRequest} (h : HoldsFilters r) (flag : Flag) (value : Text) :
    HoldsFilters (setFlag r flag value) := by
  cases flag <;> exact ⟨h.1, h.2, h.3, h.4, h.5, h.6, h.7, h.8⟩

namespace Contents

theorem holdsFilters_add {c : Contents} (h : HoldsFilters c.filters) (token : Text) :
    HoldsFilters (c.add token).filters := by
  unfold add
  split
  · exact h.setFlag _ _
  · split
    · exact h
    · exact h
    · split_ifs <;> exact h

/-- No text sets anything but filters. -/
theorem holdsFilters_ofTokens (tokens : List Token) : HoldsFilters (ofTokens tokens).filters := by
  have hrun (c : Contents) (h : HoldsFilters c.filters) :
      HoldsFilters (tokens.foldl (fun c token => c.add token.text) c).filters := by
    induction tokens generalizing c with
    | nil => exact h
    | cons token tokens ih => exact ih (c.add token.text) (holdsFilters_add h token.text)
  exact hrun {} ⟨rfl, rfl, rfl, rfl, rfl, rfl, rfl, rfl⟩

theorem nonBlank_join {ts : List Text} (h : ∀ t ∈ ts, IsSolid t) :
    join [' '] (MergedText.nonBlank (join [' '] ts)) = join [' '] ts := by
  by_cases hts : ts = []
  · simp [hts, MergedText.nonBlank, isBlankText]
  · have hsolid := isSolid_join hts h
    rw [MergedText.nonBlank, hsolid.not_blank, hsolid.strip_eq]
    simp

/-- The merged texts of the requests are the sorted words again. -/
theorem merged_requests {c : Contents} (hterms : ∀ t ∈ c.terms, IsSolid t)
    (hexcluded : ∀ t ∈ c.excluded, IsSolid t) (hfilters : HoldsFilters c.filters) (offset : Int) :
    (MergedText.ofRequests (c.requests offset)).terms = join [' '] c.terms ∧
      (MergedText.ofRequests (c.requests offset)).excludedTerms = join [' '] c.excluded := by
  have hquote : MergedText.quotePhrases [] = [] := rfl
  have hblank : MergedText.nonBlank [] = [] := rfl
  have ht := nonBlank_join hterms
  have he := nonBlank_join hexcluded
  unfold requests
  split_ifs with hempty htags hwords
  · simp only [isEmpty, Bool.and_eq_true, List.isEmpty_iff] at hempty
    obtain ⟨⟨⟨⟨hnoTerms, -⟩, hnoExcluded⟩, -⟩, -⟩ := hempty
    simp [MergedText.ofRequests, hnoTerms, hnoExcluded]
  · simp [MergedText.ofRequests, MergedText.termsOf, MergedText.excludedOf, hfilters.phrases,
      hfilters.excludedPhrases, hfilters.isHashtag, hquote, ht, he]
  · rw [List.isEmpty_iff] at hwords
    simp [MergedText.ofRequests, MergedText.termsOf, MergedText.excludedOf, hfilters.phrases,
      hfilters.excludedPhrases, hquote, hwords, he]
  · simp [MergedText.ofRequests, MergedText.termsOf, MergedText.excludedOf, hfilters.phrases,
      hfilters.excludedPhrases, hfilters.excludedTerms, hfilters.isHashtag, hquote, hblank, ht, he]

end Contents

/-- The merged texts of a search box text are its sorted words joined by spaces. -/
theorem merged_parse (t : Text) (offset : Int) :
    (MergedText.ofRequests (parse t offset)).terms = join [' '] (Contents.ofText t).terms ∧
      (MergedText.ofRequests (parse t offset)).excludedTerms =
        join [' '] (Contents.ofText t).excluded :=
  Contents.merged_requests
    (fun _ hu => Contents.isSolid_of_mem (fun _ h => wellFormed_of_mem_lex h) (Or.inl hu))
    (fun _ hu => Contents.isSolid_of_mem (fun _ h => wellFormed_of_mem_lex h) (Or.inr hu))
    (Contents.holdsFilters_ofTokens _) offset

theorem Contents.requests_eq_nil_iff {c : Contents} {offset : Int} :
    c.requests offset = [] ↔ c.isEmpty = true := by
  unfold requests
  split_ifs with hempty <;> simp [hempty]

/-- Each request has the filters, at the offset that is given, with words. -/
theorem Contents.exists_of_mem_requests {c : Contents} {offset : Int} {r : SearchRequest}
    (h : r ∈ c.requests offset) :
    ∃ terms excludedTerms isHashtag, r =
      { c.filters with timeZoneOffset := offset, terms, excludedTerms, isHashtag } := by
  unfold requests at h
  split_ifs at h
  · simp at h
  · exact ⟨_, _, _, List.mem_singleton.mp h⟩
  · exact ⟨_, _, _, List.mem_singleton.mp h⟩
  · rcases List.mem_pair.mp h with h | h
    · exact ⟨_, _, _, h⟩
    · exact ⟨_, _, _, h⟩

/-- A search box text cannot widen the scope of the user. -/
theorem scope_of_mem_parse {t : Text} {offset : Int} {r : SearchRequest} (h : r ∈ parse t offset) :
    r.searchWithoutUserId = false ∧ r.includeDeletedChannels = false := by
  have hfilters := Contents.holdsFilters_ofTokens (lex t.strip)
  obtain ⟨terms, excludedTerms, isHashtag, rfl⟩ := Contents.exists_of_mem_requests h
  exact ⟨hfilters.searchWithoutUserId, hfilters.includeDeletedChannels⟩

/-- The requests of a search box text read its dates at the offset that is given. -/
theorem timeZoneOffset_of_mem_parse {t : Text} {offset : Int} {r : SearchRequest}
    (h : r ∈ parse t offset) : r.timeZoneOffset = offset := by
  obtain ⟨terms, excludedTerms, isHashtag, rfl⟩ := Contents.exists_of_mem_requests h
  rfl

theorem Contents.ofText_word {t : Text} (hne : t ≠ []) (hvisible : ∀ c ∈ t, isBlank c = false)
    (hplain : '"' ∉ t) : Contents.ofText t = Contents.add {} t := by
  rw [ofText, (isSolid_of_visible hne hvisible).strip_eq, lex_word hne hvisible hplain]
  rfl

theorem value_ne_nil_of_flagOf? {token value : Text} {flag : Flag}
    (h : flagOf? token = some (flag, value)) : value ≠ [] := by
  unfold flagOf? at h
  split at h
  · cases h
  · cases h
  · obtain ⟨⟨name, rest⟩, -, h⟩ := Option.bind_eq_some_iff.mp h
    obtain ⟨found, -, h⟩ := Option.bind_eq_some_iff.mp h
    split_ifs at h with hempty
    obtain ⟨-, rfl⟩ := Prod.mk.inj (Option.some.inj h)
    simpa using hempty

/-- A single flag makes a request with its filter and nothing else. -/
theorem parse_flag {t value : Text} {flag : Flag} (hne : t ≠ [])
    (hvisible : ∀ c ∈ t, isBlank c = false) (hplain : '"' ∉ t)
    (h : flagOf? t = some (flag, value)) (offset : Int) :
    parse t offset = [{ setFlag {} flag value with timeZoneOffset := offset }] := by
  have hcontents : Contents.ofText t = { filters := setFlag {} flag value } := by
    rw [Contents.ofText_word hne hvisible hplain]
    simp only [Contents.add, h]
  have hvalue := value_ne_nil_of_flagOf? h
  have hset : Contents.isEmpty { filters := setFlag {} flag value } = false := by
    cases flag <;> simp [Contents.isEmpty, setFlag, SearchRequest.hasFilters, hvalue]
  rw [parse, hcontents, Contents.requests, hset]
  cases flag <;> rfl

end SearchBox

end ChannelSearch
