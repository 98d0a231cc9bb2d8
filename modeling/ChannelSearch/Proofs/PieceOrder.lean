import ChannelSearch.Proofs.AlikeRequests
import ChannelSearch.Proofs.MergedTokens
import ChannelSearch.Proofs.SearchBoxContents

/-!
The order of the pieces of a search box text. Main statements: pieces joined by spaces are read as they
are, and in another order they are sorted into the same words and filters, if they name one date of each
kind at most.
-/

namespace ChannelSearch.SearchBox

open Text Tokens

/-- A phrase that is closed, or a word without quotes. -/
def Token.Complete : Token → Prop
  | .phrase _ body => '"' ∉ body
  | .word w => w ≠ [] ∧ (∀ c ∈ w, isBlank c = false) ∧ '"' ∉ w

instance : DecidablePred Token.Complete
  | .phrase _ body => inferInstanceAs (Decidable ('"' ∉ body))
  | .word w => inferInstanceAs (Decidable (w ≠ [] ∧ (∀ c ∈ w, isBlank c = false) ∧ '"' ∉ w))

theorem Token.Complete.wellFormed {token : Token} (h : token.Complete) : token.WellFormed := by
  cases token with
  | phrase negated body => exact h
  | word w => exact ⟨h.1, h.2.1⟩

section Reading

/-- Complete pieces with white space around them are read as they are. -/
theorem lex_eq_of_complete {tokens : List Token} {t : Text} (h : Spaced tokens t)
    (hcomplete : ∀ token ∈ tokens, token.Complete) : lex t = tokens := by
  induction h with
  | gap hgap => simpa using lex_gap_append hgap []
  | @piece gap rest token tokens hgap hword _ ih =>
    obtain ⟨htoken, htokens⟩ := List.forall_mem_cons.mp hcomplete
    rw [lex_gap_append hgap]
    cases token with
    | phrase negated body => rw [lex_phrase_append htoken, ih htokens]
    | word w =>
      rw [Token.text, lex_plain_append htoken.1 htoken.2.1 htoken.2.2 (hword w rfl), ih htokens]

/-- Pieces with spaces between them are read as they are. -/
theorem lex_join {tokens : List Token} (h : ∀ token ∈ tokens, token.Complete) :
    lex (join [' '] (tokens.map Token.text)) = tokens :=
  lex_eq_of_complete (spaced_join tokens) h

theorem ofText_join {tokens : List Token} (h : ∀ token ∈ tokens, token.Complete) :
    Contents.ofText (join [' '] (tokens.map Token.text)) = Contents.ofTokens tokens := by
  have hstrip : (join [' '] (tokens.map Token.text)).strip = join [' '] (tokens.map Token.text) := by
    by_cases hnone : tokens = []
    · rw [hnone]
      rfl
    · have hsolid : ∀ t ∈ tokens.map Token.text, IsSolid t :=
        List.forall_mem_map.mpr fun token htoken => (h token htoken).wellFormed.isSolid_text
      exact (isSolid_join (by simpa using hnone) hsolid).strip_eq
  rw [Contents.ofText, hstrip, lex_join h]

end Reading

section Filters

variable {r r' : SearchRequest}

theorem setFlag_congr (h : r.SameFilters r') (flag : Flag) (value : Text) :
    (setFlag r flag value).SameFilters (setFlag r' flag value) := by
  cases flag with
  | fromUser => exact { h with fromUsers := h.fromUsers.append_right _ }
  | notFromUser => exact { h with excludedUsers := h.excludedUsers.append_right _ }
  | inChannel => exact { h with inChannels := h.inChannels.append_right _ }
  | notInChannel => exact { h with excludedChannels := h.excludedChannels.append_right _ }
  | extension => exact { h with extensions := h.extensions.append_right _ }
  | on => exact { h with onDate := rfl }
  | after => exact { h with afterDate := rfl }
  | before => exact { h with beforeDate := rfl }

/-- The flags that a search takes one value of. -/
def Flag.IsDate (flag : Flag) : Prop := flag = .on ∨ flag = .after ∨ flag = .before

/-- Two flags may be set in any order, but for two values of one date. -/
theorem setFlag_comm (r : SearchRequest) {flag flag' : Flag} {value value' : Text}
    (h : flag = flag' → flag.IsDate → value = value') :
    (setFlag (setFlag r flag value) flag' value').SameFilters
      (setFlag (setFlag r flag' value') flag value) := by
  have hlists (xs : List Text) (v w : Text) : (xs ++ [v] ++ [w]).Perm (xs ++ [w] ++ [v]) := by
    rw [List.append_assoc, List.append_assoc]
    exact List.Perm.append_left xs (List.Perm.swap w v [])
  by_cases hflags : flag = flag'
  · subst hflags
    have hsame := SearchRequest.sameFilters_refl (setFlag (setFlag r flag value) flag value')
    cases flag with
    | fromUser => exact { hsame with fromUsers := hlists _ _ _ }
    | notFromUser => exact { hsame with excludedUsers := hlists _ _ _ }
    | inChannel => exact { hsame with inChannels := hlists _ _ _ }
    | notInChannel => exact { hsame with excludedChannels := hlists _ _ _ }
    | extension => exact { hsame with extensions := hlists _ _ _ }
    | on => exact { hsame with onDate := (h rfl (Or.inl rfl)).symm }
    | after => exact { hsame with afterDate := (h rfl (Or.inr (Or.inl rfl))).symm }
    | before => exact { hsame with beforeDate := (h rfl (Or.inr (Or.inr rfl))).symm }
  · have hcomm : setFlag (setFlag r flag value) flag' value' =
        setFlag (setFlag r flag' value') flag value := by
      cases flag <;> cases flag' <;> first | rfl | exact absurd rfl hflags
    rw [hcomm]
    exact SearchRequest.sameFilters_refl _

end Filters

/-- The values that pieces set a flag to. -/
def Flag.valuesIn (flag : Flag) (tokens : List Token) : List Text :=
  tokens.filterMap fun token => (flagOf? token.text).bind fun (found, value) =>
    if found = flag then some value else none

theorem Flag.mem_valuesIn {flag : Flag} {tokens : List Token} {value : Text} :
    value ∈ flag.valuesIn tokens ↔ ∃ token ∈ tokens, flagOf? token.text = some (flag, value) := by
  simp only [valuesIn, List.mem_filterMap, Option.bind_eq_some_iff, Prod.exists]
  refine exists_congr fun token => and_congr_right fun _ => ⟨?_, fun h => ⟨flag, value, h, if_pos rfl⟩⟩
  rintro ⟨found, other, h, heq⟩
  split_ifs at heq with hfound
  rw [h, hfound, Option.some.inj heq]

/-- Of each kind of date the pieces name one at most. -/
def NamesDatesOnce (tokens : List Token) : Prop :=
  ∀ flag ∈ [Flag.on, .after, .before], ∀ v ∈ flag.valuesIn tokens, ∀ w ∈ flag.valuesIn tokens, v = w

instance (tokens : List Token) : Decidable (NamesDatesOnce tokens) :=
  inferInstanceAs (Decidable (∀ flag ∈ _, ∀ v ∈ _, ∀ w ∈ _, v = w))

namespace Contents

/-- The same words and filters, in any order. -/
structure SameUpToOrder (c d : Contents) : Prop where
  terms : c.terms.Perm d.terms
  excluded : c.excluded.Perm d.excluded
  hashtags : c.hashtags.Perm d.hashtags
  filters : c.filters.SameFilters d.filters

variable {c d e : Contents} {tokens tokens' : List Token}

theorem sameUpToOrder_refl (c : Contents) : c.SameUpToOrder c :=
  ⟨.rfl, .rfl, .rfl, SearchRequest.sameFilters_refl _⟩

theorem SameUpToOrder.trans (h : c.SameUpToOrder d) (h' : d.SameUpToOrder e) : c.SameUpToOrder e :=
  ⟨h.terms.trans h'.terms, h.excluded.trans h'.excluded, h.hashtags.trans h'.hashtags,
    h.filters.trans h'.filters⟩

theorem filters_add (c : Contents) (token : Text) :
    (c.add token).filters = match flagOf? token with
      | some (flag, value) => setFlag c.filters flag value
      | none => c.filters := by
  cases hflag : flagOf? token with
  | some found => simp only [add, hflag]
  | none =>
    simp only [add, hflag]
    split
    · rfl
    · rfl
    · split_ifs <;> rfl

theorem add_congr (h : c.SameUpToOrder d) (token : Text) :
    (c.add token).SameUpToOrder (d.add token) := by
  obtain ⟨hterms, hexcluded, htags⟩ := add_words c token
  obtain ⟨hterms', hexcluded', htags'⟩ := add_words d token
  refine ⟨?_, ?_, ?_, ?_⟩
  · rw [hterms, hterms']
    exact h.terms.append_right _
  · rw [hexcluded, hexcluded']
    exact h.excluded.append_right _
  · rw [htags, htags']
    exact h.hashtags.append_right _
  · rw [filters_add, filters_add]
    split
    · exact setFlag_congr h.filters _ _
    · exact h.filters

/-- Two pieces may be sorted in any order, but for two dates of one kind. -/
theorem add_comm (c : Contents) {token token' : Text}
    (h : ∀ flag v w, Flag.IsDate flag → flagOf? token = some (flag, v) →
      flagOf? token' = some (flag, w) → v = w) :
    ((c.add token).add token').SameUpToOrder ((c.add token').add token) := by
  have hswap (xs ys zs : List Text) : (xs ++ ys ++ zs).Perm (xs ++ zs ++ ys) := by
    rw [List.append_assoc, List.append_assoc]
    exact List.perm_append_comm.append_left xs
  obtain ⟨hterms, hexcluded, htags⟩ := add_words (c.add token) token'
  obtain ⟨hterms', hexcluded', htags'⟩ := add_words (c.add token') token
  obtain ⟨hfirst, hfirstExcluded, hfirstTags⟩ := add_words c token
  obtain ⟨hfirst', hfirstExcluded', hfirstTags'⟩ := add_words c token'
  refine ⟨?_, ?_, ?_, ?_⟩
  · rw [hterms, hterms', hfirst, hfirst']
    exact hswap _ _ _
  · rw [hexcluded, hexcluded', hfirstExcluded, hfirstExcluded']
    exact hswap _ _ _
  · rw [htags, htags', hfirstTags, hfirstTags']
    exact hswap _ _ _
  · rw [filters_add, filters_add, filters_add, filters_add]
    cases hflag : flagOf? token with
    | none => exact SearchRequest.sameFilters_refl _
    | some found =>
      cases hflag' : flagOf? token' with
      | none => exact SearchRequest.sameFilters_refl _
      | some found' =>
        refine setFlag_comm c.filters fun hsame hdate => ?_
        exact h found.1 found.2 found'.2 hdate hflag (hsame ▸ hflag')

theorem foldl_congr (tokens : List Token) (h : c.SameUpToOrder d) :
    (tokens.foldl (fun c token => c.add token.text) c).SameUpToOrder
      (tokens.foldl (fun c token => c.add token.text) d) := by
  induction tokens generalizing c d with
  | nil => exact h
  | cons token tokens ih => exact ih (add_congr h token.text)

/-- Pieces are sorted into the same words and filters in any order. -/
theorem ofTokens_perm (h : tokens.Perm tokens') (hdates : NamesDatesOnce tokens) :
    (ofTokens tokens).SameUpToOrder (ofTokens tokens') := by
  have hcomm : ∀ t ∈ tokens, ∀ u ∈ tokens, ∀ flag v w, Flag.IsDate flag →
      flagOf? t.text = some (flag, v) → flagOf? u.text = some (flag, w) → v = w := by
    intro t ht u hu flag v w hflag hv hw
    have hkind : flag ∈ [Flag.on, .after, .before] := by
      rcases hflag with rfl | rfl | rfl <;> decide
    exact hdates flag hkind v (Flag.mem_valuesIn.mpr ⟨t, ht, hv⟩) w (Flag.mem_valuesIn.mpr ⟨u, hu, hw⟩)
  clear hdates
  suffices hrun : ∀ c d : Contents, c.SameUpToOrder d →
      (tokens.foldl (fun c token => c.add token.text) c).SameUpToOrder
        (tokens'.foldl (fun c token => c.add token.text) d) from hrun {} {} (sameUpToOrder_refl {})
  induction h with
  | nil => exact fun c d hsame => hsame
  | cons token _ ih =>
    intro c d hsame
    refine ih (fun t ht u hu => ?_) _ _ (add_congr hsame token.text)
    exact hcomm t (List.mem_cons_of_mem token ht) u (List.mem_cons_of_mem token hu)
  | swap token other rest =>
    intro c d hsame
    refine foldl_congr rest ((add_congr (add_congr hsame other.text) token.text).trans ?_)
    exact add_comm d (hcomm other List.mem_cons_self token
      (List.mem_cons_of_mem other List.mem_cons_self))
  | trans hfirst _ ih ih' =>
    intro c d hsame
    refine (ih hcomm c c (sameUpToOrder_refl c)).trans (ih' (fun t ht u hu => ?_) c d hsame)
    exact hcomm t (hfirst.mem_iff.mpr ht) u (hfirst.mem_iff.mpr hu)

theorem SameUpToOrder.isEmpty (h : c.SameUpToOrder d) : c.isEmpty = d.isEmpty := by
  unfold Contents.isEmpty
  rw [h.terms.isEmpty_eq, h.hashtags.isEmpty_eq, h.excluded.isEmpty_eq, h.filters.hasFilters,
    h.filters.extensions.isEmpty_eq]

/-- The first request has the filters. -/
theorem exists_first (c : Contents) (offset : Int) (h : c.isEmpty = false) :
    ∃ first rest, c.requests offset = first :: rest ∧
      first.SameFilters { c.filters with timeZoneOffset := offset } := by
  have hsame := SearchRequest.sameFilters_refl { c.filters with timeZoneOffset := offset }
  have hne : c.requests offset ≠ [] := by
    intro hnil
    rw [requests_eq_nil_iff, h] at hnil
    cases hnil
  obtain ⟨first, rest, hrequests⟩ := List.exists_cons_of_ne_nil hne
  have hfirst : first ∈ c.requests offset := by simp [hrequests]
  obtain ⟨terms, excludedTerms, isHashtag, rfl⟩ := exists_of_mem_requests hfirst
  exact ⟨_, rest, hrequests, { hsame with }⟩

theorem hashtags_ofTokens (tokens : List Token) :
    (ofTokens tokens).hashtags = tokens.flatMap fun token => (ofTokens [token]).hashtags :=
  (foldl_words tokens {}).2.2

/-- A piece that is sorted as a hashtag is a word. -/
theorem exists_word_of_mem_hashtags {t : Text} (h : t ∈ (ofTokens tokens).hashtags) :
    .word t ∈ tokens := by
  rw [hashtags_ofTokens, List.mem_flatMap] at h
  obtain ⟨token, htoken, h⟩ := h
  have hadd : t ∈ (add {} token.text).hashtags := h
  cases token with
  | phrase negated body =>
    cases negated with
    | false =>
      have hnone : (add {} (Token.phrase false body).text).hashtags = [] := by
        show (if isBlankWord (inQuotes body) then ({} : Contents) else _).hashtags = []
        split_ifs <;> rfl
      rw [hnone] at hadd
      cases hadd
    | true => cases hadd
  | word w =>
    have hword : t = w := by
      unfold add Token.text at hadd
      dsimp only at hadd
      split at hadd
      · cases hadd
      · split at hadd
        · cases hadd
        · exact List.mem_singleton.mp hadd
        · split_ifs at hadd <;> cases hadd
    exact hword ▸ htoken

/-- Words are sorted from pieces that are phrases in quotes or have neither quotes nor white space. -/
theorem form_of_mem (hcomplete : ∀ token ∈ tokens, token.Complete) {t : Text}
    (h : t ∈ (ofTokens tokens).terms ∨ t ∈ (ofTokens tokens).excluded) :
    (∃ body, '"' ∉ body ∧ t = inQuotes body) ∨ '"' ∉ t ∧ ∀ c ∈ t, isBlank c = false := by
  obtain ⟨token, htoken, h⟩ : ∃ token ∈ tokens,
      t ∈ (add {} token.text).terms ∨ t ∈ (add {} token.text).excluded := by
    rw [terms_ofTokens, excluded_ofTokens, List.mem_flatMap, List.mem_flatMap] at h
    rcases h with ⟨token, htoken, h⟩ | ⟨token, htoken, h⟩
    · exact ⟨token, htoken, Or.inl h⟩
    · exact ⟨token, htoken, Or.inr h⟩
  have hpiece := hcomplete token htoken
  cases token with
  | phrase negated body =>
    refine Or.inl ⟨body, hpiece, ?_⟩
    cases negated with
    | false =>
      rcases mem_add h with rfl | ⟨-, htext⟩
      · rfl
      · cases htext
    | true =>
      rcases h with h | h
      · cases h
      · exact List.mem_singleton.mp h
  | word w =>
    obtain ⟨-, hvisible, hplain⟩ := hpiece
    rcases mem_add h with rfl | ⟨-, htext⟩
    · exact Or.inr ⟨hplain, hvisible⟩
    · have hw : w = '-' :: t := htext
      rw [hw] at hvisible hplain
      exact Or.inr ⟨fun hquote => hplain (List.mem_cons_of_mem _ hquote),
        fun c hc => hvisible c (List.mem_cons_of_mem _ hc)⟩

/-- What pieces are sorted into keeps its quotes in pairs. -/
theorem pairsUp_of_mem (hcomplete : ∀ token ∈ tokens, token.Complete) {t : Text}
    (h : t ∈ (ofTokens tokens).terms ∨ t ∈ (ofTokens tokens).excluded ∨
      t ∈ (ofTokens tokens).hashtags) : PairsUp t := by
  rw [← or_assoc] at h
  rcases h with h | h
  · rcases form_of_mem hcomplete h with ⟨body, hbody, rfl⟩ | ⟨hplain, -⟩
    · exact pairsUp_inQuotes hbody
    · exact pairsUp_of_plain hplain
  · exact pairsUp_of_plain (hcomplete _ (exists_word_of_mem_hashtags h)).2.2

/-- Texts without spaces are found again where they are joined by spaces. -/
theorem splitWhere_join {ts : List Text} (hne : ts ≠ []) (h : ∀ t ∈ ts, ' ' ∉ t) :
    (join [' '] ts).splitWhere (· = ' ') = ts := by
  have hone {t : Text} (ht : ' ' ∉ t) : t.splitWhere (· = ' ') = [t] :=
    splitWhere_of_none fun c hc => decide_eq_false fun heq => ht (heq ▸ hc)
  induction ts with
  | nil => exact absurd rfl hne
  | cons t ts ih =>
    obtain ⟨ht, hts⟩ := List.forall_mem_cons.mp h
    by_cases hlast : ts = []
    · rw [hlast, join_singleton, hone ht]
    · rw [join_cons hlast, List.append_assoc, List.singleton_append,
        splitWhere_append_cons (by decide), hone ht, ih hlast hts]
      rfl

/-- The merged hashtags of the requests are the sorted hashtags again. -/
theorem hashtagTerms_requests (htags : ∀ t ∈ c.hashtags, t ≠ [] ∧ ' ' ∉ t)
    (hfilters : HoldsFilters c.filters) (offset : Int) :
    (MergedText.ofRequests (c.requests offset)).hashtagTerms = join [' '] c.hashtags := by
  have hfound {r : SearchRequest} (hr : r.isHashtag = true) (hterms : r.terms = join [' '] c.hashtags)
      (hne : c.hashtags ≠ []) : MergedText.hashtagsOf r = c.hashtags := by
    rw [MergedText.hashtagsOf, if_pos hr, hterms, splitWhere_join hne fun t ht => (htags t ht).2,
      List.filter_eq_self]
    exact fun t ht => decide_eq_true (htags t ht).1
  have hwords (terms excludedTerms : Text) : MergedText.hashtagsOf
      { c.filters with timeZoneOffset := offset, terms, excludedTerms } = [] := by
    rw [MergedText.hashtagsOf, hfilters.isHashtag]
    rfl
  unfold requests MergedText.ofRequests
  split_ifs with hempty hnone
  · simp only [isEmpty, Bool.and_eq_true, List.isEmpty_iff] at hempty
    rw [hempty.1.1.1.2]
    rfl
  · dsimp only
    rw [List.flatMap_singleton, hwords, List.isEmpty_iff.mp hnone]
  · have hne : c.hashtags ≠ [] := fun h => hnone (List.isEmpty_iff.mpr h)
    dsimp only
    rw [List.flatMap_singleton, hfound rfl rfl hne]
  · have hne : c.hashtags ≠ [] := fun h => hnone (List.isEmpty_iff.mpr h)
    dsimp only
    rw [List.flatMap_cons, List.flatMap_singleton, hwords, hfound rfl rfl hne,
      List.nil_append]

/-- The merged texts of pieces are what they are sorted into, joined by spaces. -/
theorem merged_ofTokens (hwf : ∀ token ∈ tokens, token.WellFormed) (offset : Int) :
    MergedText.ofRequests ((ofTokens tokens).requests offset) =
      { terms := join [' '] (ofTokens tokens).terms
        excludedTerms := join [' '] (ofTokens tokens).excluded
        hashtagTerms := join [' '] (ofTokens tokens).hashtags } := by
  have hfilters := holdsFilters_ofTokens tokens
  obtain ⟨hterms, hexcluded⟩ := merged_requests (fun t ht => isSolid_of_mem hwf (Or.inl ht))
    (fun t ht => isSolid_of_mem hwf (Or.inr ht)) hfilters offset
  have htags : ∀ t ∈ (ofTokens tokens).hashtags, t ≠ [] ∧ ' ' ∉ t := by
    intro t ht
    obtain ⟨hne, hvisible⟩ := hwf _ (exists_word_of_mem_hashtags ht)
    exact ⟨hne, fun hspace => absurd (hvisible ' ' hspace) (by decide)⟩
  rw [← hterms, ← hexcluded, ← hashtagTerms_requests htags hfilters offset]

/-- Texts in which the quotes pair up are read one by one. -/
theorem read_pieces {ts : List Text} (h : ∀ t ∈ ts, PairsUp t) :
    phrasesOf ts = ts.flatMap (fun t => phrasesOf [t]) ∧
      wordsOf ts = ts.flatMap fun t => wordsOf [t] :=
  read_apart (List.pairwise_of_forall_mem_list fun t ht _ _ => Or.inl (h t ht))

/-- The tokens of pieces are those of each of what they are sorted into. -/
theorem tokens_ofTokens (hcomplete : ∀ token ∈ tokens, token.Complete) (offset : Int) :
    (MergedText.ofRequests ((ofTokens tokens).requests offset)).tokens =
      { phrases := (ofTokens tokens).terms.flatMap fun t => phrasesOf [t]
        terms := (ofTokens tokens).terms.flatMap fun t => wordsOf [t]
        excludedPhrases := (ofTokens tokens).excluded.flatMap fun t => phrasesOf [t]
        excludedTerms := (ofTokens tokens).excluded.flatMap fun t => wordsOf [t]
        hashtags := (ofTokens tokens).hashtags.flatMap fun t => Text.hashtags (prepare t) } := by
  obtain ⟨hphrases, hwords⟩ :=
    read_pieces fun _ ht => pairsUp_of_mem hcomplete (Or.inl ht)
  obtain ⟨hexcludedPhrases, hexcludedWords⟩ :=
    read_pieces fun _ ht => pairsUp_of_mem hcomplete (Or.inr (Or.inl ht))
  rw [merged_ofTokens fun token h => (hcomplete token h).wellFormed, ← hphrases, ← hwords, ← hexcludedPhrases, ← hexcludedWords,
    ← hashtags_join]
  rfl

end Contents

end ChannelSearch.SearchBox
