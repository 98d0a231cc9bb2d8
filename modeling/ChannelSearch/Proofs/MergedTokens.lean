import ChannelSearch.MergedText
import ChannelSearch.Proofs.TokenTexts
import Mathlib.Data.List.TakeWhile

/-!
The tokens of the merged texts of several requests. Main statement: they are the tokens of each
request in turn, followed by its explicit phrases, as long as no quote that a text leaves open meets a
quote of a later one.
-/

namespace ChannelSearch

open Text Tokens

/-- The tokens of merged texts. -/
def MergedText.tokens (m : MergedText) : Tokens := .ofTexts m.terms m.excludedTerms m.hashtagTerms

/-- The tokens of the texts of a request alone, without its explicit phrases. -/
def SearchRequest.tokens (r : SearchRequest) : Tokens :=
  if r.isHashtag then .ofTexts [] r.excludedTerms r.terms else .ofTexts r.terms r.excludedTerms []

namespace Tokens

/-- A character that is left of an explicit phrase: neither white space nor a quote, and no escape
mark. -/
def isKept (c : Char) : Bool := !isBlank c && c ≠ '"' && c ≠ messageEscape

/-- The tokens of explicit phrases, one for each that keeps a character. -/
def ofExplicit (phrases : List Text) : List Text :=
  (phrases.filter (·.any isKept)).map fun phrase => inQuotes (prepare (MergedText.bare phrase))

/-- Where texts are joined, no quote of the first ones is open, or none of the others closes it. -/
def CleanCut (ts us : List Text) : Prop := PairsUp ts.flatten ∨ '"' ∉ us.flatten

/-- No quote that a text leaves open meets a quote of a later one. -/
def KeepApart (ts : List Text) : Prop := ts.Pairwise fun t u => PairsUp t ∨ '"' ∉ u

/-- Texts that are read on their own, whatever the texts before and after them hold. -/
structure Undisturbed (before among after : List Text) : Prop where
  left : CleanCut before (among ++ after)
  apart : KeepApart among
  right : CleanCut among after

instance (ts us : List Text) : Decidable (CleanCut ts us) := by unfold CleanCut; infer_instance

instance (ts : List Text) : Decidable (KeepApart ts) := by unfold KeepApart; infer_instance

theorem read_cut {ts us : List Text} (h : CleanCut ts us) :
    phrasesOf (ts ++ us) = phrasesOf ts ++ phrasesOf us ∧
      wordsOf (ts ++ us) = wordsOf ts ++ wordsOf us := by
  rcases h with hpairs | hplain
  · exact read_append us hpairs
  · exact read_append_plain hplain

/-- Texts that keep apart are read one by one. -/
theorem read_apart {ts : List Text} (h : KeepApart ts) :
    phrasesOf ts = ts.flatMap (fun t => phrasesOf [t]) ∧
      wordsOf ts = ts.flatMap fun t => wordsOf [t] := by
  induction ts with
  | nil => simp
  | cons t ts ih =>
    obtain ⟨hfirst, hrest⟩ := List.pairwise_cons.mp h
    have hcut : CleanCut [t] ts := by
      by_cases ht : PairsUp t
      · exact Or.inl (by simpa using ht)
      · refine Or.inr fun hquote => ?_
        obtain ⟨u, hu, hquote⟩ := List.mem_flatten.mp hquote
        exact (hfirst u hu).elim ht fun hplain => hplain hquote
    obtain ⟨hphrases, hwords⟩ := read_cut hcut
    obtain ⟨ihphrases, ihwords⟩ := ih hrest
    rw [List.flatMap_cons, List.flatMap_cons, ← ihphrases, ← ihwords]
    exact ⟨hphrases, hwords⟩

end Tokens

namespace Text

theorem strip_of_blank {t : Text} (h : isBlankText t = true) : t.strip = [] := by
  have hdrop : t.dropWhile isBlank = [] :=
    List.dropWhile_eq_nil_iff.mpr (List.all_eq_true.mp h)
  rw [strip, trim, hdrop]
  rfl

theorem any_strip {p : Char → Bool} (hp : ∀ c, isBlank c = true → p c = false) (t : Text) :
    t.strip.any p = t.any p := by
  apply apply_strip (f := fun t => t.any p)
  · intro c t hc
    rw [List.any_cons, hp c hc, Bool.false_or]
  · intro c t hc
    rw [List.any_append, List.any_cons, hp c hc]
    simp

end Text

namespace Tokens

/-- White space at the ends of a text is no part of a token. -/
theorem read_strip (t : Text) :
    phrasesOf [t.strip] = phrasesOf [t] ∧ wordsOf [t.strip] = wordsOf [t] := by
  have hquote {c : Char} (hc : isBlank c = true) : c ≠ '"' := by
    rintro rfl
    cases hc
  have hhead (c : Char) (t : Text) (hc : isBlank c = true) :
      extractPhrases (prepare (c :: t)) =
        ((extractPhrases (prepare t)).1, c :: (extractPhrases (prepare t)).2) := by
    have hsplit := prepare_append_cons (Or.inl hc) [] t
    rw [prepare_nil, List.nil_append, List.nil_append] at hsplit
    rw [hsplit, extractPhrases_cons (hquote hc)]
  have hlast (c : Char) (t : Text) (hc : isBlank c = true) :
      extractPhrases (prepare (t ++ [c])) =
        ((extractPhrases (prepare t)).1, (extractPhrases (prepare t)).2 ++ [c]) := by
    rw [prepare_append_cons (Or.inl hc) t [], prepare_nil]
    exact extractPhrases_append_plain _ (by simpa using (hquote hc).symm)
  constructor
  · apply apply_strip (f := fun t => phrasesOf [t])
    · intro c t hc
      rw [phrasesOf, join_singleton, hhead c t hc, phrasesOf, join_singleton]
    · intro c t hc
      rw [phrasesOf, join_singleton, hlast c t hc, phrasesOf, join_singleton]
  · apply apply_strip (f := fun t => wordsOf [t])
    · intro c t hc
      rw [wordsOf, join_singleton, hhead c t hc, wordsOf, join_singleton]
      exact words_append_blank hc [] _
    · intro c t hc
      rw [wordsOf, join_singleton, hlast c t hc, wordsOf, join_singleton,
        words_append_blank hc, words_nil, List.append_nil]

/-- A text is read as it stands, white space around it or not. -/
theorem read_nonBlank (t : Text) :
    (MergedText.nonBlank t).flatMap (fun u => phrasesOf [u]) = phrasesOf [t] ∧
      (MergedText.nonBlank t).flatMap (fun u => wordsOf [u]) = wordsOf [t] := by
  obtain ⟨hphrases, hwords⟩ := read_strip t
  unfold MergedText.nonBlank
  split_ifs with hblank
  · rw [← hphrases, ← hwords, strip_of_blank hblank]
    simp [phrasesOf, wordsOf]
  · simpa using ⟨hphrases, hwords⟩

/-- Nothing visible is left of a text in lower case when it held nothing but escape marks. -/
theorem isBlankText_prepare (t : Text) :
    isBlankText (prepare t) = !t.any fun c => !isBlank c && c ≠ messageEscape := by
  rw [Bool.eq_iff_iff, Bool.not_eq_true', List.any_eq_false, isBlankText, List.all_eq_true]
  constructor
  · intro hblank c hc
    by_contra hkept
    rw [Bool.and_eq_true, Bool.not_eq_true', decide_eq_true_eq] at hkept
    obtain ⟨d, hd, hvisible⟩ := exists_visible_prepare hc hkept.2 hkept.1
    rw [hblank d hd] at hvisible
    cases hvisible
  · intro hnone
    have hplain : isBlankText (literal messageEscape t.lower) = true := by
      rw [isBlankText, List.all_eq_true]
      intro d hd
      obtain ⟨hmem, hmark⟩ := mem_literal.mp hd
      obtain ⟨c, hc, hlower⟩ := mem_lowerAfter hmem
      have hcmark : c ≠ messageEscape := fun h => hmark ((hlower.eq_iff (by decide)).mpr h)
      rw [hlower.isBlank_eq]
      simpa [hcmark] using hnone c hc
    rw [← isBlankText_guarded isMark_messageEscape, ← prepare_eq] at hplain
    exact List.all_eq_true.mp hplain

theorem bare_plain (phrase : Text) : '"' ∉ MergedText.bare phrase := by
  have hnone : (MergedText.bare phrase).any (· = '"') = false := by
    rw [MergedText.bare, any_strip fun c hc => decide_eq_false (by rintro rfl; cases hc)]
    simp
  intro hquote
  rw [List.any_eq_false] at hnone
  exact hnone '"' hquote (by simp)

/-- A character that is kept of an explicit phrase stands in what is quoted of it. -/
theorem any_bare (phrase : Text) :
    (MergedText.bare phrase).any (fun c => !isBlank c && c ≠ messageEscape) = phrase.any isKept := by
  rw [MergedText.bare, any_strip fun c hc => by simp [hc], List.any_filter]
  congr 1
  funext c
  unfold isKept
  cases isBlank c <;> by_cases hc : c = '"' <;> simp [hc]

/-- An explicit phrase is read as one phrase, unless nothing is kept of it. -/
theorem read_quotePhrases (phrases : List Text) :
    (MergedText.quotePhrases phrases).flatMap (fun t => phrasesOf [t]) = ofExplicit phrases ∧
      (MergedText.quotePhrases phrases).flatMap (fun t => wordsOf [t]) = [] := by
  induction phrases with
  | nil => exact ⟨rfl, rfl⟩
  | cons phrase phrases ih =>
    obtain ⟨ihphrases, ihwords⟩ := ih
    obtain ⟨hphrase, hword⟩ := read_inQuotes (bare_plain phrase)
    have hblank := isBlankText_prepare (MergedText.bare phrase)
    rw [any_bare] at hblank
    by_cases hempty : MergedText.bare phrase = []
    · have hquote : MergedText.quotePhrases (phrase :: phrases) = MergedText.quotePhrases phrases := by
        simp [MergedText.quotePhrases, hempty]
      have hkept : phrase.any isKept = false := by
        rw [← any_bare, hempty]
        rfl
      rw [hquote, ihphrases, ihwords, ofExplicit, ofExplicit, List.filter_cons, hkept]
      exact ⟨rfl, rfl⟩
    · have hquote : MergedText.quotePhrases (phrase :: phrases) =
          inQuotes (MergedText.bare phrase) :: MergedText.quotePhrases phrases := by
        simp [MergedText.quotePhrases, hempty]
      rw [hquote, List.flatMap_cons, List.flatMap_cons, hphrase, hword, ihphrases, ihwords, phraseIn,
        hblank, ofExplicit, ofExplicit, List.filter_cons]
      cases phrase.any isKept <;> exact ⟨rfl, rfl⟩

/-- The hashtags of texts with spaces between them are those of each. -/
theorem hashtags_join (ts : List Text) :
    Text.hashtags (prepare (join [' '] ts)) = ts.flatMap fun t => Text.hashtags (prepare t) := by
  induction ts with
  | nil => simp [Text.hashtags]
  | cons t ts ih =>
    by_cases hts : ts = []
    · simp [hts]
    · have hsplit := prepare_append_cons (s := ' ') (Or.inl rfl) t (join [' '] ts)
      have hjoin : join [' '] (t :: ts) = t ++ ' ' :: join [' '] ts := by
        rw [join_cons hts, List.append_assoc]
        rfl
      rw [List.flatMap_cons, ← ih, hjoin, hsplit, Text.hashtags, words_append_blank (by decide),
        List.filter_append]
      rfl

end Tokens

namespace MergedText

theorem tokens_request (r : SearchRequest) :
    r.tokens =
      { phrases := if r.isHashtag then [] else phrasesOf [r.terms]
        terms := if r.isHashtag then [] else wordsOf [r.terms]
        excludedPhrases := phrasesOf [r.excludedTerms]
        excludedTerms := wordsOf [r.excludedTerms]
        hashtags := if r.isHashtag then Text.hashtags (prepare r.terms) else [] } := by
  have hnone : extractPhrases (prepare []) = ([], []) := by rw [prepare_nil, extractPhrases_nil]
  have htags : Text.hashtags (prepare []) = [] := by
    rw [prepare_nil, Text.hashtags, words_nil]
    rfl
  have hofTexts (terms excluded tags : Text) :
      Tokens.ofTexts terms excluded tags =
        { phrases := (extractPhrases (prepare terms)).1
          terms := (extractPhrases (prepare terms)).2.words
          excludedPhrases := (extractPhrases (prepare excluded)).1
          excludedTerms := (extractPhrases (prepare excluded)).2.words
          hashtags := Text.hashtags (prepare tags) } := rfl
  unfold SearchRequest.tokens phrasesOf wordsOf
  simp only [hofTexts, join_singleton]
  split_ifs
  · rw [hnone, words_nil]
  · rw [htags]

/-- The texts of a request, read one by one, are its own tokens and its explicit phrases. -/
theorem read_included (r : SearchRequest) :
    (termsOf r).flatMap (fun t => phrasesOf [t]) = r.tokens.phrases ++ ofExplicit r.phrases ∧
      (termsOf r).flatMap (fun t => wordsOf [t]) = r.tokens.terms := by
  obtain ⟨hphrases, hwords⟩ := read_quotePhrases r.phrases
  obtain ⟨hown, hownWords⟩ := read_nonBlank r.terms
  rw [tokens_request, termsOf, List.flatMap_append, List.flatMap_append, hphrases, hwords,
    List.append_nil]
  split_ifs
  · exact ⟨rfl, rfl⟩
  · exact ⟨by rw [hown], hownWords⟩

theorem read_excluded (r : SearchRequest) :
    (excludedOf r).flatMap (fun t => phrasesOf [t]) =
        r.tokens.excludedPhrases ++ ofExplicit r.excludedPhrases ∧
      (excludedOf r).flatMap (fun t => wordsOf [t]) = r.tokens.excludedTerms := by
  obtain ⟨hphrases, hwords⟩ := read_quotePhrases r.excludedPhrases
  obtain ⟨hown, hownWords⟩ := read_nonBlank r.excludedTerms
  rw [tokens_request, excludedOf, List.flatMap_append, List.flatMap_append, hphrases, hwords, hown,
    hownWords, List.append_nil]
  exact ⟨rfl, rfl⟩

/-- The hashtags of a request are found again when it is merged. -/
theorem read_hashtags (r : SearchRequest) :
    (hashtagsOf r).flatMap (fun t => Text.hashtags (prepare t)) = r.tokens.hashtags := by
  have hskip (ts : List Text) :
      (ts.filter (· ≠ [])).flatMap (fun t => Text.hashtags (prepare t)) =
        ts.flatMap fun t => Text.hashtags (prepare t) := by
    induction ts with
    | nil => rfl
    | cons t ts ih =>
      by_cases ht : t = []
      · have hempty : Text.hashtags (prepare t) = [] := by
          rw [ht, prepare_nil, Text.hashtags, words_nil]
          rfl
        rw [List.filter_cons_of_neg (by simpa using ht), List.flatMap_cons, hempty, ih]
        rfl
      · rw [List.filter_cons_of_pos (by simpa using ht), List.flatMap_cons, List.flatMap_cons, ih]
  rw [tokens_request, hashtagsOf]
  split_ifs
  · rw [hskip, ← hashtags_join, join_splitWhere]
  · rfl

/-- A run of texts that nothing disturbs is read one by one, between the texts before and after it. -/
theorem read_undisturbed {before among after : List Text} (h : Undisturbed before among after) :
    phrasesOf (before ++ among ++ after) =
        phrasesOf before ++ among.flatMap (fun t => phrasesOf [t]) ++ phrasesOf after ∧
      wordsOf (before ++ among ++ after) =
        wordsOf before ++ among.flatMap (fun t => wordsOf [t]) ++ wordsOf after := by
  obtain ⟨hleft, hleftWords⟩ := read_cut h.left
  obtain ⟨hright, hrightWords⟩ := read_cut h.right
  obtain ⟨hamong, hamongWords⟩ := read_apart h.apart
  rw [List.append_assoc, hleft, hleftWords, hright, hrightWords, hamong, hamongWords,
    List.append_assoc, List.append_assoc]
  exact ⟨rfl, rfl⟩

/-- Requests are read one by one in their merged texts: where no quote that a text leaves open meets a
quote of a later one, the tokens of a run of requests stand between those of the requests before and
after it, and they are the tokens of each request followed by its explicit phrases. Hashtags are found
whatever the quotes. -/
theorem tokens_of_merged (before among after : List SearchRequest) :
    let found := (ofRequests (before ++ among ++ after)).tokens
    let left := (ofRequests before).tokens
    let right := (ofRequests after).tokens
    (Undisturbed (before.flatMap termsOf) (among.flatMap termsOf) (after.flatMap termsOf) →
      found.phrases =
          left.phrases ++ among.flatMap (fun r => r.tokens.phrases ++ ofExplicit r.phrases) ++
            right.phrases ∧
        found.terms = left.terms ++ among.flatMap (fun r => r.tokens.terms) ++ right.terms) ∧
    (Undisturbed (before.flatMap excludedOf) (among.flatMap excludedOf) (after.flatMap excludedOf) →
      found.excludedPhrases =
          left.excludedPhrases ++
            among.flatMap (fun r => r.tokens.excludedPhrases ++ ofExplicit r.excludedPhrases) ++
              right.excludedPhrases ∧
        found.excludedTerms =
          left.excludedTerms ++ among.flatMap (fun r => r.tokens.excludedTerms) ++
            right.excludedTerms) ∧
    found.hashtags = left.hashtags ++ among.flatMap (fun r => r.tokens.hashtags) ++ right.hashtags := by
  intro found left right
  have hincluded (rs : List SearchRequest) :
      (rs.flatMap termsOf).flatMap (fun t => phrasesOf [t]) =
          rs.flatMap (fun r => r.tokens.phrases ++ ofExplicit r.phrases) ∧
        (rs.flatMap termsOf).flatMap (fun t => wordsOf [t]) = rs.flatMap fun r => r.tokens.terms := by
    rw [List.flatMap_assoc, List.flatMap_assoc]
    exact ⟨congrArg (rs.flatMap ·) (funext fun r => (read_included r).1),
      congrArg (rs.flatMap ·) (funext fun r => (read_included r).2)⟩
  have hexcluded (rs : List SearchRequest) :
      (rs.flatMap excludedOf).flatMap (fun t => phrasesOf [t]) =
          rs.flatMap (fun r => r.tokens.excludedPhrases ++ ofExplicit r.excludedPhrases) ∧
        (rs.flatMap excludedOf).flatMap (fun t => wordsOf [t]) =
          rs.flatMap fun r => r.tokens.excludedTerms := by
    rw [List.flatMap_assoc, List.flatMap_assoc]
    exact ⟨congrArg (rs.flatMap ·) (funext fun r => (read_excluded r).1),
      congrArg (rs.flatMap ·) (funext fun r => (read_excluded r).2)⟩
  have hhashtags (rs : List SearchRequest) :
      (ofRequests rs).tokens.hashtags = rs.flatMap fun r => r.tokens.hashtags := by
    show Text.hashtags (prepare (join [' '] (rs.flatMap hashtagsOf))) = _
    rw [hashtags_join, List.flatMap_assoc]
    exact congrArg (rs.flatMap ·) (funext read_hashtags)
  refine ⟨fun h => ?_, fun h => ?_, ?_⟩
  · obtain ⟨hphrases, hwords⟩ := read_undisturbed h
    rw [(hincluded among).1, ← List.flatMap_append, ← List.flatMap_append] at hphrases
    rw [(hincluded among).2, ← List.flatMap_append, ← List.flatMap_append] at hwords
    exact ⟨hphrases, hwords⟩
  · obtain ⟨hphrases, hwords⟩ := read_undisturbed h
    rw [(hexcluded among).1, ← List.flatMap_append, ← List.flatMap_append] at hphrases
    rw [(hexcluded among).2, ← List.flatMap_append, ← List.flatMap_append] at hwords
    exact ⟨hphrases, hwords⟩
  · show (ofRequests (before ++ among ++ after)).tokens.hashtags = _
    rw [hhashtags, hhashtags before, hhashtags after, List.flatMap_append, List.flatMap_append]

/-- An explicit phrase with quotes in it is found between a request that leaves no quote open and one
that does. -/
theorem tokens_of_merged_ship :
    let before : List SearchRequest := [{ terms := "\"red fox\" runs".toList }]
    let among : List SearchRequest :=
      [{ terms := "Fast".toList, phrases := [" Ship \"it\" ".toList] },
        { terms := "#now".toList, isHashtag := true }]
    let after : List SearchRequest := [{ terms := "a\"b".toList }]
    Undisturbed (before.flatMap termsOf) (among.flatMap termsOf) (after.flatMap termsOf) ∧
      (ofRequests (before ++ among ++ after)).tokens.phrases =
        ["\"red fox\"".toList, "\"ship it\"".toList] ∧
      (ofRequests (before ++ among ++ after)).tokens.terms =
        ["runs".toList, "fast".toList, "a\"b".toList] := by
  intro before among after
  have h : Undisturbed (before.flatMap termsOf) (among.flatMap termsOf) (after.flatMap termsOf) :=
    ⟨by decide +kernel, by decide +kernel, by decide +kernel⟩
  obtain ⟨hphrases, hterms⟩ := (tokens_of_merged before among after).1 h
  refine ⟨h, ?_, ?_⟩
  · rw [hphrases]
    decide +kernel
  · rw [hterms]
    decide +kernel

/-- A quote left open pairs with the next one, be it of another request or of an explicit phrase. -/
theorem open_quote_pairs_with_next :
    let torn : List SearchRequest := [{ terms := "a\"b".toList }, { terms := "c\"d".toList }]
    let hidden : List SearchRequest := [{ terms := "a\"b".toList, phrases := ["c d".toList] }]
    (ofRequests torn).tokens.phrases ≠
        torn.flatMap (fun r => r.tokens.phrases ++ ofExplicit r.phrases) ∧
      (ofRequests hidden).tokens.phrases ≠
        hidden.flatMap (fun r => r.tokens.phrases ++ ofExplicit r.phrases) := by
  decide +kernel

end MergedText

end ChannelSearch
