import ChannelSearch.Proofs.MergedTokens
import ChannelSearch.Proofs.PieceOrder
import ChannelSearch.Proofs.PostSearch
import ChannelSearch.Proofs.SearchShapes
import ChannelSearch.Proofs.TextMeaning

/-!
How many tokens a search box text has, and how high the query of posts gets by them. Main statement: the
store accepts the height of the query of a text with at most 985 pieces.
-/

namespace ChannelSearch

open Text Tokens

namespace Tokens

/-- The tokens of all kinds. -/
def count (t : Tokens) : Nat :=
  t.phrases.length + t.terms.length + t.excludedPhrases.length + t.excludedTerms.length +
    t.hashtags.length

end Tokens

namespace Condition

variable {C : Type} {column : C}

/-- The condition of a token is one operand: a test, or two tests in brackets. -/
theorem heights_of_mem_inclusions {t : Tokens} {x : Condition C}
    (h : x ∈ inclusions t column) : ∃ k ≤ 6, x.operandHeights = [k] := by
  have hlike (term : Text) (middle : Bool) :
      (like (Sql.Operand.lower column) term middle).operandHeights = [4] := by
    rw [like, operandHeights]
    rfl
  rcases List.mem_append.mp h with h | h
  · refine ⟨4, by decide, ?_⟩
    rcases List.mem_append.mp h with h | h
    · obtain ⟨tag, -, h⟩ := List.mem_filterMap.mp h
      split_ifs at h
      rw [← Option.some.inj h, hlike]
    · obtain ⟨phrase, -, h⟩ := List.mem_filterMap.mp h
      dsimp only at h
      split_ifs at h
      rw [← Option.some.inj h, hlike]
  · obtain ⟨term, -, h⟩ := List.mem_filterMap.mp h
    split_ifs at h
    · refine ⟨5, by decide, ?_⟩
      rw [← Option.some.inj h, operandHeights, heights, heights_singleton, hlike, hlike]
      rfl
    · exact ⟨4, by decide, by rw [← Option.some.inj h, hlike]⟩

theorem heights_of_mem_exclusions {t : Tokens} {x : Condition C}
    (h : x ∈ exclusions t column) : ∃ k ≤ 6, x.operandHeights = [k] := by
  have hunlike (term : Text) (middle : Bool) :
      (unlike (Sql.Operand.lower column) term middle).operandHeights = [5] := by
    rw [unlike, operandHeights]
    rfl
  rcases List.mem_append.mp h with h | h
  · obtain ⟨term, -, h⟩ := List.mem_filterMap.mp h
    dsimp only at h
    split_ifs at h
    · refine ⟨6, by decide, ?_⟩
      rw [← Option.some.inj h, operandHeights, heights, heights_singleton, hunlike, hunlike]
      rfl
    · exact ⟨5, by decide, by rw [← Option.some.inj h, hunlike]⟩
  · obtain ⟨phrase, -, h⟩ := List.mem_filterMap.mp h
    dsimp only at h
    split_ifs at h
    exact ⟨5, by decide, by rw [← Option.some.inj h, hunlike]⟩

/-- Brackets add a level for each operand at most. -/
theorem heights_group {op : Connective} {xs : List (Condition C)} {k : Nat}
    (h : ∀ x ∈ xs, ∃ j ≤ k, x.operandHeights = [j]) :
    ∃ j ≤ k + xs.length, (group op xs).operandHeights = [j] := by
  have hall : (heights xs).length = xs.length ∧ ∀ j ∈ heights xs, j ≤ k := by
    rw [heights_eq]
    clear op
    induction xs with
    | nil => simp
    | cons x xs ih =>
      obtain ⟨⟨j, hj, hx⟩, hxs⟩ := List.forall_mem_cons.mp h
      obtain ⟨hlength, hbound⟩ := ih hxs
      rw [List.flatMap_cons, hx, List.singleton_append, List.length_cons, List.length_cons, hlength]
      exact ⟨rfl, List.forall_mem_cons.mpr ⟨hj, hbound⟩⟩
  refine ⟨chainHeight (heights xs), ?_, by rw [operandHeights]⟩
  rw [← hall.1]
  exact chainHeight_le hall.2

theorem length_inclusions_add_exclusions (t : Tokens) (column : C) :
    (inclusions t column).length + (exclusions t column).length ≤ t.count := by
  have hincluded : (inclusions t column).length ≤
      t.hashtags.length + t.phrases.length + t.terms.length := by
    rw [inclusions, List.length_append, List.length_append]
    exact Nat.add_le_add (Nat.add_le_add (List.length_filterMap_le ..) (List.length_filterMap_le ..))
      (List.length_filterMap_le ..)
  have hexcluded : (exclusions t column).length ≤
      t.excludedTerms.length + t.excludedPhrases.length := by
    rw [exclusions, List.length_append]
    exact Nat.add_le_add (List.length_filterMap_le ..) (List.length_filterMap_le ..)
  unfold Tokens.count
  omega

/-- The condition of tokens gets a level higher with each of them at most. -/
theorem height_ofTokens?_le {t : Tokens} {orTerms : Bool} {x : Condition C}
    (h : ofTokens? t column orTerms = some x) : x.height ≤ t.count + 7 := by
  have hcount := length_inclusions_add_exclusions t column
  have hincluded {op : Connective} {y : Condition C} (hy : group? op (inclusions t column) = some y) :
      ∃ j ≤ 6 + (inclusions t column).length, y.operandHeights = [j] := by
    obtain ⟨-, rfl⟩ := Tokens.group?_eq_some.mp hy
    exact heights_group fun _ => heights_of_mem_inclusions
  have hexcluded {op : Connective} {y : Condition C} (hy : group? op (exclusions t column) = some y) :
      ∃ j ≤ 6 + (exclusions t column).length, y.operandHeights = [j] := by
    obtain ⟨-, rfl⟩ := Tokens.group?_eq_some.mp hy
    exact heights_group fun _ => heights_of_mem_exclusions
  have hone {y : Condition C} {j : Nat} (hy : y.operandHeights = [j]) : y.height = j := by
    rw [height, hy]
    rfl
  unfold ofTokens? at h
  dsimp only at h
  split at h
  · next inclusion exclusion hin hex =>
    obtain ⟨i, hi, hin⟩ := hincluded hin
    obtain ⟨j, hj, hex⟩ := hexcluded hex
    have hboth : (both inclusion exclusion).height = max i j + 1 := by
      rw [height, operandHeights, hin, hex]
      rfl
    rw [← Option.some.inj h, hboth]
    omega
  · next inclusion hin _ =>
    obtain ⟨i, hi, hin⟩ := hincluded hin
    rw [← Option.some.inj h, hone hin]
    omega
  · next exclusion hnone =>
    obtain ⟨j, hj, hex⟩ := hexcluded h
    rw [hone hex]
    omega

end Condition

/-- The store accepts the height of the query of posts of a text with so many tokens. -/
theorem PostQuery.fitsHeight_of_count {requests : List SearchRequest}
    (h : (MergedText.ofRequests requests).tokens.count ≤ 985) (c : SearchContext) (byUsername : Bool) :
    FitsHeight c byUsername requests := by
  intro q ids hbuild
  cases requests with
  | nil => cases hbuild
  | cons first rest =>
    have hask : Asks (first :: rest) := by
      by_contra hnot
      rw [build?_of_not_asks hnot] at hbuild
      cases hbuild
    rw [build?_of_asks (datesFit_of_build? hbuild) hask] at hbuild
    rw [← Option.some.inj (Except.ok.inj hbuild)]
    refine height_wantedWithin fun x hx => ?_
    have hheight := Condition.height_ofTokens?_le ((textCondition?_tokens _ _).symm.trans hx)
    exact (Nat.add_le_add_right hheight 8).trans (by omega : _ + 7 + 8 ≤ 1000)

namespace SearchBox.Contents

variable {tokens : List Token}

/-- A piece is sorted into one list at most. -/
theorem length_ofTokens_le (tokens : List Token) :
    (ofTokens tokens).terms.length + (ofTokens tokens).excluded.length +
      (ofTokens tokens).hashtags.length ≤ tokens.length := by
  have hadd (token : Text) : (add {} token).terms.length + (add {} token).excluded.length +
      (add {} token).hashtags.length ≤ 1 := by
    unfold add
    split
    · exact Nat.zero_le 1
    · split
      · exact le_refl 1
      · exact le_refl 1
      · split_ifs
        · exact Nat.zero_le 1
        · exact le_refl 1
  rw [terms_ofTokens, excluded_ofTokens, hashtags_ofTokens]
  induction tokens with
  | nil => exact le_refl 0
  | cons token tokens ih =>
    have htoken : (ofTokens [token]).terms.length + (ofTokens [token]).excluded.length +
      (ofTokens [token]).hashtags.length ≤ 1 := hadd token.text
    simp only [List.flatMap_cons, List.length_append, List.length_cons]
    omega

theorem length_words_le {t : Text} (h : ∀ c ∈ t, isBlank c = false) : t.words.length ≤ 1 := by
  rw [Text.words, splitWhere_of_none h]
  exact List.length_filter_le _ [t]

/-- What is cut from a sorted piece is one token at most. -/
theorem length_read_le (hcomplete : ∀ token ∈ tokens, token.Complete) {t : Text}
    (h : t ∈ (ofTokens tokens).terms ∨ t ∈ (ofTokens tokens).excluded) :
    (phrasesOf [t]).length + (wordsOf [t]).length ≤ 1 := by
  rcases form_of_mem hcomplete h with ⟨body, hbody, rfl⟩ | ⟨hplain, hvisible⟩
  · obtain ⟨hphrase, hword⟩ := read_inQuotes hbody
    rw [hphrase, hword, phraseIn]
    split_ifs
    · exact Nat.zero_le 1
    · exact le_refl 1
  · have hplain : '"' ∉ prepare t := fun hquote => hplain (quote_mem_prepare.mp hquote)
    unfold phrasesOf wordsOf
    rw [join_singleton, extractPhrases_of_plain hplain, List.length_nil, Nat.zero_add]
    exact length_words_le (visible_prepare hvisible)

/-- A text has as many tokens as pieces at most. -/
theorem count_tokens_le (hcomplete : ∀ token ∈ tokens, token.Complete) (offset : Int) :
    (MergedText.ofRequests ((ofTokens tokens).requests offset)).tokens.count ≤ tokens.length := by
  have hread {f g : Text → List Text} {ts : List Text}
      (h : ∀ t ∈ ts, (f t).length + (g t).length ≤ 1) :
      (ts.flatMap f).length + (ts.flatMap g).length ≤ ts.length := by
    induction ts with
    | nil => exact le_refl 0
    | cons t ts ih =>
      obtain ⟨ht, hts⟩ := List.forall_mem_cons.mp h
      have hrest := ih hts
      simp only [List.flatMap_cons, List.length_append, List.length_cons]
      omega
  have htag : ∀ t ∈ (ofTokens tokens).hashtags,
      (Text.hashtags (prepare t)).length + ([] : List Text).length ≤ 1 := fun t ht =>
    (List.length_filter_le ..).trans
      (length_words_le (visible_prepare (hcomplete _ (exists_word_of_mem_hashtags ht)).2.1))
  have hterms := hread fun t ht => length_read_le hcomplete (Or.inl ht)
  have hexcluded := hread fun t ht => length_read_le hcomplete (Or.inr ht)
  have hhashtags := hread htag
  have hpieces := length_ofTokens_le tokens
  rw [tokens_ofTokens hcomplete, Tokens.count]
  dsimp only
  omega

end SearchBox.Contents

end ChannelSearch
