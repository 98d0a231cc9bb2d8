import ChannelSearch.Proofs.EscapeMarks
import ChannelSearch.Proofs.QuoteSegments
import ChannelSearch.Proofs.TextConditions

/-!
What tokens look like. Main statement: the tokens of any texts are escaped, phrases have their two quotes
and something visible between them, words and hashtags are visible throughout, and the words have one
quote at most; and the patterns that are made of tokens are wildcards around escaped texts.
-/

namespace ChannelSearch

open Text

namespace Tokens

/-- The tokens of all kinds. -/
def toList (t : Tokens) : List Text :=
  t.phrases ++ t.terms ++ t.excludedPhrases ++ t.excludedTerms ++ t.hashtags

/-- Tokens as they are matched. -/
structure WellFormed (t : Tokens) : Prop where
  escaped : ∀ token ∈ t.toList, IsEscaped messageEscape token
  quoted : ∀ phrase ∈ t.phrases ++ t.excludedPhrases,
    ∃ body, phrase = inQuotes body ∧ phrase.count '"' = 2 ∧ ∃ c ∈ body, isBlank c = false
  visible : ∀ word ∈ t.terms ++ t.excludedTerms ++ t.hashtags,
    word ≠ [] ∧ ∀ c ∈ word, isBlank c = false
  tagged : ∀ tag ∈ t.hashtags, tag.head? = some '#' ∧ 1 < tag.length
  oneQuote : t.terms.flatten.count '"' ≤ 1
  oneExcludedQuote : t.excludedTerms.flatten.count '"' ≤ 1

theorem isPlain_of_mem_sought (m : MergedText) : ∀ token ∈ (sought m).toList, IsPlain token := by
  intro token h
  simp only [toList, List.mem_append] at h
  rcases h with (((h | h) | h) | h) | h
  · exact isPlain_phrases _ token h
  · exact isPlain_words _ token h
  · exact isPlain_phrases _ token h
  · exact isPlain_words _ token h
  · exact isPlain_hashtags _ token h

theorem isEscaped_of_isPlain {s : Text} (h : IsPlain s) :
    IsEscaped messageEscape (guarded messageEscape s) :=
  isEscaped_guarded (by decide) fun hmem => (h _ hmem).1 rfl

theorem toList_escaped (t : Tokens) : t.escaped.toList = t.toList.map (guarded messageEscape) := by
  simp [toList, escaped]

/-- A phrase that is read has a visible character between its quotes. -/
theorem quoted_of_mem_phrases {t phrase : Text} (h : phrase ∈ (extractPhrases t).1) :
    ∃ body, phrase = inQuotes body ∧ phrase.count '"' = 2 ∧ ∃ c ∈ body, isBlank c = false := by
  have hcount : phrase.count '"' = 2 := by
    obtain ⟨body, rfl, hbody⟩ := ((mem_extractPhrases t).1 phrase h).1
    exact count_inQuotes hbody
  rw [phrases_eq] at h
  obtain ⟨body, hbody, rfl⟩ := List.mem_map.mp h
  have hvisible : body.isBlankText = false := by simpa using (List.mem_filter.mp hbody).2
  obtain ⟨c, hc, hblank⟩ := List.all_eq_false.mp hvisible
  exact ⟨body, rfl, hcount, c, hc, by simpa using hblank⟩

theorem tagged_of_mem_hashtags {t tag : Text} (h : tag ∈ t.hashtags) :
    tag.head? = some '#' ∧ 1 < tag.length := by
  have htag := (List.mem_filter.mp h).2
  split at htag
  · exact ⟨rfl, by simp⟩
  · cases htag

/-- Of the quotes of a text one is left in its words at most. -/
theorem count_quote_words_le (t : Text) : (extractPhrases t).2.words.flatten.count '"' ≤ 1 := by
  rw [count_flatten_words (by decide)]
  exact count_quote_remainder_le t

theorem wellFormed_ofTexts (terms excludedTerms hashtagTerms : Text) :
    (ofTexts terms excludedTerms hashtagTerms).WellFormed where
  escaped token h := by
    rw [ofTexts_eq ⟨terms, excludedTerms, hashtagTerms⟩, toList_escaped] at h
    obtain ⟨s, hs, rfl⟩ := List.mem_map.mp h
    exact isEscaped_of_isPlain (isPlain_of_mem_sought _ s hs)
  quoted phrase h := (List.mem_append.mp h).elim quoted_of_mem_phrases quoted_of_mem_phrases
  visible word h := by
    rcases List.mem_append.mp h with h | h
    · exact (List.mem_append.mp h).elim mem_words mem_words
    · exact mem_words (List.mem_filter.mp h).1
  tagged _ := tagged_of_mem_hashtags
  oneQuote := count_quote_words_le _
  oneExcludedQuote := count_quote_words_le _

section Patterns

open Needle Condition

variable {C : Type} {column : C} {orTerms : Bool} {x : Condition C} {test : Sql.Test C}

/-- The tests of needles in brackets have the patterns of the needles. -/
theorem exists_needle_of_group {op op' : Connective} (made : Needle → Sql.Test C)
    (hmade : ∀ n, (made n).pattern? = some n.pattern) {nss : List (List Needle)}
    (hplain : ∀ ns ∈ nss, ∀ n ∈ ns, IsPlain n.text)
    (hx : group? op (nss.map (joined op' fun n => .test (made n))) = some x) (ht : test ∈ x.tests) :
    ∃ n : Needle, IsPlain n.text ∧ test.pattern? = some n.pattern := by
  obtain ⟨-, rfl⟩ := group?_eq_some.mp hx
  obtain ⟨y, hy, ht⟩ := mem_tests_group.mp ht
  obtain ⟨ns, hns, rfl⟩ := List.mem_map.mp hy
  obtain ⟨n, hn, ht⟩ := tests_joined ht
  obtain rfl := List.mem_singleton.mp ht
  exact ⟨n, hplain ns hns n hn, hmade n⟩

/-- Every test on merged texts looks for a needle that is plain. -/
theorem exists_needle_of_test {m : MergedText}
    (hx : ofTokens? (ofTexts m.terms m.excludedTerms m.hashtagTerms) column orTerms = some x)
    (ht : test ∈ x.tests) : ∃ n : Needle, IsPlain n.text ∧ test.pattern? = some n.pattern := by
  have hwanted {op : Connective} {y : Condition C}
      (hy : group? op ((sought m).wanted.map (anyFound (.lower column))) = some y)
      (ht : test ∈ y.tests) :=
    exists_needle_of_group (fun n => .like (.lower column) messageEscape n.pattern) (fun _ => rfl)
      (isPlain_of_wanted m) hy ht
  have hunwanted {y : Condition C}
      (hy : group? .all ((sought m).unwanted.map (allMissing (.lower column))) = some y)
      (ht : test ∈ y.tests) :=
    exists_needle_of_group (fun n => .unlike (.lower column) messageEscape n.pattern) (fun _ => rfl)
      (isPlain_of_unwanted m) hy ht
  rw [ofTexts_eq, ofTokens?_sought] at hx
  split at hx
  · next hin hex =>
    obtain rfl := Option.some.inj hx
    rw [tests, List.mem_append] at ht
    exact ht.elim (hwanted hin) (hunwanted hex)
  · next hin _ => exact hwanted (Option.some.inj hx ▸ hin) ht
  · exact hunwanted hx ht

/-- A pattern of merged texts has wildcards of its own at its ends only. -/
theorem exists_isEscaped_of_test {m : MergedText}
    (hx : ofTokens? (ofTexts m.terms m.excludedTerms m.hashtagTerms) column orTerms = some x)
    (ht : test ∈ x.tests) : ∃ s, IsEscaped messageEscape s ∧
      (test.pattern? = some ('%' :: (s ++ ['%'])) ∨ test.pattern? = some (s ++ ['%'])) := by
  obtain ⟨n, hn, hpattern⟩ := exists_needle_of_test hx ht
  refine ⟨guarded messageEscape n.text, isEscaped_of_isPlain hn, ?_⟩
  cases n with
  | within s => exact Or.inl hpattern
  | leading s => exact Or.inr hpattern

end Patterns

/-- Tokens are well formed, whatever the texts. What is cut from an escaped text stays escaped: without
its outer quotes, a leading dash, the mark of a hashtag or a mention, or a star at its end; and so every
pattern that the condition of the tokens has is an escaped text between wildcards. -/
theorem tokens_are_well_formed (terms excludedTerms hashtagTerms : Text) :
    (ofTexts terms excludedTerms hashtagTerms).WellFormed ∧
    (∀ s, IsEscaped messageEscape s →
      IsEscaped messageEscape (s.trim (· = '"')) ∧ IsEscaped messageEscape (s.dropLeading '-') ∧
      (isMarked s = true → IsEscaped messageEscape (s.drop 1)) ∧
      (s.getLast? = some '*' → IsEscaped messageEscape s.dropLast)) ∧
    ∀ (C : Type) (column : C) (orTerms : Bool),
      ∀ x ∈ Condition.ofTokens? (ofTexts terms excludedTerms hashtagTerms) column orTerms,
      ∀ test ∈ x.tests, ∃ s, IsEscaped messageEscape s ∧
        (test.pattern? = some ('%' :: (s ++ ['%'])) ∨ test.pattern? = some (s ++ ['%'])) := by
  refine ⟨wellFormed_ofTexts terms excludedTerms hashtagTerms, fun s hs => ?_, ?_⟩
  · refine ⟨hs.trim ?_, hs.dropLeading (by decide), fun hmarked => ?_, fun hstar => ?_⟩
    · intro c hc
      obtain rfl := of_decide_eq_true hc
      decide
    · refine hs.drop_one fun hhead => ?_
      obtain ⟨rest, rfl⟩ := List.head?_eq_some_iff.mp hhead
      exact absurd hmarked (by simp [isMarked, isMark, messageEscape])
    · exact hs.dropLast hstar (by decide)
  · intro C column orTerms x hx test ht
    exact exists_isEscaped_of_test (m := ⟨terms, excludedTerms, hashtagTerms⟩) hx ht

/-- The cuts of a phrase, a word with a star, a marked word after a dash and a hashtag, and the pattern of
the word with a star. -/
theorem tokens_are_well_formed_build :
    let t := ofTexts "\"Build 100%\" deploy_*".toList "-#flaky".toList "#a_b".toList
    t.toList = ["\"build 100\\%\"".toList, "deploy\\_*".toList, "-#flaky".toList, "#a\\_b".toList] ∧
      IsEscaped messageEscape "build 100\\%".toList ∧ IsEscaped messageEscape "deploy\\_".toList ∧
      IsEscaped messageEscape "flaky".toList ∧ IsEscaped messageEscape "a\\_b".toList ∧
      ∃ x ∈ Condition.ofTokens? t () false, ∃ test ∈ x.tests,
        test.pattern? = some "deploy\\_%".toList ∧ ∃ s, IsEscaped messageEscape s ∧
          (test.pattern? = some ('%' :: (s ++ ['%'])) ∨ test.pattern? = some (s ++ ['%'])) := by
  obtain ⟨hwf, hcuts, hpatterns⟩ := tokens_are_well_formed "\"Build 100%\" deploy_*".toList
    "-#flaky".toList "#a_b".toList
  have htokens : (ofTexts "\"Build 100%\" deploy_*".toList "-#flaky".toList "#a_b".toList).toList =
      ["\"build 100\\%\"".toList, "deploy\\_*".toList, "-#flaky".toList, "#a\\_b".toList] := by
    decide +kernel
  have hpattern : (Condition.ofTokens? (ofTexts "\"Build 100%\" deploy_*".toList "-#flaky".toList
      "#a_b".toList) () false).any (fun x => x.tests.any fun test =>
        test.pattern? = some "deploy\\_%".toList) = true := by
    decide +kernel
  obtain ⟨x, hx, htest⟩ := (Option.any_eq_true _ _).mp hpattern
  obtain ⟨test, htest, heq⟩ := List.any_eq_true.mp htest
  have hescaped := hwf.escaped
  rw [htokens] at hescaped
  obtain ⟨hphrase, hterm, hexcluded, htag, -⟩ := by simpa only [List.forall_mem_cons] using hescaped
  have hclean := (hcuts _ hexcluded).2.1
  exact ⟨htokens, (hcuts _ hphrase).1, (hcuts _ hterm).2.2.2 rfl, (hcuts _ hclean).2.2.1 rfl,
    (hcuts _ htag).2.2.1 rfl, x, hx, test, htest, of_decide_eq_true heq,
    hpatterns Unit () false x hx test htest⟩

end Tokens

end ChannelSearch
