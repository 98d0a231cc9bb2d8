import ChannelSearch.Proofs.SearchBoxContents
import ChannelSearch.Proofs.TokenTexts

/-!
A search box text is cut twice: into pieces, and into tokens once the pieces are sorted and joined.
Main statement: a piece comes back as one token, a phrase as a phrase and a word as a word, unless a
quote inside an earlier word of its kind was left open.
-/

namespace ChannelSearch

open Text Tokens

namespace Tokens

/-- A phrase between other texts is read as itself when the quotes before it pair up. -/
theorem read_phrase_between {before after : List Text} {body : Text} (hbody : '"' ∉ body)
    (hvisible : ∃ c ∈ body, isBlank c = false ∧ c ≠ messageEscape)
    (hbefore : PairsUp before.flatten) :
    phrasesOf (before ++ inQuotes body :: after) =
        phrasesOf before ++ prepare (inQuotes body) :: phrasesOf after ∧
      wordsOf (before ++ inQuotes body :: after) = wordsOf before ++ wordsOf after := by
  have hpair : PairsUp [inQuotes body].flatten := by simpa using pairsUp_inQuotes hbody
  obtain ⟨hphrases, hwords⟩ := read_append (inQuotes body :: after) hbefore
  obtain ⟨hphrases', hwords'⟩ := read_append after hpair
  obtain ⟨hone, hnone⟩ := read_phrase hbody hvisible
  rw [List.singleton_append] at hphrases' hwords'
  rw [hphrases, hwords, hphrases', hwords', hone, hnone]
  exact ⟨rfl, rfl⟩

/-- No pair of quotes holds a part of the word: it has no quote, and none is open there or none closes
it; or it has the last quote, without a partner. -/
def StandsAlone (before : List Text) (w : Text) (after : List Text) : Prop :=
  '"' ∉ w ∧ (PairsUp before.flatten ∨ '"' ∉ after.flatten) ∨
    w.count '"' = 1 ∧ PairsUp before.flatten ∧ '"' ∉ after.flatten

theorem StandsAlone.count_le {before after : List Text} {w : Text} (h : StandsAlone before w after) :
    w.count '"' ≤ 1 := by
  rcases h with ⟨hplain, -⟩ | ⟨hone, -⟩
  · simp [List.count_eq_zero.mpr hplain]
  · exact hone.le

theorem StandsAlone.read {before after : List Text} {w : Text} (h : StandsAlone before w after) :
    phrasesOf (before ++ w :: after) = phrasesOf before ++ (phrasesOf [w] ++ phrasesOf after) ∧
      wordsOf (before ++ w :: after) = wordsOf before ++ (wordsOf [w] ++ wordsOf after) := by
  have hleft : phrasesOf (before ++ w :: after) = phrasesOf before ++ phrasesOf ([w] ++ after) ∧
      wordsOf (before ++ w :: after) = wordsOf before ++ wordsOf ([w] ++ after) := by
    rcases h with ⟨hplain, hbefore | hafter⟩ | ⟨-, hbefore, -⟩
    · exact read_append (w :: after) hbefore
    · exact read_append_plain (by simpa [hplain] using hafter)
    · exact read_append (w :: after) hbefore
  have hright : phrasesOf ([w] ++ after) = phrasesOf [w] ++ phrasesOf after ∧
      wordsOf ([w] ++ after) = wordsOf [w] ++ wordsOf after := by
    rcases h with ⟨hplain, -⟩ | ⟨-, -, hafter⟩
    · exact read_append after (pairsUp_of_plain (by simpa using hplain))
    · exact read_append_plain hafter
  rw [hleft.1, hleft.2, hright.1, hright.2]
  exact ⟨rfl, rfl⟩

/-- A word that stands alone between other texts is read as itself. -/
theorem read_word_between {before after : List Text} {w : Text}
    (hword : ∀ c ∈ w, isBlank c = false) (hmark : ∃ c ∈ w, c ≠ messageEscape)
    (halone : StandsAlone before w after) :
    phrasesOf (before ++ w :: after) = phrasesOf before ++ phrasesOf after ∧
      wordsOf (before ++ w :: after) = wordsOf before ++ prepare w :: wordsOf after := by
  obtain ⟨hnone, hone⟩ := read_word halone.count_le hword hmark
  obtain ⟨hphrases, hwords⟩ := halone.read
  rw [hphrases, hwords, hnone, hone]
  exact ⟨rfl, rfl⟩

end Tokens

namespace SearchBox

/-- The tokens that the requests of a search box text are matched by. -/
def tokens (t : Text) (offset : Int) : Tokens :=
  let merged := MergedText.ofRequests (parse t offset)
  .ofTexts merged.terms merged.excludedTerms merged.hashtagTerms

theorem tokens_included (t : Text) (offset : Int) :
    (tokens t offset).phrases = phrasesOf (Contents.ofText t).terms ∧
      (tokens t offset).terms = wordsOf (Contents.ofText t).terms := by
  rw [phrasesOf, wordsOf, ← (merged_parse t offset).1]
  exact ⟨rfl, rfl⟩

theorem tokens_excluded (t : Text) (offset : Int) :
    (tokens t offset).excludedPhrases = phrasesOf (Contents.ofText t).excluded ∧
      (tokens t offset).excludedTerms = wordsOf (Contents.ofText t).excluded := by
  rw [phrasesOf, wordsOf, ← (merged_parse t offset).2]
  exact ⟨rfl, rfl⟩

theorem Contents.terms_between (before after : List Token) (token : Token) :
    (ofTokens (before ++ token :: after)).terms =
      (ofTokens before).terms ++ ((ofTokens [token]).terms ++ (ofTokens after).terms) := by
  rw [terms_ofTokens (before ++ token :: after), terms_ofTokens before, terms_ofTokens after,
    List.flatMap_append, List.flatMap_cons]

theorem Contents.excluded_between (before after : List Token) (token : Token) :
    (ofTokens (before ++ token :: after)).excluded =
      (ofTokens before).excluded ++ ((ofTokens [token]).excluded ++ (ofTokens after).excluded) := by
  rw [excluded_ofTokens (before ++ token :: after), excluded_ofTokens before,
    excluded_ofTokens after, List.flatMap_append, List.flatMap_cons]

theorem terms_phrase {body : Text} (hbody : '"' ∉ body) (hvisible : ∃ c ∈ body, isBlank c = false) :
    (Contents.ofTokens [.phrase false body]).terms = [inQuotes body] := by
  obtain ⟨c, hc, hblank⟩ := hvisible
  have hword : isBlankWord (inQuotes body) = false := by
    rw [isBlankWord, trim_inQuotes hbody, isBlankText, List.all_eq_false]
    exact ⟨c, hc, by simp [hblank]⟩
  have hadd : (Contents.ofTokens [.phrase false body]) =
      if isBlankWord (inQuotes body) then {} else { terms := [inQuotes body] } := rfl
  rw [hadd, hword]
  rfl

theorem excluded_phrase (body : Text) :
    (Contents.ofTokens [.phrase true body]).excluded = [inQuotes body] := rfl

/-- What a piece is sorted as has no white space, unless it has the quotes of a phrase. -/
theorem visible_of_sorted {token : Token} (hwf : token.WellFormed) {w : Text}
    (hquote : w.count '"' ≤ 1)
    (hw : w ∈ (Contents.ofTokens [token]).terms ∨ w ∈ (Contents.ofTokens [token]).excluded) :
    ∀ c ∈ w, isBlank c = false := by
  cases token with
  | phrase negated body =>
    have htwo : (inQuotes body).count '"' = 2 := count_inQuotes hwf
    rcases Contents.mem_add hw with rfl | ⟨-, htext⟩
    · cases negated <;> simp [Token.text, htwo] at hquote
    · cases negated with
      | false => cases htext
      | true =>
        have hbody : inQuotes body = w := (List.cons.inj htext).2
        rw [← hbody, htwo] at hquote
        exact absurd hquote (by decide)
  | word text =>
    rcases Contents.mem_add hw with rfl | ⟨-, htext⟩
    · exact hwf.2
    · have htext : text = '-' :: w := htext
      exact fun c hc => hwf.2 c (htext ▸ List.mem_cons_of_mem '-' hc)

/-- A piece of a search box text gives exactly one token, of its own kind and in its own place:
phrases where the quotes of the earlier pieces of that kind pair up, and words where they stand alone
among the pieces of their kind. Escape marks are no part of a token, so a piece must hold more. -/
theorem tokens_of_piece {t : Text} {before after : List Token} {token : Token}
    (hlex : lex t.strip = before ++ token :: after) (offset : Int) :
    let found := tokens t offset
    let left := Contents.ofTokens before
    let right := Contents.ofTokens after
    (∀ body, token = .phrase false body → (∃ c ∈ body, isBlank c = false ∧ c ≠ messageEscape) →
      PairsUp left.terms.flatten →
        found.phrases = phrasesOf left.terms ++ prepare (inQuotes body) :: phrasesOf right.terms ∧
          found.terms = wordsOf left.terms ++ wordsOf right.terms) ∧
    (∀ body, token = .phrase true body → (∃ c ∈ body, isBlank c = false ∧ c ≠ messageEscape) →
      PairsUp left.excluded.flatten →
        found.excludedPhrases =
            phrasesOf left.excluded ++ prepare (inQuotes body) :: phrasesOf right.excluded ∧
          found.excludedTerms = wordsOf left.excluded ++ wordsOf right.excluded) ∧
    (∀ w, (Contents.ofTokens [token]).terms = [w] → (∃ c ∈ w, c ≠ messageEscape) →
      StandsAlone left.terms w right.terms →
        found.phrases = phrasesOf left.terms ++ phrasesOf right.terms ∧
          found.terms = wordsOf left.terms ++ prepare w :: wordsOf right.terms) ∧
    ∀ w, (Contents.ofTokens [token]).excluded = [w] → (∃ c ∈ w, c ≠ messageEscape) →
      StandsAlone left.excluded w right.excluded →
        found.excludedPhrases = phrasesOf left.excluded ++ phrasesOf right.excluded ∧
          found.excludedTerms = wordsOf left.excluded ++ prepare w :: wordsOf right.excluded := by
  have hwf : token.WellFormed := wellFormed_of_mem_lex (t := t.strip) (hlex ▸ by simp)
  obtain ⟨hphrases, hterms⟩ := tokens_included t offset
  obtain ⟨hexPhrases, hexTerms⟩ := tokens_excluded t offset
  rw [Contents.ofText, hlex, Contents.terms_between] at hphrases hterms
  rw [Contents.ofText, hlex, Contents.excluded_between] at hexPhrases hexTerms
  dsimp only
  rw [hphrases, hterms, hexPhrases, hexTerms]
  refine ⟨?_, ?_, ?_, ?_⟩
  · rintro body rfl hvisible hleft
    have hbody := hvisible.imp fun c hc => And.intro hc.1 hc.2.1
    rw [terms_phrase hwf hbody, List.singleton_append]
    exact read_phrase_between hwf hvisible hleft
  · rintro body rfl hvisible hleft
    rw [excluded_phrase, List.singleton_append]
    exact read_phrase_between hwf hvisible hleft
  · intro w hw hmark halone
    rw [hw, List.singleton_append]
    have hvisible := visible_of_sorted hwf halone.count_le (Or.inl (by simp [hw]))
    exact read_word_between hvisible hmark halone
  · intro w hw hmark halone
    rw [hw, List.singleton_append]
    have hvisible := visible_of_sorted hwf halone.count_le (Or.inr (by simp [hw]))
    exact read_word_between hvisible hmark halone

/-- The phrase of `deploy "Build 100%" -flaky`, between its word and its exclusion. -/
theorem tokens_of_piece_build :
    lex (strip "deploy \"Build 100%\" -flaky".toList) =
        [.word "deploy".toList] ++ .phrase false "Build 100%".toList :: [.word "-flaky".toList] ∧
      (tokens "deploy \"Build 100%\" -flaky".toList 0).phrases = ["\"build 100\\%\"".toList] ∧
        (tokens "deploy \"Build 100%\" -flaky".toList 0).terms = ["deploy".toList] := by
  have hlex : lex (strip "deploy \"Build 100%\" -flaky".toList) =
      [.word "deploy".toList] ++ .phrase false "Build 100%".toList :: [.word "-flaky".toList] := by
    decide +kernel
  obtain ⟨hphrases, hterms⟩ := (tokens_of_piece hlex 0).1 "Build 100%".toList rfl
    ⟨'B', by decide, by decide, by decide⟩ (pairsUp_of_plain (by decide +kernel))
  exact ⟨hlex, hphrases.trans (by decide +kernel), hterms.trans (by decide +kernel)⟩

/-- A quote inside a word hides the phrase after it, and a word of escape marks is no token. -/
theorem stray_quote_hides_phrase :
    lex (strip "a\"b \"c d\"".toList) = [.word "a\"b".toList, .phrase false "c d".toList] ∧
      prepare (inQuotes "c d".toList) ∉ (tokens "a\"b \"c d\"".toList 0).phrases ∧
      lex (strip "\\".toList) = [.word "\\".toList] ∧ (tokens "\\".toList 0).terms = [] := by
  decide +kernel

end SearchBox

end ChannelSearch
