import ChannelSearch.Proofs.Needles
import ChannelSearch.Proofs.TokenTexts
import ChannelSearch.Search.Posts

/-!
The condition that requests put on the text of posts. Main statements: there is one unless no token
asks for anything, and a message satisfies it when its lower case matches the tokens of the merged
texts, read without escapes.
-/

namespace ChannelSearch

open Text

namespace Text

/-- What a reader finds in a text: phrases in quotes that are not blank, and no new characters but
spaces. -/
theorem mem_extractPhrases (t : Text) :
    (∀ phrase ∈ (extractPhrases t).1,
      Condition.IsPhrase phrase ∧ ∀ c ∈ phrase, c ∈ t) ∧
    ∀ c ∈ (extractPhrases t).2, c = ' ' ∨ c ∈ t := by
  induction t using phraseInduction with
  | plain w hw =>
    rw [extractPhrases_of_plain hw]
    exact ⟨by simp, fun c hc => Or.inr hc⟩
  | lone w rest hw hrest =>
    rw [extractPhrases_append_of_plain hw, extractPhrases_lone_quote hrest]
    exact ⟨by simp, fun c hc => Or.inr hc⟩
  | pair w body after hw hbody ih =>
    rw [extractPhrases_append_of_plain hw, extractPhrases_pair hbody]
    refine ⟨fun phrase hphrase => ?_, fun c hc => ?_⟩
    · rcases List.mem_append.mp hphrase with h | h
      · unfold phraseIn at h
        split_ifs at h
        · cases h
        · rw [List.mem_singleton] at h
          exact ⟨⟨body, h, hbody⟩, fun c hc => by simp [← h, hc]⟩
      · obtain ⟨hquoted, hmem⟩ := ih.1 phrase h
        exact ⟨hquoted, fun c hc => by simp [hmem c hc]⟩
    · rcases List.mem_append.mp hc with h | h
      · simp [h]
      · rcases List.mem_cons.mp h with h | h
        · exact Or.inl h
        · exact (ih.2 c h).imp id fun h => by simp [h]

theorem mem_of_mem_dropLeading {t : Text} {c d : Char} (h : c ∈ t.dropLeading d) : c ∈ t := by
  cases t with
  | nil => exact h
  | cons x t =>
    rw [dropLeading] at h
    split_ifs at h
    · exact List.mem_cons_of_mem x h
    · exact h

theorem hashtags_guarded (t : Text) :
    hashtags (guarded Tokens.messageEscape t) = (hashtags t).map (guarded Tokens.messageEscape) := by
  unfold hashtags
  rw [words_guarded isMark_messageEscape, List.filter_map]
  congr 1
  apply List.filter_congr
  intro word _
  rw [Function.comp_apply]
  match word with
  | [] => rfl
  | [c] =>
    by_cases hc : isWildcard c = true
    · simp [guarded_cons_wildcard hc, Tokens.messageEscape]
    · rw [guarded_cons_plain (by simpa using hc)]
      rfl
  | c :: d :: word =>
    obtain ⟨x, rest, hrest⟩ := List.exists_cons_of_ne_nil
      (guarded_cons_ne_nil Tokens.messageEscape d word)
    by_cases hc : isWildcard c = true
    · have hne : c ≠ '#' := by
        rintro rfl
        cases hc
      rw [guarded_cons_wildcard hc]
      simp [Tokens.messageEscape, hne]
    · rw [guarded_cons_plain (by simpa using hc), hrest]
      by_cases htag : c = '#'
      · subst htag
        rfl
      · simp [htag]

end Text

namespace Tokens

/-- A text as it is searched for: in lower case, without escape marks. -/
def plain (t : Text) : Text := literal messageEscape t.lower

/-- The tokens of merged texts, wildcards and all. -/
def sought (m : MergedText) : Tokens :=
  { phrases := (extractPhrases (plain m.terms)).1
    terms := (extractPhrases (plain m.terms)).2.words
    excludedPhrases := (extractPhrases (plain m.excludedTerms)).1
    excludedTerms := (extractPhrases (plain m.excludedTerms)).2.words
    hashtags := (plain m.hashtagTerms).hashtags }

/-- Tokens are made of the escaped texts as of the plain ones. -/
theorem ofTexts_eq (m : MergedText) :
    ofTexts m.terms m.excludedTerms m.hashtagTerms = (sought m).escaped := by
  have hplain (t : Text) :
      escapeWildcards t.lower [messageEscape] = guarded messageEscape (plain t) := prepare_eq t
  unfold ofTexts sought escaped
  simp only [hplain, extractPhrases_guarded isMark_messageEscape, words_guarded isMark_messageEscape,
    hashtags_guarded]

/-- Only lower case, and no escape mark. -/
def IsPlain (t : Text) : Prop := ∀ c ∈ t, c ≠ messageEscape ∧ c.toLower = c

theorem isPlain_plain (t : Text) : IsPlain (plain t) := by
  intro c hc
  obtain ⟨hmem, hne⟩ := mem_literal.mp hc
  exact ⟨hne, toLower_of_mem_lower hmem⟩

theorem IsPlain.mono {s t : Text} (h : IsPlain t) (hs : ∀ c ∈ s, c ∈ t) : IsPlain s :=
  fun c hc => h c (hs c hc)

theorem isPlain_phrases (t : Text) : ∀ phrase ∈ (extractPhrases (plain t)).1, IsPlain phrase :=
  fun phrase h => (isPlain_plain t).mono ((mem_extractPhrases _).1 phrase h).2

theorem isPlain_words (t : Text) : ∀ word ∈ (extractPhrases (plain t)).2.words, IsPlain word := by
  intro word hword c hc
  rcases (mem_extractPhrases _).2 c (mem_of_mem_words hword hc) with rfl | h
  · decide
  · exact isPlain_plain t c h

theorem isPlain_hashtags (t : Text) : ∀ tag ∈ (plain t).hashtags, IsPlain tag :=
  fun _ h => (isPlain_plain t).mono fun _ => mem_of_mem_words (List.mem_filter.mp h).1

end Tokens

namespace Needle

open Tokens

theorem isPlain_of_ofTerm? {term : Text} {ns : List Needle} (h : ofTerm? term = some ns)
    (hterm : IsPlain term) : ∀ n ∈ ns, IsPlain n.text := by
  unfold ofTerm? at h
  split_ifs at h
  · obtain rfl := Option.some.inj h
    intro n hn
    rcases List.mem_pair.mp hn with rfl | rfl
    · exact hterm
    · exact hterm.mono fun c => List.mem_of_mem_drop
  · obtain rfl := Option.some.inj h
    intro n hn
    rw [List.mem_singleton.mp hn]
    exact hterm.mono fun c => List.mem_of_mem_dropLast
  · obtain rfl := Option.some.inj h
    intro n hn
    rw [List.mem_singleton.mp hn]
    exact hterm

theorem isPlain_of_ofPhrase? {phrase : Text} {ns : List Needle} (h : ofPhrase? phrase = some ns)
    (hquoted : Condition.IsPhrase phrase) (hphrase : IsPlain phrase) : ∀ n ∈ ns, IsPlain n.text := by
  obtain ⟨body, rfl, hbody⟩ := hquoted
  unfold ofPhrase? at h
  rw [trim_inQuotes hbody] at h
  dsimp only at h
  split_ifs at h
  obtain rfl := Option.some.inj h
  intro n hn
  rw [List.mem_singleton.mp hn]
  exact hphrase.mono fun c hc => by simp [inQuotes, Needle.text] at hc ⊢; simp [hc]

theorem isPlain_of_ofHashtag? {tag : Text} {ns : List Needle} (h : ofHashtag? tag = some ns)
    (htag : IsPlain tag) : ∀ n ∈ ns, IsPlain n.text := by
  unfold ofHashtag? at h
  split_ifs at h
  obtain rfl := Option.some.inj h
  intro n hn
  rw [List.mem_singleton.mp hn]
  exact htag

end Needle

namespace Tokens

open Needle

theorem isPlain_of_wanted (m : MergedText) : ∀ ns ∈ (sought m).wanted, ∀ n ∈ ns, IsPlain n.text := by
  intro ns hns
  simp only [wanted, List.mem_append, List.mem_filterMap] at hns
  obtain (⟨tag, htag, h⟩ | ⟨phrase, hphrase, h⟩) | ⟨term, hterm, h⟩ := hns
  · exact isPlain_of_ofHashtag? h (isPlain_hashtags _ tag htag)
  · exact isPlain_of_ofPhrase? h ((mem_extractPhrases _).1 phrase hphrase).1
      (isPlain_phrases _ phrase hphrase)
  · exact isPlain_of_ofTerm? h (isPlain_words _ term hterm)

theorem isPlain_of_unwanted (m : MergedText) :
    ∀ ns ∈ (sought m).unwanted, ∀ n ∈ ns, IsPlain n.text := by
  intro ns hns
  simp only [unwanted, List.mem_append, List.mem_filterMap] at hns
  obtain ⟨term, hterm, h⟩ | ⟨phrase, hphrase, h⟩ := hns
  · exact isPlain_of_ofTerm? h ((isPlain_words _ term hterm).mono fun _ => mem_of_mem_dropLeading)
  · exact isPlain_of_ofPhrase? h ((mem_extractPhrases _).1 phrase hphrase).1
      (isPlain_phrases _ phrase hphrase)

end Tokens

namespace Needle

open Tokens Condition

variable {C : Type} {users : UserQuery → List Text} {row : C → Sql.Value} {column : C}

theorem likeText_pattern {n : Needle} (hn : IsPlain n.text) (t : Text) :
    Sql.likeText messageEscape n.pattern t.lower = true ↔ n.FoundIn t.lower := by
  have hmark : messageEscape ∉ n.text := fun h => (hn _ h).1 rfl
  have hfold : n.text.folded = n.text := folded_eq fun c hc => (hn c hc).2
  have hlower : t.lower.folded = t.lower := folded_eq fun c => toLower_of_mem_lower
  cases n with
  | within s =>
    have hfound := Sql.likeText_within (by decide) hmark t.lower
    rw [hlower, hfold] at hfound
    exact hfound
  | leading s =>
    have hfound := Sql.likeText_leading (by decide) hmark t.lower
    rw [hlower, hfold] at hfound
    exact hfound

theorem holds_found {n : Needle} (hn : IsPlain n.text) :
    holds users row (n.found (.lower column)) = true ↔ n.FoundIn (row column).asText.lower := by
  rw [found, holds_test]
  exact likeText_pattern hn _

theorem holds_missing {n : Needle} (hn : IsPlain n.text) :
    holds users row (n.missing (.lower column)) = true ↔ ¬ n.FoundIn (row column).asText.lower := by
  rw [missing, holds_test, Sql.Test.holds, Bool.not_eq_true', ← likeText_pattern hn,
    Bool.not_eq_true]
  rfl

theorem holds_joined_any (one : Needle → Condition C) (ns : List Needle) :
    holds users row (joined .any one ns) = true ↔ ∃ n ∈ ns, holds users row (one n) = true := by
  have hgroup : holds users row (.group .any (ns.map one)) = true ↔
      ∃ n ∈ ns, holds users row (one n) = true := by
    rw [holds_any, List.any_map, List.any_eq_true]
    rfl
  match ns with
  | [n] => simp [joined]
  | [] => exact hgroup
  | _ :: _ :: _ => exact hgroup

theorem holds_joined_all (one : Needle → Condition C) (ns : List Needle) :
    holds users row (joined .all one ns) = true ↔ ∀ n ∈ ns, holds users row (one n) = true := by
  have hgroup : holds users row (.group .all (ns.map one)) = true ↔
      ∀ n ∈ ns, holds users row (one n) = true := by
    rw [holds_all, List.all_map, List.all_eq_true]
    rfl
  match ns with
  | [n] => simp [joined]
  | [] => exact hgroup
  | _ :: _ :: _ => exact hgroup

theorem holds_anyFound {ns : List Needle} (hns : ∀ n ∈ ns, IsPlain n.text) :
    holds users row (anyFound (.lower column) ns) = true ↔
      ∃ n ∈ ns, n.FoundIn (row column).asText.lower :=
  (holds_joined_any _ ns).trans
    (exists_congr fun n => and_congr_right fun hn => holds_found (hns n hn))

theorem holds_allMissing {ns : List Needle} (hns : ∀ n ∈ ns, IsPlain n.text) :
    holds users row (allMissing (.lower column) ns) = true ↔
      ∀ n ∈ ns, ¬ n.FoundIn (row column).asText.lower :=
  (holds_joined_all _ ns).trans (forall₂_congr fun n hn => holds_missing (hns n hn))

end Needle

namespace Tokens

open Needle Condition

variable {C : Type} {users : UserQuery → List Text} {row : C → Sql.Value} {column : C}

/-- The condition of merged texts, made of needles. -/
theorem ofTokens?_sought (m : MergedText) (column : C) (orTerms : Bool) :
    ofTokens? (sought m).escaped column orTerms =
      match group? (if orTerms then .any else .all) ((sought m).wanted.map (anyFound (.lower column))),
        group? .all ((sought m).unwanted.map (allMissing (.lower column))) with
      | some inclusion, some exclusion => some (.both inclusion exclusion)
      | some inclusion, none => some inclusion
      | none, exclusion => exclusion :=
  ofTokens?_escaped (fun phrase h => ((mem_extractPhrases _).1 phrase h).1)
    (fun phrase h => ((mem_extractPhrases _).1 phrase h).1) column orTerms

theorem group?_eq_none {op : Connective} {xs : List (Condition C)} :
    group? op xs = none ↔ xs = [] := by
  simp [group?]

theorem group?_eq_some {op : Connective} {xs : List (Condition C)} {x : Condition C} :
    group? op xs = some x ↔ xs ≠ [] ∧ x = .group op xs := by
  unfold group?
  split_ifs with h
  · constructor
    · intro heq
      cases heq
    · exact fun hx => absurd (List.isEmpty_iff.mp h) hx.1
  · constructor
    · exact fun heq => ⟨fun hnil => h (List.isEmpty_iff.mpr hnil), (Option.some.inj heq).symm⟩
    · exact fun hx => congrArg some hx.2.symm

section Made

variable {P : Condition C → Prop} {x : Sql.Operand C}

theorem forall_ofPhrases (hlike : ∀ term middle, P (like x term middle)) (phrases : List Text) :
    ∀ y ∈ ofPhrases x phrases, P y := by
  intro y hy
  obtain ⟨phrase, -, hy⟩ := List.mem_filterMap.mp hy
  dsimp only at hy
  split_ifs at hy
  exact Option.some.inj hy ▸ hlike _ _

theorem forall_ofHashtags (hlike : ∀ term middle, P (like x term middle)) (tags : List Text) :
    ∀ y ∈ ofHashtags x tags, P y := by
  intro y hy
  obtain ⟨tag, -, hy⟩ := List.mem_filterMap.mp hy
  split_ifs at hy
  exact Option.some.inj hy ▸ hlike _ _

theorem forall_ofTerms (hlike : ∀ term middle, P (like x term middle))
    (hgroup : ∀ op xs, xs ≠ [] → (∀ y ∈ xs, P y) → P (.group op xs)) (terms : List Text) :
    ∀ y ∈ ofTerms x terms, P y := by
  intro y hy
  obtain ⟨term, -, hy⟩ := List.mem_filterMap.mp hy
  split_ifs at hy
  · rw [← Option.some.inj hy]
    exact hgroup .any _ (List.cons_ne_nil _ _) (List.forall_mem_cons.mpr
      ⟨hlike _ _, List.forall_mem_singleton.mpr (hlike _ _)⟩)
  · exact Option.some.inj hy ▸ hlike _ _

theorem forall_ofExcludedTerms (hunlike : ∀ term middle, P (unlike x term middle))
    (hgroup : ∀ op xs, xs ≠ [] → (∀ y ∈ xs, P y) → P (.group op xs)) (terms : List Text) :
    ∀ y ∈ ofExcludedTerms x terms, P y := by
  intro y hy
  obtain ⟨term, -, hy⟩ := List.mem_filterMap.mp hy
  dsimp only at hy
  split_ifs at hy
  · rw [← Option.some.inj hy]
    exact hgroup .all _ (List.cons_ne_nil _ _) (List.forall_mem_cons.mpr
      ⟨hunlike _ _, List.forall_mem_singleton.mpr (hunlike _ _)⟩)
  · exact Option.some.inj hy ▸ hunlike _ _

theorem forall_ofExcludedPhrases (hunlike : ∀ term middle, P (unlike x term middle))
    (phrases : List Text) : ∀ y ∈ ofExcludedPhrases x phrases, P y := by
  intro y hy
  obtain ⟨phrase, -, hy⟩ := List.mem_filterMap.mp hy
  dsimp only at hy
  split_ifs at hy
  exact Option.some.inj hy ▸ hunlike _ _

end Made

/-- The condition of tokens has what its tests have, if brackets keep it and so do an inclusion and an
exclusion side by side. -/
theorem forall_ofTokens? {P : Condition C → Prop} {tokens : Tokens} {orTerms : Bool} {x : Condition C}
    (hlike : ∀ term middle, P (like (.lower column) term middle))
    (hunlike : ∀ term middle, P (unlike (.lower column) term middle))
    (hgroup : ∀ op xs, xs ≠ [] → (∀ y ∈ xs, P y) → P (.group op xs))
    (hboth : ∀ op xs ys, P (.group op xs) → P (.group .all ys) →
      P (.both (.group op xs) (.group .all ys)))
    (h : ofTokens? tokens column orTerms = some x) : P x := by
  have hincluded (op : Connective) (y : Condition C) (hy : group? op
      (ofHashtags (.lower column) tokens.hashtags ++ ofPhrases (.lower column) tokens.phrases ++
        ofTerms (.lower column) tokens.terms) = some y) : P y := by
    obtain ⟨hne, rfl⟩ := group?_eq_some.mp hy
    exact hgroup op _ hne (List.forall_mem_append.mpr
      ⟨List.forall_mem_append.mpr ⟨forall_ofHashtags hlike _, forall_ofPhrases hlike _⟩,
        forall_ofTerms hlike hgroup _⟩)
  have hexcluded (y : Condition C) (hy : group? .all
      (ofExcludedTerms (.lower column) tokens.excludedTerms ++
        ofExcludedPhrases (.lower column) tokens.excludedPhrases) = some y) : P y := by
    obtain ⟨hne, rfl⟩ := group?_eq_some.mp hy
    exact hgroup .all _ hne (List.forall_mem_append.mpr
      ⟨forall_ofExcludedTerms hunlike hgroup _, forall_ofExcludedPhrases hunlike _⟩)
  unfold ofTokens? at h
  dsimp only at h
  split at h
  · next inclusion exclusion hin hex =>
    obtain rfl := Option.some.inj h
    have hinclusion := hincluded _ inclusion hin
    have hexclusion := hexcluded exclusion hex
    obtain ⟨-, rfl⟩ := group?_eq_some.mp hin
    obtain ⟨-, rfl⟩ := group?_eq_some.mp hex
    exact hboth _ _ _ hinclusion hexclusion
  · next inclusion hin hex => exact Option.some.inj h ▸ hincluded _ inclusion hin
  · next hin => exact hexcluded x h

/-- There is no condition where no token asks for anything. -/
theorem ofTokens?_eq_none {m : MergedText} {orTerms : Bool} :
    ofTokens? (sought m).escaped column orTerms = none ↔ (sought m).AskNothing := by
  rw [ofTokens?_sought, AskNothing]
  by_cases hw : (sought m).wanted = [] <;> by_cases hu : (sought m).unwanted = [] <;>
    simp [group?, hw, hu]

theorem holds_wanted (m : MergedText) (orTerms : Bool) :
    holds users row (.group (if orTerms then .any else .all)
        ((sought m).wanted.map (anyFound (.lower column)))) = true ↔
      if orTerms then ∃ ns ∈ (sought m).wanted, ∃ n ∈ ns, n.FoundIn (row column).asText.lower
      else ∀ ns ∈ (sought m).wanted, ∃ n ∈ ns, n.FoundIn (row column).asText.lower := by
  cases orTerms with
  | true =>
    rw [if_pos rfl, if_pos rfl, holds_any, List.any_map, List.any_eq_true]
    exact exists_congr fun ns => and_congr_right fun hns =>
      holds_anyFound (isPlain_of_wanted m ns hns)
  | false =>
    rw [if_neg Bool.false_ne_true, if_neg Bool.false_ne_true, holds_all, List.all_map,
      List.all_eq_true]
    exact forall₂_congr fun ns hns => holds_anyFound (isPlain_of_wanted m ns hns)

theorem holds_unwanted (m : MergedText) :
    holds users row (.group .all ((sought m).unwanted.map (allMissing (.lower column)))) = true ↔
      ∀ ns ∈ (sought m).unwanted, ∀ n ∈ ns, ¬ n.FoundIn (row column).asText.lower := by
  rw [holds_all, List.all_map, List.all_eq_true]
  exact forall₂_congr fun ns hns => holds_allMissing (isPlain_of_unwanted m ns hns)

/-- A row satisfies the condition when its text in lower case matches the tokens. -/
theorem holds_ofTokens? {m : MergedText} {orTerms : Bool} {x : Condition C}
    (h : ofTokens? (sought m).escaped column orTerms = some x) :
    holds users row x = true ↔ (sought m).Match orTerms (row column).asText.lower := by
  rw [ofTokens?_sought] at h
  cases hin : group? (if orTerms then .any else .all)
      ((sought m).wanted.map (anyFound (.lower column))) with
  | none =>
    have hnone : (sought m).wanted = [] := List.map_eq_nil_iff.mp (group?_eq_none.mp hin)
    cases hex : group? .all ((sought m).unwanted.map (allMissing (.lower column))) with
    | none =>
      rw [hin, hex] at h
      cases h
    | some exclusion =>
      rw [hin, hex] at h
      obtain rfl := Option.some.inj h
      rw [(group?_eq_some.mp hex).2, holds_unwanted]
      exact ⟨fun hmissing => ⟨fun hne => absurd hnone hne, hmissing⟩, fun hmatch => hmatch.2⟩
  | some inclusion =>
    have hsome : (sought m).wanted ≠ [] := fun hnil =>
      (group?_eq_some.mp hin).1 (List.map_eq_nil_iff.mpr hnil)
    cases hex : group? .all ((sought m).unwanted.map (allMissing (.lower column))) with
    | none =>
      have hnone : (sought m).unwanted = [] := List.map_eq_nil_iff.mp (group?_eq_none.mp hex)
      rw [hin, hex] at h
      obtain rfl := Option.some.inj h
      rw [(group?_eq_some.mp hin).2, holds_wanted]
      exact ⟨fun hfound => ⟨fun _ => hfound, by simp [hnone]⟩, fun hmatch => hmatch.1 hsome⟩
    | some exclusion =>
      rw [hin, hex] at h
      obtain rfl := Option.some.inj h
      rw [holds_both, Bool.and_eq_true, (group?_eq_some.mp hin).2, (group?_eq_some.mp hex).2,
        holds_wanted, holds_unwanted]
      exact ⟨fun hx => ⟨fun _ => hx.1, hx.2⟩, fun hmatch => ⟨hmatch.1 hsome, hmatch.2⟩⟩

end Tokens

namespace Tokens

theorem askNothing_of_blank {m : MergedText} (hterms : m.terms = []) (hexcluded : m.excludedTerms = [])
    (htags : m.hashtagTerms.isBlankText = true) : (sought m).AskNothing := by
  have hnil : plain [] = [] := rfl
  have hblank : ∀ c ∈ plain m.hashtagTerms, isBlank c = true := by
    intro c hc
    obtain ⟨d, hd, hlower⟩ := mem_lowerAfter (mem_literal.mp hc).1
    rw [hlower.isBlank_eq]
    exact List.all_eq_true.mp htags d hd
  have hwords : (plain m.hashtagTerms).hashtags = [] := by
    rw [Text.hashtags, words_of_blank hblank]
    rfl
  unfold AskNothing wanted unwanted sought
  rw [hterms, hexcluded, hnil, hwords, extractPhrases_nil, words_nil]
  exact ⟨rfl, rfl⟩

end Tokens

namespace SearchRequest

/-- A request that asks for nothing has no text to merge, but for white space. -/
theorem merged_of_isEmpty {r : SearchRequest} (h : r.isEmpty = true) :
    MergedText.termsOf r = [] ∧ MergedText.excludedOf r = [] ∧
      ∀ tag ∈ MergedText.hashtagsOf r, ∀ c ∈ tag, isBlank c = true := by
  simp only [isEmpty, hasText, Bool.not_or, Bool.and_eq_true, Bool.not_not, List.isEmpty_iff] at h
  obtain ⟨⟨⟨⟨hterms, hexcluded⟩, hphrases⟩, hexcludedPhrases⟩, -⟩ := h
  have hquote : MergedText.quotePhrases [] = [] := rfl
  refine ⟨?_, ?_, fun tag htag c hc => ?_⟩
  · simp [MergedText.termsOf, MergedText.nonBlank, hphrases, hquote, hterms]
  · simp [MergedText.excludedOf, MergedText.nonBlank, hexcludedPhrases, hquote, hexcluded]
  · unfold MergedText.hashtagsOf at htag
    split_ifs at htag
    · exact List.all_eq_true.mp hterms c (mem_of_mem_splitWhere (List.mem_filter.mp htag).1 hc)
    · cases htag

end SearchRequest

/-- Requests that ask for nothing merge to no text but white space. -/
theorem MergedText.ofRequests_of_isEmpty {requests : List SearchRequest}
    (h : requests.all (·.isEmpty) = true) :
    (ofRequests requests).terms = [] ∧ (ofRequests requests).excludedTerms = [] ∧
      (ofRequests requests).hashtagTerms.isBlankText = true := by
  have hempty (r : SearchRequest) (hr : r ∈ requests) :=
    SearchRequest.merged_of_isEmpty (List.all_eq_true.mp h r hr)
  have hterms : requests.flatMap termsOf = [] :=
    List.flatMap_eq_nil_iff.mpr fun r hr => (hempty r hr).1
  have hexcluded : requests.flatMap excludedOf = [] :=
    List.flatMap_eq_nil_iff.mpr fun r hr => (hempty r hr).2.1
  refine ⟨?_, ?_, List.all_eq_true.mpr fun c hc => ?_⟩
  · rw [ofRequests, hterms, join_nil]
  · rw [ofRequests, hexcluded, join_nil]
  · rcases mem_join hc with h | ⟨tag, htag, hc⟩
    · rw [List.mem_singleton] at h
      exact h ▸ rfl
    · obtain ⟨r, hr, htag⟩ := List.mem_flatMap.mp htag
      exact (hempty r hr).2.2 tag htag c hc

namespace PostQuery

/-- Requests that are all empty give no token that asks for anything. -/
theorem askNothing_of_isEmpty {requests : List SearchRequest}
    (h : requests.all (·.isEmpty) = true) :
    (Tokens.sought (MergedText.ofRequests requests)).AskNothing := by
  obtain ⟨hterms, hexcluded, htags⟩ := MergedText.ofRequests_of_isEmpty h
  exact Tokens.askNothing_of_blank hterms hexcluded htags

/-- The condition on messages is that of the tokens of the merged texts. -/
theorem textCondition?_eq (requests : List SearchRequest) (orTerms : Bool) :
    textCondition? requests orTerms =
      Condition.ofTokens? (Tokens.sought (MergedText.ofRequests requests)).escaped .message orTerms := by
  unfold textCondition?
  dsimp only
  split_ifs with h
  · simp only [MergedText.isEmpty, Bool.and_eq_true, List.isEmpty_iff] at h
    exact (Tokens.ofTokens?_eq_none.mpr (Tokens.askNothing_of_blank h.1.1 h.1.2 (by rw [h.2]; rfl))).symm
  · rw [Tokens.ofTexts_eq]

end PostQuery

end ChannelSearch
