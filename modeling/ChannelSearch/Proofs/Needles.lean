import ChannelSearch.Condition.Words
import ChannelSearch.Proofs.ConditionTree
import ChannelSearch.Proofs.LikePatterns

/-!
The condition of tokens in terms of what is looked for. Each token stands for one needle or two, found
anywhere in a text or at its start, and the condition on a column asks for some and forbids others.
-/

namespace ChannelSearch

open Text

/-- A text that is looked for: anywhere, or at the start. -/
inductive Needle where
  | within (s : Text)
  | leading (s : Text)
deriving DecidableEq, Repr

namespace Needle

def text : Needle → Text
  | .within s => s
  | .leading s => s

def FoundIn (t : Text) : Needle → Prop
  | .within s => s <:+: t
  | .leading s => s <+: t

instance (t : Text) (n : Needle) : Decidable (n.FoundIn t) := by
  cases n <;> unfold FoundIn <;> infer_instance

/-- The needles of a word: with and without the mark of a hashtag or a mention, or without the star
at its end. A word that asks for nothing has none. -/
def ofTerm? (term : Text) : Option (List Needle) :=
  if isBlankToken term then none
  else if isMarked term then some [.within term, .within (term.drop 1)]
  else if term.getLast? = some '*' then some [.leading term.dropLast]
  else some [.within term]

def ofPhrase? (phrase : Text) : Option (List Needle) :=
  let body := phrase.trim (· = '"')
  if body.isBlankText then none else some [.within body]

def ofHashtag? (tag : Text) : Option (List Needle) :=
  if tag.head? = some '#' && !isBlankToken tag then some [.within tag] else none

end Needle

namespace Tokens

/-- What a text should hold: for each token, one of its needles. -/
def wanted (t : Tokens) : List (List Needle) :=
  t.hashtags.filterMap Needle.ofHashtag? ++ t.phrases.filterMap Needle.ofPhrase? ++
    t.terms.filterMap Needle.ofTerm?

/-- What a text should not hold: for each token, any of its needles. -/
def unwanted (t : Tokens) : List (List Needle) :=
  t.excludedTerms.filterMap (fun term => Needle.ofTerm? (term.dropLeading '-')) ++
    t.excludedPhrases.filterMap Needle.ofPhrase?

/-- No token asks for anything. -/
def AskNothing (t : Tokens) : Prop := t.wanted = [] ∧ t.unwanted = []

/-- A text has what all tokens ask for, or what any of them does, and nothing that is excluded. -/
def Match (t : Tokens) (orTerms : Bool) (text : Text) : Prop :=
  (t.wanted ≠ [] →
    if orTerms then ∃ ns ∈ t.wanted, ∃ n ∈ ns, n.FoundIn text
    else ∀ ns ∈ t.wanted, ∃ n ∈ ns, n.FoundIn text) ∧
  ∀ ns ∈ t.unwanted, ∀ n ∈ ns, ¬ n.FoundIn text

/-- What asks for nothing is found in any text. -/
theorem AskNothing.match_any {t : Tokens} (h : t.AskNothing) (orTerms : Bool) (text : Text) :
    t.Match orTerms text := by
  refine ⟨absurd h.1, fun ns hns => ?_⟩
  rw [h.2] at hns
  cases hns

instance (t : Tokens) : Decidable t.AskNothing := by unfold AskNothing; infer_instance

instance (t : Tokens) (orTerms : Bool) (text : Text) : Decidable (t.Match orTerms text) := by
  unfold Match
  infer_instance

end Tokens

namespace Text

variable {e : Char}

theorem isBlankToken_guarded (s : Text) : isBlankToken (guarded e s) = isBlankToken s := by
  cases s with
  | nil => rfl
  | cons c s =>
    by_cases hc : isWildcard c = true
    · rw [guarded_cons_wildcard hc]
      simp only [isWildcard, Bool.or_eq_true, decide_eq_true_eq] at hc
      cases s with
      | nil => rcases hc with rfl | rfl <;> rfl
      | cons d s => rfl
    · rw [guarded_cons_plain (by simpa using hc)]
      cases s with
      | nil => rfl
      | cons d s =>
        by_cases hd : isWildcard d = true
        · rw [guarded_cons_wildcard hd]
          rfl
        · rw [guarded_cons_plain (by simpa using hd)]
          rfl

theorem isMarked_guarded (he : isMark e = false) (s : Text) : isMarked (guarded e s) = isMarked s := by
  cases s with
  | nil => rfl
  | cons c s =>
    by_cases hc : isWildcard c = true
    · rw [guarded_cons_wildcard hc]
      simp only [isWildcard, Bool.or_eq_true, decide_eq_true_eq] at hc
      rcases hc with rfl | rfl <;> exact he
    · rw [guarded_cons_plain (by simpa using hc)]
      rfl

theorem drop_one_guarded {s : Text} (h : isMarked s = true) :
    (guarded e s).drop 1 = guarded e (s.drop 1) := by
  cases s with
  | nil => rfl
  | cons c s =>
    have hc : isWildcard c = false := by
      simp only [isMarked, isMark, Bool.or_eq_true, decide_eq_true_eq] at h
      rcases h with rfl | rfl <;> rfl
    rw [guarded_cons_plain hc]
    rfl

end Text

namespace Needle

/-- The pattern of a needle in a message search. -/
def pattern : Needle → Text
  | .within s => '%' :: (guarded Tokens.messageEscape s ++ ['%'])
  | .leading s => guarded Tokens.messageEscape s ++ ['%']

variable {C : Type} (x : Sql.Operand C)

def found (n : Needle) : Condition C := .test (.like x Tokens.messageEscape n.pattern)

def missing (n : Needle) : Condition C := .test (.unlike x Tokens.messageEscape n.pattern)

/-- The conditions of some needles as one: a single one as it is, others in brackets. -/
def joined (op : Connective) (one : Needle → Condition C) : List Needle → Condition C
  | [n] => one n
  | ns => .group op (ns.map one)

theorem tests_joined {op : Connective} {one : Needle → Condition C} {ns : List Needle}
    {t : Sql.Test C} (h : t ∈ (joined op one ns).tests) : ∃ n ∈ ns, t ∈ (one n).tests := by
  match ns with
  | [n] => exact ⟨n, List.mem_cons_self, h⟩
  | [] | n :: m :: ns =>
    obtain ⟨x, hx, ht⟩ := Condition.mem_tests_group.mp h
    obtain ⟨k, hk, rfl⟩ := List.mem_map.mp hx
    exact ⟨k, hk, ht⟩

def anyFound : List Needle → Condition C := joined .any (found x)

def allMissing : List Needle → Condition C := joined .all (missing x)

end Needle

namespace Condition

open Needle Tokens

variable {C : Type} (x : Sql.Operand C)

theorem withWildcards_middle (term : Text) : withWildcards term true = '%' :: (term ++ ['%']) := by
  simp [withWildcards]

/-- The conditions on a plain word are those of its needles, whichever way patterns are tested. -/
theorem ofTerm_guarded (op : Connective) (test : Text → Condition C) (term : Text) :
    (if isBlankToken (guarded messageEscape term) then none
    else if isMarked (guarded messageEscape term) then
      some (group op [test (withWildcards (guarded messageEscape term) true),
        test (withWildcards ((guarded messageEscape term).drop 1) true)])
    else some (test (withWildcards (guarded messageEscape term) false))) =
      (ofTerm? term).map (joined op fun n => test n.pattern) := by
  rw [isBlankToken_guarded, isMarked_guarded (by decide), ofTerm?]
  split_ifs with hblank hmarked hstar
  · rfl
  · rw [withWildcards_middle, withWildcards_middle, drop_one_guarded hmarked]
    rfl
  · rw [withWildcards, getLast?_guarded, hstar, dropLast_guarded hstar]
    rfl
  · rw [withWildcards, getLast?_guarded, if_pos (by simpa using hstar)]
    rfl

/-- A phrase as it is read: a body in quotes, without a quote inside. -/
def IsPhrase (phrase : Text) : Prop := ∃ body, phrase = inQuotes body ∧ '"' ∉ body

theorem trim_guarded {phrase : Text} (h : IsPhrase phrase) :
    (guarded messageEscape phrase).trim (· = '"') =
      guarded messageEscape (phrase.trim (· = '"')) := by
  obtain ⟨body, rfl, hbody⟩ := h
  have hplain : '"' ∉ guarded messageEscape body := by rwa [mem_guarded (by decide)]
  rw [guarded_inQuotes, trim_inQuotes hplain, trim_inQuotes hbody]

theorem ofPhrase_guarded (op : Connective) (test : Text → Condition C) {phrase : Text}
    (h : IsPhrase phrase) :
    (let clean := (guarded messageEscape phrase).trim (· = '"')
    if clean.isBlankText then none else some (test (withWildcards clean true))) =
      (ofPhrase? phrase).map (joined op fun n => test n.pattern) := by
  dsimp only
  rw [trim_guarded h, isBlankText_guarded isMark_messageEscape, ofPhrase?]
  split_ifs
  · rfl
  · rw [withWildcards_middle]
    rfl

theorem ofHashtag_guarded (tag : Text) :
    (if (guarded messageEscape tag).head? = some '#' && !isBlankToken (guarded messageEscape tag)
    then some (like x (guarded messageEscape tag) true) else none) =
      (ofHashtag? tag).map (anyFound x) := by
  rw [isBlankToken_guarded, ofHashtag?]
  simp only [head?_guarded (by decide : isWildcard '#' = false) (by decide : '#' ≠ messageEscape)]
  split_ifs
  · rw [like, withWildcards_middle]
    rfl
  · rfl

/-- Conditions that are made letter by letter of a list of tokens are made of their needles. -/
theorem filterMap_guarded {f : Text → Option (Condition C)} {g : Text → Option (List Needle)}
    {h : List Needle → Condition C} {ts : List Text}
    (hf : ∀ t ∈ ts, f (guarded messageEscape t) = (g t).map h) :
    (ts.map (guarded messageEscape)).filterMap f = (ts.filterMap g).map h := by
  rw [List.filterMap_map, List.map_filterMap]
  exact List.filterMap_congr hf

end Condition

namespace Tokens

open Needle Condition

/-- Tokens as they are matched, with their wildcards escaped. -/
def escaped (t : Tokens) : Tokens :=
  { phrases := t.phrases.map (guarded messageEscape)
    terms := t.terms.map (guarded messageEscape)
    excludedPhrases := t.excludedPhrases.map (guarded messageEscape)
    excludedTerms := t.excludedTerms.map (guarded messageEscape)
    hashtags := t.hashtags.map (guarded messageEscape) }

/-- The condition of some tokens: what they want, and what they do not. -/
theorem ofTokens?_escaped {C : Type} {t : Tokens} (hphrases : ∀ phrase ∈ t.phrases, IsPhrase phrase)
    (hexcluded : ∀ phrase ∈ t.excludedPhrases, IsPhrase phrase) (column : C) (orTerms : Bool) :
    ofTokens? t.escaped column orTerms =
      match group? (if orTerms then .any else .all) (t.wanted.map (anyFound (.lower column))),
        group? .all (t.unwanted.map (allMissing (.lower column))) with
      | some inclusion, some exclusion => some (.both inclusion exclusion)
      | some inclusion, none => some inclusion
      | none, exclusion => exclusion := by
  have hwanted : t.wanted.map (anyFound (.lower column)) =
      ofHashtags (.lower column) t.escaped.hashtags ++ ofPhrases (.lower column) t.escaped.phrases ++
        ofTerms (.lower column) t.escaped.terms := by
    rw [wanted, List.map_append, List.map_append]
    congr 1
    · congr 1
      · exact (filterMap_guarded fun tag _ => ofHashtag_guarded _ tag).symm
      · exact (filterMap_guarded fun phrase h => ofPhrase_guarded .any
          (fun pattern => .test (.like _ messageEscape pattern)) (hphrases phrase h)).symm
    · exact (filterMap_guarded fun term _ => ofTerm_guarded .any
        (fun pattern => .test (.like _ messageEscape pattern)) term).symm
  have hunwanted : t.unwanted.map (allMissing (.lower column)) =
      ofExcludedTerms (.lower column) t.escaped.excludedTerms ++
        ofExcludedPhrases (.lower column) t.escaped.excludedPhrases := by
    rw [unwanted, List.map_append]
    congr 1
    · refine (filterMap_guarded fun term _ => ?_).symm
      dsimp only
      rw [dropLeading_guarded (by decide) (by decide)]
      exact ofTerm_guarded .all (fun pattern => .test (.unlike _ messageEscape pattern)) _
    · exact (filterMap_guarded fun phrase h => ofPhrase_guarded .all
        (fun pattern => .test (.unlike _ messageEscape pattern)) (hexcluded phrase h)).symm
  rw [hwanted, hunwanted]
  rfl

end Tokens

end ChannelSearch
