import ChannelSearch.Proofs.FileQueries
import ChannelSearch.Store.Read

/-!
What the texts of a search ask of a file. Main statements: there is a condition unless no token has a
visible character, and a file satisfies it when its name or its content, in lower case, has the tokens
that are looked for and none of the excluded ones.
-/

namespace ChannelSearch

open Text

/-- A token as it is looked for in files: in lower case, without the quotes around it and without
stars. -/
def Text.fileWord (token : Text) : Text :=
  literal Condition.fileEscape (token.trim (· = '"')).lower

/-- The tokens that are looked for in files, and those that are kept out. -/
structure FileTexts where
  wanted : List Text := []
  unwanted : List Text := []
deriving DecidableEq, Repr

/-- The name or the content of a file has a word. -/
def FileInfo.Holds (f : FileInfo) (word : Text) : Prop :=
  word <:+: f.name.lower ∨ word <:+: f.content.lower

instance (f : FileInfo) (word : Text) : Decidable (f.Holds word) :=
  inferInstanceAs (Decidable (_ ∨ _))

namespace FileTexts

/-- Tokens without a visible character are left out, and an excluded token loses a leading dash. -/
def ofTexts (terms excludedTerms : Text) : FileTexts :=
  { wanted := ((Condition.fileTokens terms).map fileWord).filter fun word => !word.isBlankText
    unwanted := ((Condition.fileTokens excludedTerms).map fun token =>
      fileWord (token.dropLeading '-')).filter fun word => !word.isBlankText }

/-- Hashtags count as words. -/
def ofRequests (requests : List SearchRequest) : FileTexts :=
  let merged := MergedText.ofRequests requests
  ofTexts (join [' '] ([merged.terms, merged.hashtagTerms].filter (· ≠ []))) merged.excludedTerms

/-- No token asks for anything. -/
def AskNothing (t : FileTexts) : Prop := t.wanted = [] ∧ t.unwanted = []

/-- A file has all the words that are looked for, or any of them, and none that is excluded. -/
def Match (t : FileTexts) (orTerms : Bool) (f : FileInfo) : Prop :=
  (t.wanted ≠ [] →
    if orTerms then ∃ word ∈ t.wanted, f.Holds word else ∀ word ∈ t.wanted, f.Holds word) ∧
  ∀ word ∈ t.unwanted, ¬ f.Holds word

theorem askNothing_nil : (ofTexts [] []).AskNothing := by
  constructor <;> simp [ofTexts, Condition.fileTokens, extractPhrases_nil, words_nil]

/-- What asks for nothing is found in any file. -/
theorem AskNothing.match_any {t : FileTexts} (h : t.AskNothing) (orTerms : Bool) (f : FileInfo) :
    t.Match orTerms f := by
  refine ⟨absurd h.1, fun word hword => ?_⟩
  rw [h.2] at hword
  cases hword

instance (t : FileTexts) : Decidable t.AskNothing := inferInstanceAs (Decidable (_ ∧ _))

instance (t : FileTexts) (orTerms : Bool) (f : FileInfo) : Decidable (t.Match orTerms f) := by
  unfold Match
  infer_instance

end FileTexts

namespace Text

theorem isMark_fileEscape : IsMark Condition.fileEscape := ⟨by decide, by decide⟩

theorem fileEscape_not_mem_fileWord (token : Text) : Condition.fileEscape ∉ fileWord token :=
  fun h => (mem_literal.mp h).2 rfl

/-- Nothing is left to fold in a word. -/
theorem folded_fileWord (token : Text) : (fileWord token).folded = fileWord token :=
  folded_eq fun _ h => toLower_of_mem_lower (mem_literal.mp h).1

end Text

namespace Condition

variable {C : Type} {columns : List C} {users : UserQuery → List Text} {row : C → Sql.Value}

/-- Any of the columns, in lower case, has the word. -/
def anyColumnHas (columns : List C) (word : Text) : Condition C :=
  .group .any (columns.map fun c =>
    .test (.like (.lower c) fileEscape ('%' :: (guarded fileEscape word ++ ['%']))))

theorem containsAny?_eq (columns : List C) (token : Text) :
    containsAny? columns token =
      if (fileWord token).isBlankText then none else some (anyColumnHas columns (fileWord token)) := by
  have hescape : escapeWildcards (token.trim (· = '"')).lower [fileEscape] =
      guarded fileEscape (fileWord token) :=
    escapeWildcards_eq (by decide) _
  unfold containsAny?
  dsimp only
  rw [hescape, isBlankText_guarded isMark_fileEscape]
  rfl

/-- The conditions of tokens are those of their words, where these are visible. -/
theorem filterMap_containsAny? (columns : List C) (f : Text → Text)
    (h : Condition C → Condition C) (tokens : List Text) :
    (tokens.filterMap fun token => (containsAny? columns (f token)).map h) =
      ((tokens.map fun token => fileWord (f token)).filter fun word => !word.isBlankText).map
        fun word => h (anyColumnHas columns word) := by
  induction tokens with
  | nil => rfl
  | cons token tokens ih =>
    rw [List.filterMap_cons, ih, containsAny?_eq, List.map_cons]
    cases hblank : (fileWord (f token)).isBlankText with
    | true => simp [hblank]
    | false => simp [hblank]

theorem fileConditions_eq (terms excludedTerms : Text) :
    fileConditions columns terms =
      (FileTexts.ofTexts terms excludedTerms).wanted.map (anyColumnHas columns) := by
  have hmap := filterMap_containsAny? columns id id (fileTokens terms)
  simp only [Option.map_id, id_eq] at hmap
  exact hmap

theorem fileExclusions_eq (terms excludedTerms : Text) :
    fileExclusions columns excludedTerms =
      (FileTexts.ofTexts terms excludedTerms).unwanted.map fun word =>
        .not (anyColumnHas columns word) :=
  filterMap_containsAny? columns (fun token => token.dropLeading '-') .not (fileTokens excludedTerms)

/-- The condition of texts on files, made of their words. -/
theorem ofFileTexts?_words (terms excludedTerms : Text) (orTerms : Bool) :
    ofFileTexts? columns terms excludedTerms orTerms =
      let texts := FileTexts.ofTexts terms excludedTerms
      group? .all
        ((group? (if orTerms then .any else .all) (texts.wanted.map (anyColumnHas columns))).toList ++
          (group? .all (texts.unwanted.map fun word => .not (anyColumnHas columns word))).toList) := by
  rw [ofFileTexts?_eq, fileConditions_eq terms excludedTerms, fileExclusions_eq terms]

/-- There is no condition where no token asks for anything. -/
theorem ofFileTexts?_eq_none {terms excludedTerms : Text} {orTerms : Bool} :
    ofFileTexts? columns terms excludedTerms orTerms = none ↔
      (FileTexts.ofTexts terms excludedTerms).AskNothing := by
  have hlist (op : Connective) (xs : List (Condition C)) : (group? op xs).toList = [] ↔ xs = [] := by
    rw [Option.toList_eq_nil_iff, Tokens.group?_eq_none]
  rw [ofFileTexts?_words, Tokens.group?_eq_none, List.append_eq_nil_iff, hlist, hlist,
    List.map_eq_nil_iff, List.map_eq_nil_iff, FileTexts.AskNothing]

@[simp] theorem holds_not (x : Condition C) : holds users row (.not x) = !holds users row x := by
  rw [holds]

theorem holds_anyColumnHas {token : Text} :
    holds users row (anyColumnHas columns (fileWord token)) = true ↔
      ∃ c ∈ columns, fileWord token <:+: (row c).asText.lower := by
  have hlike (c : C) : Sql.likeText fileEscape
      ('%' :: (guarded fileEscape (fileWord token) ++ ['%'])) (row c).asText.lower = true ↔
        fileWord token <:+: (row c).asText.lower := by
    have hfold : (row c).asText.lower.folded = (row c).asText.lower :=
      folded_eq fun _ => toLower_of_mem_lower
    rw [Sql.likeText_within (by decide) (fileEscape_not_mem_fileWord token), folded_fileWord, hfold]
  rw [anyColumnHas, holds_any, List.any_map, List.any_eq_true]
  refine exists_congr fun c => and_congr_right fun _ => ?_
  rw [Function.comp_apply, holds_test]
  exact hlike c

/-- A group that is left out where it is empty asks what its members ask. -/
theorem holds_group?_all {xs : List (Condition C)} :
    (∀ x ∈ group? .all xs, holds users row x = true) ↔ ∀ x ∈ xs, holds users row x = true := by
  cases hgroup : group? .all xs with
  | none => simp [Tokens.group?_eq_none.mp hgroup]
  | some x => simp [(Tokens.group?_eq_some.mp hgroup).2]

theorem holds_group?_any {xs : List (Condition C)} :
    (∀ x ∈ group? .any xs, holds users row x = true) ↔
      (xs ≠ [] → ∃ x ∈ xs, holds users row x = true) := by
  cases hgroup : group? .any xs with
  | none => simp [Tokens.group?_eq_none.mp hgroup]
  | some x =>
    obtain ⟨hne, rfl⟩ := Tokens.group?_eq_some.mp hgroup
    simp [hne]

end Condition

namespace FileQuery

variable {users : UserQuery → List Text} {f : FileInfo}

theorem textCondition?_ofWords (requests : List SearchRequest) (orTerms : Bool) :
    textCondition? requests orTerms =
      Condition.group? .all
        ((Condition.group? (if orTerms then .any else .all) ((FileTexts.ofRequests requests).wanted.map
          (Condition.anyColumnHas textColumns))).toList ++
        (Condition.group? .all ((FileTexts.ofRequests requests).unwanted.map fun word =>
          .not (Condition.anyColumnHas textColumns word))).toList) :=
  Condition.ofFileTexts?_words _ _ orTerms

theorem textCondition?_eq_none {requests : List SearchRequest} {orTerms : Bool} :
    textCondition? requests orTerms = none ↔ (FileTexts.ofRequests requests).AskNothing :=
  Condition.ofFileTexts?_eq_none

/-- The words that are looked for, and those that are kept out, are words of tokens. -/
theorem exists_token {requests : List SearchRequest} {word : Text}
    (h : word ∈ (FileTexts.ofRequests requests).wanted ∨
      word ∈ (FileTexts.ofRequests requests).unwanted) : ∃ token, fileWord token = word := by
  rcases h with h | h
  · obtain ⟨token, -, hword⟩ := List.mem_map.mp (List.mem_filter.mp h).1
    exact ⟨token, hword⟩
  · obtain ⟨token, -, hword⟩ := List.mem_map.mp (List.mem_filter.mp h).1
    exact ⟨_, hword⟩

/-- A file satisfies the condition of the texts when its name or its content matches their words. -/
theorem holds_textCondition? {requests : List SearchRequest} {orTerms : Bool} :
    (∀ x ∈ textCondition? requests orTerms, x.holds users f.values = true) ↔
      (FileTexts.ofRequests requests).Match orTerms f := by
  generalize htexts : FileTexts.ofRequests requests = texts
  have hword (word : Text) (h : word ∈ texts.wanted ∨ word ∈ texts.unwanted) :
      (Condition.anyColumnHas textColumns word).holds users f.values = true ↔ f.Holds word := by
    obtain ⟨token, rfl⟩ := exists_token (htexts ▸ h)
    rw [Condition.holds_anyColumnHas, FileInfo.Holds]
    simp [textColumns, FileInfo.values, Sql.Value.asText]
  have hexclusion : (∀ x ∈ Condition.group? .all (texts.unwanted.map fun word =>
      .not (Condition.anyColumnHas textColumns word)), x.holds users f.values = true) ↔
        ∀ word ∈ texts.unwanted, ¬ f.Holds word := by
    rw [Condition.holds_group?_all, List.forall_mem_map]
    refine forall₂_congr fun word h => ?_
    rw [Condition.holds_not, Bool.not_eq_true', ← Bool.not_eq_true, hword word (Or.inr h)]
  have hinclusion : (∀ x ∈ Condition.group? (if orTerms then .any else .all)
      (texts.wanted.map (Condition.anyColumnHas textColumns)), x.holds users f.values = true) ↔
        (texts.wanted ≠ [] → if orTerms then ∃ word ∈ texts.wanted, f.Holds word
          else ∀ word ∈ texts.wanted, f.Holds word) := by
    cases orTerms with
    | true =>
      rw [if_pos rfl, if_pos rfl, Condition.holds_group?_any, ne_eq, List.map_eq_nil_iff]
      refine imp_congr_right fun _ => ?_
      simp only [List.mem_map, exists_exists_and_eq_and]
      exact exists_congr fun word => and_congr_right fun h => hword word (Or.inl h)
    | false =>
      rw [if_neg Bool.false_ne_true, if_neg Bool.false_ne_true, Condition.holds_group?_all,
        List.forall_mem_map]
      have hall := forall₂_congr fun word (h : word ∈ texts.wanted) => hword word (Or.inl h)
      exact hall.trans ⟨fun h _ => h, fun h word hmem => h (List.ne_nil_of_mem hmem) word hmem⟩
  rw [textCondition?_ofWords, htexts, Condition.holds_group?_all, List.forall_mem_append,
    FileTexts.Match, ← hinclusion, ← hexclusion]
  simp only [Option.mem_toList, Option.mem_def]

end FileQuery

end ChannelSearch
