import ChannelSearch.Proofs.TextMeaning
import ChannelSearch.Proofs.TypedWords
import ChannelSearch.Proofs.VisibleChannels

/-!
Messages that contain what is searched for, letter by letter. Main statement: they are found when lower
case gives each capital sigma of the text the form that it has in the message.
-/

namespace ChannelSearch

namespace Text

/-- A capital sigma between two texts is the last letter of a word of several. -/
def EndsWord (before after : Text) : Prop :=
  continuesWord before.reverse = true ∧ continuesWord after = false

instance (before after : Text) : Decidable (EndsWord before after) := inferInstanceAs (Decidable (_ ∧ _))

/-- Lower case of a letter between two texts. -/
def formBetween (before : Text) (c : Char) (after : Text) : Text :=
  if c = 'Σ' then [if EndsWord before after then 'ς' else 'σ'] else lowerLetter c

/-- Lower case of a text between two others. -/
def lowerBetween (before : Text) : Text → Text → Text
  | [], _ => []
  | c :: rest, after => formBetween before c (rest ++ after) ++ lowerBetween (before ++ [c]) rest after

theorem continuesWord_reverse_concat (before : Text) (c : Char) :
    continuesWord (before ++ [c]).reverse =
      if isCaseIgnorable c then continuesWord before.reverse else isCased c := by
  by_cases hc : isCaseIgnorable c = true <;> simp [continuesWord, hc]

theorem lowerAfter_eq_lowerBetween (before t : Text) :
    lowerAfter (continuesWord before.reverse) t = lowerBetween before t [] := by
  induction t generalizing before with
  | nil => rfl
  | cons c rest ih =>
    have hrest := ih (before ++ [c])
    rw [continuesWord_reverse_concat] at hrest
    simp [lowerAfter, lowerBetween, formBetween, EndsWord, hrest]

theorem lower_eq_lowerBetween (t : Text) : lower t = lowerBetween [] t [] :=
  lowerAfter_eq_lowerBetween [] t

theorem lowerBetween_append (before t u after : Text) :
    lowerBetween before (t ++ u) after =
      lowerBetween before t (u ++ after) ++ lowerBetween (before ++ t) u after := by
  induction t generalizing before with
  | nil => simp [lowerBetween]
  | cons c t ih => simp [lowerBetween, ih]

/-- Lower case is taken of each part of a text in its place. -/
theorem lower_append_append (a t b : Text) :
    lower (a ++ t ++ b) =
      lowerBetween [] a (t ++ b) ++ lowerBetween a t b ++ lowerBetween (a ++ t) b [] := by
  simp [lower_eq_lowerBetween, lowerBetween_append]

/-- Between two others, the capital sigmas of a text end the words that they end in the text alone. -/
def KeepsSigmas (a t b : Text) : Prop :=
  ∀ u v, t = u ++ 'Σ' :: v → (EndsWord (a ++ u) (v ++ b) ↔ EndsWord u v)

theorem keepsSigmas_of_not_mem {t : Text} (h : 'Σ' ∉ t) (a b : Text) : KeepsSigmas a t b := by
  intro u v ht
  exact absurd (by simp [ht]) h

/-- The place of a text matters to the form of its capital sigmas only. -/
theorem lowerBetween_congr {a a' t b b' : Text}
    (h : ∀ u v, t = u ++ 'Σ' :: v → (EndsWord (a ++ u) (v ++ b) ↔ EndsWord (a' ++ u) (v ++ b'))) :
    lowerBetween a t b = lowerBetween a' t b' := by
  induction t generalizing a a' with
  | nil => rfl
  | cons c rest ih =>
    have hform : formBetween a c (rest ++ b) = formBetween a' c (rest ++ b') := by
      unfold formBetween
      by_cases hc : c = 'Σ'
      · have hends := h [] rest (by simp [hc])
        simp only [List.append_nil] at hends
        simp only [hends]
      · simp [hc]
    have hrest : lowerBetween (a ++ [c]) rest b = lowerBetween (a' ++ [c]) rest b' := by
      apply ih
      intro u v huv
      simpa using h (c :: u) v (by simp [huv])
    simp [lowerBetween, hform, hrest]

theorem KeepsSigmas.lower_isInfix {a t b : Text} (h : KeepsSigmas a t b) :
    t.lower <:+: (a ++ t ++ b).lower := by
  have hplace : lowerBetween a t b = t.lower := by
    rw [lower_eq_lowerBetween]
    apply lowerBetween_congr
    simpa [KeepsSigmas] using h
  rw [lower_append_append, hplace]
  exact ⟨_, _, rfl⟩

end Text

open Text

/-- A text that is searched for as it is: one word, without quotes, escapes, stars and marks. -/
structure IsLiteralText (t : Text) : Prop where
  ne_nil : t ≠ []
  visible : ∀ c ∈ t, isBlank c = false
  unquoted : '"' ∉ t
  unescaped : Tokens.messageEscape ∉ t
  unstarred : '*' ∉ t
  unmarked : isMarked t = false

namespace IsLiteralText

variable {t : Text}

theorem plain_eq (ht : IsLiteralText t) : Tokens.plain t = t.lower := by
  apply List.filter_eq_self.mpr
  intro d hd
  obtain ⟨c, hc, hlower⟩ := mem_lowerAfter hd
  have hne : d ≠ Tokens.messageEscape := by
    intro heq
    exact ht.unescaped ((hlower.eq_iff (by decide)).mp heq ▸ hc)
  simpa using hne

/-- It is looked for anywhere in a message. -/
theorem ofTerm?_plain (ht : IsLiteralText t) :
    Needle.ofTerm? (Tokens.plain t) = some [.within t.lower] := by
  have hliteral : literal Tokens.messageEscape t = t := by
    apply List.filter_eq_self.mpr
    intro c hc
    simpa using ne_of_mem_of_not_mem hc ht.unescaped
  have hblank : isBlankToken (Tokens.plain t) = false := by
    rw [Tokens.isBlankToken_plain, hliteral]
    match t, ht with
    | [], ht => exact absurd rfl ht.ne_nil
    | [c], ht =>
      have hstar : c ≠ '*' := by
        rintro rfl
        exact ht.unstarred (by simp)
      have hmark : isMark c = false := ht.unmarked
      simp [isBlankToken, hstar, hmark]
    | _ :: _ :: _, _ => rfl
  have hmarked : isMarked (Tokens.plain t) = false := by
    have hhead (x : Char) (hx : isLetterLike x = false) :
        (Tokens.plain t).head? = some x ↔ t.head? = some x := by
      rw [Tokens.head?_plain hx, hliteral]
    have htag := hhead '#' (by decide)
    have hmention := hhead '@' (by decide)
    have hunmarked := ht.unmarked
    generalize Tokens.plain t = word at htag hmention
    cases word <;> cases t <;> simp_all [isMarked, isMark]
  have hstar : (Tokens.plain t).getLast? ≠ some '*' := by
    intro h
    obtain ⟨c, hc, hlower⟩ := mem_lowerAfter (mem_literal.mp (List.mem_of_getLast? h)).1
    exact ht.unstarred ((hlower.eq_iff (by decide)).mp rfl ▸ hc)
  rw [← ht.plain_eq]
  simp [Needle.ofTerm?, hblank, hmarked, hstar]

theorem sought_eq (ht : IsLiteralText t) :
    (Tokens.sought { terms := t }).wanted = [[.within t.lower]] ∧
      (Tokens.sought { terms := t }).unwanted = [] := by
  have hquote : '"' ∉ Tokens.plain t := Tokens.quote_not_mem_plain ht.unquoted
  have hvisible : ∀ d ∈ Tokens.plain t, isBlank d = false := Tokens.visible_plain ht.visible
  have hne : Tokens.plain t ≠ [] := by
    intro h
    have hterm := ht.ofTerm?_plain
    rw [h] at hterm
    cases hterm
  have hnil : Tokens.plain [] = [] := rfl
  simp [Tokens.wanted, Tokens.unwanted, Tokens.sought, hnil, hashtags, extractPhrases_of_plain hquote,
    words_of_visible hne hvisible, ht.ofTerm?_plain]

end IsLiteralText

end ChannelSearch
