import ChannelSearch.Proofs.FileTexts
import Mathlib.Data.List.DropRight

/-!
Escaping is exact. Main statement: an escaped term is found where its letters stand in a text, at the
start of it if the term ends with a star that is a wildcard, and no character of a term or of a file
token is one otherwise.
-/

namespace ChannelSearch

open Text

namespace Text

/-- Lower case of a text that ends with a letter ends with a form of the letter. -/
theorem exists_lowerAfter_concat (before : Bool) (t : Text) (c : Char) :
    ∃ start form, IsFormOf form c ∧ lowerAfter before (t ++ [c]) = start ++ form := by
  induction t generalizing before with
  | nil =>
    obtain ⟨form, next, hform, heq⟩ := exists_lowerAfter_cons before c []
    exact ⟨[], form, hform, heq.trans (List.append_nil form)⟩
  | cons d t ih =>
    obtain ⟨form, next, -, heq⟩ := exists_lowerAfter_cons before d (t ++ [c])
    obtain ⟨start, last, hlast, htail⟩ := ih next
    exact ⟨form ++ start, last, hlast, by rw [List.cons_append, heq, htail, List.append_assoc]⟩

theorem IsFormOf.not_quote {form : Text} {c : Char} (h : IsFormOf form c) (hc : c ≠ '"') :
    '"' ∉ form := by
  intro hquote
  exact hc (((h.letters '"' hquote).eq_iff (by decide)).mp rfl)

theorem lower_dropWhile_quotes (t : Text) :
    lower (t.dropWhile (· = '"')) = t.lower.dropWhile (· = '"') := by
  induction t with
  | nil => rfl
  | cons c rest ih =>
    by_cases hc : c = '"'
    · subst hc
      have hlower : lower ('"' :: rest) = '"' :: lower rest :=
        lower_append_cons breaksWords_quote [] rest
      rw [hlower, List.dropWhile_cons_of_pos (by decide), List.dropWhile_cons_of_pos (by decide), ih]
    · obtain ⟨form, next, hform, heq⟩ := exists_lowerAfter_cons false c rest
      obtain ⟨d, form, rfl⟩ := List.exists_cons_of_ne_nil hform.ne_nil
      have hd : d ≠ '"' := fun h => hform.not_quote hc (h ▸ List.mem_cons_self)
      rw [List.dropWhile_cons_of_neg (by simpa using hc), lower, heq, List.cons_append,
        List.dropWhile_cons_of_neg (by simpa using hd)]

theorem lower_rdropWhile_quotes (t : Text) :
    lower (t.rdropWhile (· = '"')) = t.lower.rdropWhile (· = '"') := by
  induction t using List.reverseRecOn with
  | nil => rfl
  | append_singleton t c ih =>
    by_cases hc : c = '"'
    · subst hc
      have hlower : lower (t ++ ['"']) = lower t ++ ['"'] := lower_append_cons breaksWords_quote t []
      rw [hlower, List.rdropWhile_concat_pos _ _ _ (by decide),
        List.rdropWhile_concat_pos _ _ _ (by decide), ih]
    · obtain ⟨start, form, hform, heq⟩ := exists_lowerAfter_concat false t c
      have hlast : (lower (t ++ [c])).rdropWhile (· = '"') = lower (t ++ [c]) := by
        rw [List.rdropWhile_eq_self_iff, lower, heq]
        intro hne hquote
        rw [List.getLast_append_of_ne_nil _ hform.ne_nil, decide_eq_true_eq] at hquote
        exact hform.not_quote hc (hquote ▸ List.getLast_mem hform.ne_nil)
      rw [List.rdropWhile_concat_neg _ _ _ (by simpa using hc), hlast]

/-- The quotes around a text are the same before lower case and after. -/
theorem lower_trim_quotes (t : Text) : lower (t.trim (· = '"')) = t.lower.trim (· = '"') :=
  (lower_rdropWhile_quotes _).trans (congrArg (List.rdropWhile _) (lower_dropWhile_quotes t))

end Text

variable {s : Text}

/-- A plain text in lower case, escaped, is matched literally. -/
theorem likeText_withWildcards (hs : Tokens.IsPlain s) (m : Text) (alwaysMiddle : Bool) :
    Sql.likeText Tokens.messageEscape
        (withWildcards (guarded Tokens.messageEscape s) alwaysMiddle) m.lower = true ↔
      if s.getLast? = some '*' ∧ alwaysMiddle = false then s.dropLast <+: m.lower
      else s <:+: m.lower := by
  by_cases hstar : s.getLast? = some '*' ∧ alwaysMiddle = false
  · have hpattern : withWildcards (guarded Tokens.messageEscape s) alwaysMiddle =
        (Needle.leading s.dropLast).pattern := by
      rw [withWildcards, if_neg, dropLast_guarded hstar.1]
      · rfl
      · rw [getLast?_guarded, hstar.1, hstar.2]
        decide
    rw [if_pos hstar, hpattern]
    exact Needle.likeText_pattern (hs.mono fun c => List.mem_of_mem_dropLast) m
  · have hpattern : withWildcards (guarded Tokens.messageEscape s) alwaysMiddle =
        (Needle.within s).pattern := by
      rw [withWildcards, if_pos]
      · rfl
      · rw [getLast?_guarded, Bool.or_eq_true, decide_eq_true_eq]
        cases alwaysMiddle with
        | true => exact Or.inr rfl
        | false => exact Or.inl fun h => hstar ⟨h, rfl⟩
    rw [if_neg hstar, hpattern]
    exact Needle.likeText_pattern (n := .within s) hs m

end ChannelSearch
