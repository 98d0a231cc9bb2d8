import ChannelSearch.Proofs.Escaping

/-!
Where the escape marks of a text stand. Main statements: escaping leaves an escaped text as it is,
whatever the escape mark, and what is cut from an escaped text is escaped, unless the cut parts an
escape mark from its wildcard.
-/

namespace ChannelSearch

namespace Text

/-- Every wildcard stands right after an escape mark, and every escape mark right before a wildcard. -/
structure IsEscaped (e : Char) (t : Text) : Prop where
  marked : ∀ before c after, t = before ++ c :: after → isWildcard c = true →
    before.getLast? = some e
  used : ∀ before after, t = before ++ e :: after → ∃ c, after.head? = some c ∧ isWildcard c = true

variable {e c : Char} {a b t : Text}

namespace IsEscaped

/-- What follows a cut is escaped, if no escape mark stands right before it. -/
theorem after_cut (h : IsEscaped e (a ++ b)) (ha : a.getLast? ≠ some e) : IsEscaped e b where
  marked before c after hb hc := by
    have hlast : (a ++ before).getLast? = some e :=
      h.marked (a ++ before) c after (by rw [hb, List.append_assoc]) hc
    rw [List.getLast?_append] at hlast
    cases hbefore : before.getLast? with
    | none =>
      rw [hbefore, Option.none_or] at hlast
      exact absurd hlast ha
    | some d => rwa [hbefore, Option.some_or] at hlast
  used before after hb := h.used (a ++ before) after (by rw [hb, List.append_assoc])

/-- What stands before a cut is escaped, if no wildcard follows it. -/
theorem before_cut (h : IsEscaped e (a ++ b)) (hb : ∀ c, b.head? = some c → isWildcard c = false) :
    IsEscaped e a where
  marked before c after ha hc := h.marked before c (after ++ b) (by simp [ha]) hc
  used before after ha := by
    obtain ⟨c, hhead, hc⟩ := h.used before (after ++ b) (by simp [ha])
    cases after with
    | nil =>
      rw [hb c hhead] at hc
      cases hc
    | cons d after => exact ⟨c, hhead, hc⟩

/-- Dropping characters from both ends keeps a text escaped, if they are neither escape marks nor
wildcards. -/
theorem trim {p : Char → Bool} (h : IsEscaped e t)
    (hp : ∀ c, p c = true → c ≠ e ∧ isWildcard c = false) : IsEscaped e (t.trim p) := by
  obtain ⟨before, after, hsplit, hbefore, hafter⟩ := exists_around_trim p t
  rw [hsplit] at h
  have hright : IsEscaped e (t.trim p ++ after) := by
    apply h.after_cut
    intro hlast
    exact (hp e (hbefore e (List.mem_of_getLast? hlast))).1 rfl
  apply hright.before_cut
  intro c hhead
  exact (hp c (hafter c (List.mem_of_mem_head? hhead))).2

theorem drop_one (h : IsEscaped e t) (hhead : t.head? ≠ some e) : IsEscaped e (t.drop 1) := by
  cases t with
  | nil => exact h
  | cons c t => exact h.after_cut (a := [c]) (b := t) hhead

theorem dropLeading (h : IsEscaped e t) (hc : c ≠ e) : IsEscaped e (t.dropLeading c) := by
  cases t with
  | nil => exact h
  | cons d t =>
    rw [Text.dropLeading]
    split_ifs with hd
    · exact h.drop_one (by simpa [hd] using hc)
    · exact h

theorem dropLast (h : IsEscaped e t) (hlast : t.getLast? = some c) (hc : isWildcard c = false) :
    IsEscaped e t.dropLast := by
  obtain ⟨t, rfl⟩ := List.getLast?_eq_some_iff.mp hlast
  rw [List.dropLast_concat]
  exact h.before_cut fun d hd => Option.some.inj hd ▸ hc

theorem cons_plain (h : IsEscaped e t) (hc : isWildcard c = false) (hce : c ≠ e) :
    IsEscaped e (c :: t) where
  marked before d after ht hd := by
    cases before with
    | nil =>
      rw [(List.cons.inj ht).1, hd] at hc
      cases hc
    | cons x before => rw [List.getLast?_cons, h.marked before d after (List.cons.inj ht).2 hd]; rfl
  used before after ht := by
    cases before with
    | nil => exact absurd (List.cons.inj ht).1 hce
    | cons x before => exact h.used before after (List.cons.inj ht).2

theorem cons_wildcard (h : IsEscaped e t) (he : isWildcard e = false) (hc : isWildcard c = true) :
    IsEscaped e (e :: c :: t) where
  marked before d after ht hd := by
    match before with
    | [] =>
      rw [(List.cons.inj ht).1, hd] at he
      cases he
    | [x] => rw [(List.cons.inj ht).1]; rfl
    | x :: y :: before =>
      have htail : t = before ++ d :: after := (List.cons.inj (List.cons.inj ht).2).2
      rw [List.getLast?_cons_cons, List.getLast?_cons, h.marked before d after htail hd]
      rfl
  used before after ht := by
    match before with
    | [] => exact ⟨c, by rw [← (List.cons.inj ht).2]; rfl, hc⟩
    | [x] =>
      rw [(List.cons.inj (List.cons.inj ht).2).1, he] at hc
      cases hc
    | x :: y :: before => exact h.used before after (List.cons.inj (List.cons.inj ht).2).2

/-- No escape mark stands before the escape mark of a wildcard. -/
theorem marked_once (h : IsEscaped e t) (he : isWildcard e = false) {before after : Text}
    (ht : t = before ++ c :: after) (hc : isWildcard c = true) :
    ∃ start, before = start ++ [e] ∧ start.getLast? ≠ some e := by
  obtain ⟨start, rfl⟩ := List.getLast?_eq_some_iff.mp (h.marked before c after ht hc)
  refine ⟨start, rfl, fun hlast => ?_⟩
  obtain ⟨start, rfl⟩ := List.getLast?_eq_some_iff.mp hlast
  obtain ⟨d, hd, hwild⟩ := h.used start (e :: c :: after) (by simp [ht])
  rw [← Option.some.inj hd, he] at hwild
  cases hwild

end IsEscaped

theorem isEscaped_guarded (he : isWildcard e = false) {s : Text} (hs : e ∉ s) :
    IsEscaped e (guarded e s) := by
  induction s with
  | nil => exact ⟨fun before c after h => by simp at h, fun before after h => by simp at h⟩
  | cons c s ih =>
    have htail := ih fun h => hs (List.mem_cons_of_mem c h)
    by_cases hc : isWildcard c = true
    · rw [guarded_cons_wildcard hc]
      exact htail.cons_wildcard he hc
    · have hplain : isWildcard c = false := by simpa using hc
      rw [guarded_cons_plain hplain]
      exact htail.cons_plain hplain fun h => hs (h ▸ List.mem_cons_self)

/-- The marks that are written before a character are all that changes, also where the mark is that
character. -/
theorem literal_guardMark (e mark : Char) (t : Text) :
    literal e (guardMark t mark [e]) = literal e t := by
  unfold literal guardMark
  induction t with
  | nil => rfl
  | cons c t ih =>
    have hletter : (if c = mark then [e] ++ [c] else [c]).filter (· ≠ e) = [c].filter (· ≠ e) := by
      split_ifs
      · exact List.filter_cons_of_neg (by simp)
      · rfl
    rw [List.flatMap_cons, List.filter_append, ih, hletter, ← List.filter_append]
    rfl

theorem literal_literal (e : Char) (t : Text) : literal e (literal e t) = literal e t := by
  simp [literal]

end Text

open Text

theorem literal_escapeWildcards (t : Text) (e : Char) :
    literal e (escapeWildcards t [e]) = literal e t := by
  rw [escapeWildcards, literal_guardMark, literal_guardMark, erase_singleton, literal_literal]

/-- Escaping looks at a text without its escape marks only. -/
theorem escapeWildcards_congr {t u : Text} {e : Char} (h : literal e t = literal e u) :
    escapeWildcards t [e] = escapeWildcards u [e] := by
  rw [escapeWildcards, escapeWildcards, erase_singleton, erase_singleton, h]

theorem isEscaped_escapeWildcards {e : Char} (he : isWildcard e = false) (t : Text) :
    IsEscaped e (escapeWildcards t [e]) := by
  rw [escapeWildcards_eq he]
  exact isEscaped_guarded he fun h => (mem_literal.mp h).2 rfl

/-- Escaping a text twice is escaping it once, and adds or removes nothing but escape marks. An escape
mark that is no wildcard itself stands once before every wildcard. -/
theorem escaping_is_stable (t : Text) (e : Char) :
    escapeWildcards (escapeWildcards t [e]) [e] = escapeWildcards t [e] ∧
      literal e (escapeWildcards t [e]) = literal e t ∧
      (e ≠ '%' → e ≠ '_' → ∀ before c after, escapeWildcards t [e] = before ++ c :: after →
        c = '%' ∨ c = '_' → ∃ start, before = start ++ [e] ∧ start.getLast? ≠ some e) := by
  have hliteral := literal_escapeWildcards t e
  refine ⟨escapeWildcards_congr hliteral, hliteral, ?_⟩
  intro hpercent hunderscore before c after hcut hc
  have he : isWildcard e = false := by simp [isWildcard, hpercent, hunderscore]
  exact (isEscaped_escapeWildcards he t).marked_once he hcut (by simpa [isWildcard] using hc)

/-- The underscore of `\%50\\_off`: its escape marks are deleted, and one is written. -/
theorem escaping_is_stable_fifty :
    escapeWildcards "\\%50\\\\_off".toList ['\\'] = "\\%50\\".toList ++ '_' :: "off".toList ∧
      ∃ start, "\\%50\\".toList = start ++ ['\\'] ∧ start.getLast? ≠ some '\\' := by
  have hcut : escapeWildcards "\\%50\\\\_off".toList ['\\'] = "\\%50\\".toList ++ '_' :: "off".toList := by
    decide +kernel
  exact ⟨hcut, (escaping_is_stable "\\%50\\\\_off".toList '\\').2.2 (by decide) (by decide) _ '_' _ hcut
    (Or.inr rfl)⟩

/-- A mark that is a wildcard itself is stable too. -/
example : escapeWildcards "a_%b".toList ['_'] = "a__%b".toList ∧
    escapeWildcards "a__%b".toList ['_'] = "a__%b".toList := by decide +kernel

end ChannelSearch
