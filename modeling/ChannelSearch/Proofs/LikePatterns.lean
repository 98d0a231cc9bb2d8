import ChannelSearch.Proofs.Escaping
import ChannelSearch.Sql.Pattern
import Mathlib.Data.List.Infix

/-!
What escaped patterns match. Between percent signs an escaped text is found anywhere, and before one at
the start, letter by letter and without regard to ASCII case.
-/

namespace ChannelSearch

open Text

/-- A text as it is compared with patterns. -/
def Text.folded (t : Text) : Text := t.map Char.toLower

theorem Text.folded_eq {t : Text} (h : ∀ c ∈ t, c.toLower = c) : t.folded = t :=
  (List.map_congr_left h).trans (List.map_id t)

namespace Sql

namespace Pattern

variable {e : Char}

theorem ofText?_cons {c : Char} (hc : c ≠ e) (rest : Text) :
    ofText? e (c :: rest) =
      (ofText? e rest).map
        ((if c = '%' then .anyRun else if c = '_' then .anyChar else .letter c) :: ·) := by
  cases rest with
  | nil => simp [ofText?, hc]
  | cons d rest => rw [ofText?, if_neg hc]

theorem ofText?_escaped (c : Char) (rest : Text) :
    ofText? e (e :: c :: rest) = (ofText? e rest).map (.letter c :: ·) := by
  rw [ofText?, if_pos rfl]

/-- An escaped text is read as its letters. -/
theorem ofText?_guarded {s : Text} (hs : e ∉ s) (rest : Text) :
    ofText? e (guarded e s ++ rest) = (ofText? e rest).map (s.map .letter ++ ·) := by
  induction s with
  | nil => simp
  | cons c s ih =>
    have hc : c ≠ e := fun h => hs (h ▸ List.mem_cons_self)
    have htail := ih fun h => hs (List.mem_cons_of_mem c h)
    by_cases hw : isWildcard c = true
    · rw [guarded_cons_wildcard hw, List.cons_append, List.cons_append, ofText?_escaped, htail,
        Option.map_map]
      rfl
    · have hplain : isWildcard c = false := by simpa using hw
      have hletter : (if c = '%' then .anyRun else if c = '_' then .anyChar else .letter c) =
          Item.letter c := by
        simp only [isWildcard, Bool.or_eq_false_iff, decide_eq_false_iff_not] at hplain
        rw [if_neg hplain.1, if_neg hplain.2]
      rw [guarded_cons_plain hplain, List.cons_append, ofText?_cons hc, htail, Option.map_map,
        hletter]
      rfl

theorem accepts_anyRun_nil (t : Text) : accepts [.anyRun] t = true := by
  induction t with
  | nil => rw [accepts, accepts]
  | cons c t ih => rw [accepts, ih, Bool.or_true]

/-- A run takes any number of characters. -/
theorem accepts_anyRun {items : List Item} {t : Text} :
    accepts (.anyRun :: items) t = true ↔ ∃ a b, t = a ++ b ∧ accepts items b = true := by
  induction t with
  | nil =>
    rw [accepts]
    constructor
    · exact fun h => ⟨[], [], rfl, h⟩
    · rintro ⟨a, b, hab, h⟩
      rwa [(List.append_eq_nil_iff.mp hab.symm).2] at h
  | cons c t ih =>
    rw [accepts, Bool.or_eq_true, ih]
    constructor
    · rintro (h | ⟨a, b, rfl, h⟩)
      · exact ⟨[], c :: t, rfl, h⟩
      · exact ⟨c :: a, b, rfl, h⟩
    · rintro ⟨a, b, hab, h⟩
      cases a with
      | nil => exact Or.inl (hab ▸ h)
      | cons d a => exact Or.inr ⟨a, b, (List.cons.inj hab).2, h⟩

/-- Letters take as many characters, equal but for their case. -/
theorem accepts_letters {s : Text} {items : List Item} {t : Text} :
    accepts (s.map .letter ++ items) t = true ↔
      ∃ a b, t = a ++ b ∧ a.folded = s.folded ∧ accepts items b = true := by
  induction s generalizing t with
  | nil =>
    constructor
    · exact fun h => ⟨[], t, rfl, rfl, h⟩
    · rintro ⟨a, b, rfl, ha, h⟩
      rwa [List.map_eq_nil_iff.mp ha]
  | cons c s ih =>
    cases t with
    | nil =>
      rw [List.map_cons, List.cons_append, accepts]
      constructor
      · intro h
        cases h
      · rintro ⟨a, b, hab, ha, -⟩
        rw [(List.append_eq_nil_iff.mp hab.symm).1] at ha
        cases ha
    | cons d t =>
      rw [List.map_cons, List.cons_append, accepts, Bool.and_eq_true, ih, sameLetter,
        decide_eq_true_eq]
      constructor
      · rintro ⟨hd, a, b, rfl, ha, h⟩
        exact ⟨d :: a, b, rfl, congrArg₂ List.cons hd.symm ha, h⟩
      · rintro ⟨a, b, hab, ha, h⟩
        cases a with
        | nil => cases ha
        | cons x a =>
          obtain ⟨rfl, rfl⟩ := List.cons.inj hab
          obtain ⟨hd, ha⟩ := List.cons.inj ha
          exact ⟨hd.symm, a, b, rfl, ha, h⟩

end Pattern

open Pattern

variable {e : Char} {s : Text}

theorem ofText?_percent (he : isWildcard e = false) (rest : Text) :
    ofText? e ('%' :: rest) = (ofText? e rest).map (.anyRun :: ·) := by
  have hpercent : '%' ≠ e := by
    rintro rfl
    cases he
  rw [ofText?_cons hpercent, if_pos rfl]

/-- An escaped text before a percent sign is looked for at the start. -/
theorem likeText_leading (he : isWildcard e = false) (hs : e ∉ s) (t : Text) :
    likeText e (guarded e s ++ ['%']) t = true ↔ s.folded <+: t.folded := by
  rw [likeText, ofText?_guarded hs, ofText?_percent he]
  show accepts (s.map .letter ++ [.anyRun]) t = true ↔ _
  rw [accepts_letters]
  constructor
  · rintro ⟨a, b, rfl, ha, -⟩
    exact ⟨b.folded, by rw [← ha]; exact List.map_append.symm⟩
  · rintro ⟨b, hb⟩
    obtain ⟨x, y, rfl, hx, hy⟩ := List.map_eq_append_iff.mp hb.symm
    exact ⟨x, y, rfl, hx, accepts_anyRun_nil y⟩

/-- An escaped text between percent signs is looked for anywhere. -/
theorem likeText_within (he : isWildcard e = false) (hs : e ∉ s) (t : Text) :
    likeText e ('%' :: (guarded e s ++ ['%'])) t = true ↔ s.folded <:+: t.folded := by
  rw [likeText, ofText?_percent he, ofText?_guarded hs, ofText?_percent he]
  show accepts (.anyRun :: (s.map .letter ++ [.anyRun])) t = true ↔ _
  rw [accepts_anyRun]
  constructor
  · rintro ⟨a, b, rfl, h⟩
    obtain ⟨x, y, rfl, hx, -⟩ := accepts_letters.mp h
    exact ⟨a.folded, y.folded, by rw [← hx]; simp [folded]⟩
  · rintro ⟨a, b, hab⟩
    obtain ⟨x, y, rfl, hx, hy⟩ := List.map_eq_append_iff.mp hab.symm
    obtain ⟨u, v, rfl, hu, hv⟩ := List.map_eq_append_iff.mp hx
    exact ⟨u, v ++ y, by simp, accepts_letters.mpr ⟨v, y, rfl, hv, accepts_anyRun_nil y⟩⟩

end Sql

end ChannelSearch
