import ChannelSearch.Text.Blank
import ChannelSearch.Text.LetterCase
import Mathlib.Data.List.Basic
import Mathlib.Tactic.Common

/-!
Lower case letter by letter. A character that changes is a letter before and after, so white space,
quotes, marks and escapes stay where they are, and no capital of ASCII is left.
-/

namespace ChannelSearch

/-- A letter of ASCII, or any visible character beyond it. -/
def isLetterLike (c : Char) : Bool := c.isAlpha || (128 ≤ c.toNat && !isBlank c)

/-- What lower case may put in the place of a character; a capital sigma has two forms. -/
def IsLowerOf (d c : Char) : Prop := d ∈ lowerLetter c ∨ c = 'Σ' ∧ d = 'ς'

theorem ascii_forall {P : Char → Prop} (h : ∀ n < 128, P (Char.ofNat n)) {c : Char}
    (hc : c.toNat < 128) : P c := by
  have hn := h c.toNat hc
  rwa [Char.ofNat_toNat] at hn

private theorem ascii_lower_cases {c : Char} (hc : c.toNat < 128) :
    c.toLower = c ∨ isLetterLike c.toLower = true ∧ isLetterLike c = true :=
  ascii_forall (P := fun c => c.toLower = c ∨ isLetterLike c.toLower = true ∧ isLetterLike c = true)
    (by decide) hc

/-- White space beyond ASCII. -/
def wideBlanks : List CharRange :=
  [⟨0x85, 0x85⟩, ⟨0xa0, 0xa0⟩, ⟨0x1680, 0x1680⟩, ⟨0x2000, 0x200a⟩, ⟨0x2028, 0x2029⟩,
    ⟨0x202f, 0x202f⟩, ⟨0x205f, 0x205f⟩, ⟨0x3000, 0x3000⟩]

/-- The code points of white space. -/
def blankCodes : List Nat :=
  [9, 10, 11, 12, 13, 28, 29, 30, 31, 32] ++
    wideBlanks.flatMap fun r => List.range' r.first (r.last + 1 - r.first)

theorem mem_blankCodes {c : Char} (h : isBlank c = true) : c.toNat ∈ blankCodes := by
  simp only [isBlank, Bool.or_eq_true, Bool.and_eq_true, decide_eq_true_eq] at h
  simp only [blankCodes, wideBlanks, List.flatMap_cons, List.flatMap_nil, List.mem_append,
    List.mem_cons, List.mem_range'_1, List.not_mem_nil]
  omega

/-- White space has no case, and the final-sigma rule does not look past it. -/
theorem blankCodes_caseless :
    ∀ n ∈ blankCodes, isCaseIgnorable (Char.ofNat n) = false ∧ isCased (Char.ofNat n) = false := by
  decide +kernel

/-- No white space lies between two code points. -/
def avoidsBlanks (first last : Nat) : Bool := wideBlanks.all fun b => last < b.first || b.last < first

theorem isBlank_eq_false_of_avoidsBlanks {c : Char} {first last : Nat}
    (h : avoidsBlanks first last = true) (hc : 128 ≤ c.toNat) (hfirst : first ≤ c.toNat)
    (hlast : c.toNat ≤ last) : isBlank c = false := by
  simp only [avoidsBlanks, wideBlanks, List.all_cons, List.all_nil, Bool.and_true, Bool.and_eq_true,
    Bool.or_eq_true, decide_eq_true_eq] at h
  simp only [isBlank, Bool.or_eq_false_iff, Bool.and_eq_false_iff, decide_eq_false_iff_not]
  omega

/-- A run that neither starts nor lands around white space, and lands on characters: beyond ASCII,
or on the letter k. -/
def isTame (r : CaseRun) : Bool :=
  let last := r.image + (r.last - r.first)
  avoidsBlanks r.first r.last && avoidsBlanks r.image last &&
    (last < 0xd800 || 0xdfff < r.image && last < 0x110000) &&
    (r.last < 128 || 128 ≤ r.image || r.image = 107 && last = 107)

theorem lowerRuns_tame : ∀ r ∈ lowerRuns, isTame r = true := by decide +kernel

theorem toNat_ofNat {n : Nat} (h : n < 0xd800 ∨ 0xdfff < n ∧ n < 0x110000) :
    (Char.ofNat n).toNat = n := by
  have hv : n.isValidChar := h
  unfold Char.ofNat
  rw [dif_pos hv]
  rfl

/-- A run sends its letters to characters. -/
theorem toNat_image {r : CaseRun} (hr : r ∈ lowerRuns) {n : Nat} (hn : r.contains n = true) :
    (Char.ofNat (r.image + (n - r.first))).toNat = r.image + (n - r.first) := by
  have ht := lowerRuns_tame r hr
  simp only [CaseRun.contains, Bool.and_eq_true, decide_eq_true_eq] at hn
  simp only [isTame, Bool.and_eq_true, Bool.or_eq_true, decide_eq_true_eq] at ht
  obtain ⟨⟨-, hvalid⟩, -⟩ := ht
  exact toNat_ofNat (by omega)

/-- Beyond ASCII a letter with a lower-case form is sent beyond ASCII or to the letter k. -/
theorem toNat_applyAll {c : Char} (hc : 128 ≤ c.toNat) :
    Char.ofNat (CaseRun.applyAll lowerRuns c.toNat) = c ∨
      isBlank c = false ∧ isBlank (Char.ofNat (CaseRun.applyAll lowerRuns c.toNat)) = false ∧
        (128 ≤ (Char.ofNat (CaseRun.applyAll lowerRuns c.toNat)).toNat ∨
          Char.ofNat (CaseRun.applyAll lowerRuns c.toNat) = 'k') := by
  unfold CaseRun.applyAll
  cases hr : lowerRuns.find? (·.contains c.toNat) with
  | none => exact Or.inl (Char.ofNat_toNat c)
  | some r =>
    right
    have ht := lowerRuns_tame r (List.mem_of_find?_eq_some hr)
    have hin := List.find?_some hr
    have hn := toNat_image (List.mem_of_find?_eq_some hr) hin
    simp only [CaseRun.contains, Bool.and_eq_true, decide_eq_true_eq] at hin
    simp only [isTame, Bool.and_eq_true, Bool.or_eq_true, decide_eq_true_eq] at ht
    obtain ⟨⟨⟨havoid, himage⟩, hvalid⟩, hrange⟩ := ht
    refine ⟨isBlank_eq_false_of_avoidsBlanks havoid hc hin.1.1 hin.1.2, ?_⟩
    dsimp only
    rcases hrange with (hascii | hwide) | ⟨hk, hlast⟩
    · omega
    · exact ⟨isBlank_eq_false_of_avoidsBlanks himage (by omega) (by omega) (by omega),
        Or.inl (by omega)⟩
    · have hkay : Char.ofNat (r.image + (c.toNat - r.first)) = 'k' := by
        rw [show r.image + (c.toNat - r.first) = 107 by omega]
      exact ⟨by rw [hkay]; rfl, Or.inr hkay⟩

/-- Every letter has a lower-case form. -/
theorem lowerLetter_ne_nil (c : Char) : lowerLetter c ≠ [] := by
  unfold lowerLetter
  split_ifs <;> simp

private theorem isLetterLike_of_wide {c : Char} (hc : 128 ≤ c.toNat) (hb : isBlank c = false) :
    isLetterLike c = true := by
  simp [isLetterLike, hc, hb]

/-- A character that lower case changes is a letter, and so is what it becomes. -/
theorem IsLowerOf.eq_or_letterLike {d c : Char} (h : IsLowerOf d c) :
    d = c ∨ isLetterLike d = true ∧ isLetterLike c = true := by
  rcases h with h | ⟨rfl, rfl⟩
  · unfold lowerLetter at h
    split_ifs at h with hascii hdot
    · rw [List.mem_singleton] at h
      exact h ▸ ascii_lower_cases hascii
    · subst hdot
      rw [List.mem_pair] at h
      rcases h with rfl | rfl <;> exact Or.inr (by decide)
    · rw [List.mem_singleton] at h
      rcases toNat_applyAll (c := c) (by omega) with heq | ⟨hc, hd, hwide | hk⟩
      · exact Or.inl (h.trans heq)
      · exact Or.inr ⟨h ▸ isLetterLike_of_wide hwide hd, isLetterLike_of_wide (by omega) hc⟩
      · exact Or.inr ⟨h ▸ hk ▸ by decide, isLetterLike_of_wide (by omega) hc⟩
  · exact Or.inr (by decide)

/-- A character that is no letter stands in a lower-case text where it stood before. -/
theorem IsLowerOf.eq_iff {d c x : Char} (h : IsLowerOf d c) (hx : isLetterLike x = false) :
    d = x ↔ c = x := by
  rcases h.eq_or_letterLike with rfl | ⟨hd, hc⟩
  · rfl
  · constructor <;> rintro rfl <;> simp_all

theorem toNat_lt_of_isAlpha {c : Char} (h : c.isAlpha = true) : c.toNat < 128 := by
  unfold Char.isAlpha Char.isUpper Char.isLower at h
  simp only [Bool.or_eq_true, Bool.and_eq_true, decide_eq_true_eq, ge_iff_le,
    UInt32.le_iff_toNat_le] at h
  have hz : 'z'.val.toNat = 122 := rfl
  have hZ : 'Z'.val.toNat = 90 := rfl
  simp only [Char.toNat]
  omega

theorem isLetterLike_of_isBlank {c : Char} (h : isBlank c = true) : isLetterLike c = false := by
  by_cases hc : c.toNat < 128
  · exact ascii_forall (P := fun c => isBlank c = true → isLetterLike c = false) (by decide) hc h
  · have halpha : c.isAlpha = false := by
      by_contra ha
      exact hc (toNat_lt_of_isAlpha (by simpa using ha))
    simp [isLetterLike, halpha, h]

theorem IsLowerOf.isBlank_eq {d c : Char} (h : IsLowerOf d c) : isBlank d = isBlank c := by
  rcases h.eq_or_letterLike with rfl | ⟨hd, hc⟩
  · rfl
  · have hnot {x : Char} (hx : isLetterLike x = true) : isBlank x = false := by
      by_contra hb
      rw [isLetterLike_of_isBlank (by simpa using hb)] at hx
      exact Bool.false_ne_true hx
    rw [hnot hd, hnot hc]

theorem toLower_of_wide {c : Char} (hc : 128 ≤ c.toNat) : c.toLower = c := by
  have hZ : 'Z'.val.toNat = 90 := rfl
  unfold Char.toLower
  rw [dif_neg]
  simp only [ge_iff_le, UInt32.le_iff_toNat_le, not_and, Nat.not_le]
  intro _
  simp only [Char.toNat] at hc
  omega

/-- Nothing is left to fold: patterns compare lower-case letters exactly. -/
theorem IsLowerOf.toLower_eq {d c : Char} (h : IsLowerOf d c) : d.toLower = d := by
  rcases h with h | ⟨rfl, rfl⟩
  · unfold lowerLetter at h
    split_ifs at h with hascii hdot
    · rw [List.mem_singleton] at h
      exact h ▸ ascii_forall (P := fun c => c.toLower.toLower = c.toLower) (by decide) hascii
    · rw [List.mem_pair] at h
      rcases h with rfl | rfl <;> decide
    · rw [List.mem_singleton] at h
      rcases toNat_applyAll (c := c) (by omega) with heq | ⟨-, -, hwide | hk⟩
      · exact toLower_of_wide (by rw [h, heq]; omega)
      · exact h ▸ toLower_of_wide hwide
      · exact h ▸ hk ▸ rfl
  · decide

namespace Text

/-- What lower case makes of a letter, whatever stands around it. -/
structure IsFormOf (form : Text) (c : Char) : Prop where
  ne_nil : form ≠ []
  letters : ∀ d ∈ form, IsLowerOf d c
  of_notLetter : isLetterLike c = false → form = [c]

theorem isFormOf_singleton {d c : Char} (h : IsLowerOf d c) : IsFormOf [d] c :=
  ⟨List.cons_ne_nil _ _, List.forall_mem_singleton.mpr h,
    fun hc => congrArg (fun e => [e]) ((h.eq_iff hc).mpr rfl)⟩

theorem isFormOf_lowerLetter (c : Char) : IsFormOf (lowerLetter c) c := by
  by_cases hdot : c = '\u0130'
  · subst hdot
    exact ⟨lowerLetter_ne_nil _, fun _ h => Or.inl h, fun h => absurd h (by decide)⟩
  · obtain ⟨d, hd⟩ : ∃ d, lowerLetter c = [d] := by
      unfold lowerLetter
      split_ifs
      · exact ⟨_, rfl⟩
      · exact ⟨_, rfl⟩
    rw [hd]
    exact isFormOf_singleton (Or.inl (by simp [hd]))

/-- Lower case is taken letter by letter. -/
theorem exists_lowerAfter_cons (before : Bool) (c : Char) (rest : Text) :
    ∃ form next, IsFormOf form c ∧ lowerAfter before (c :: rest) = form ++ lowerAfter next rest := by
  rw [lowerAfter]
  refine ⟨_, _, ?_, rfl⟩
  split_ifs with hsigma hfinal
  · exact isFormOf_singleton (Or.inr ⟨hsigma, rfl⟩)
  · subst hsigma
    exact isFormOf_singleton (Or.inl (by decide +kernel))
  · exact isFormOf_lowerLetter c

/-- Every character of a lower-case text comes from one of the text. -/
theorem mem_lowerAfter {t : Text} {before : Bool} {d : Char} (h : d ∈ lowerAfter before t) :
    ∃ c ∈ t, IsLowerOf d c := by
  induction t generalizing before with
  | nil => simp [lowerAfter] at h
  | cons c rest ih =>
    obtain ⟨form, next, hform, heq⟩ := exists_lowerAfter_cons before c rest
    rw [heq, List.mem_append] at h
    rcases h with h | h
    · exact ⟨c, List.mem_cons_self, hform.letters d h⟩
    · obtain ⟨b, hb, hd⟩ := ih h
      exact ⟨b, List.mem_cons_of_mem c hb, hd⟩

theorem exists_mem_lowerAfter (before : Bool) {t : Text} {c : Char} (h : c ∈ t) :
    ∃ d ∈ lowerAfter before t, IsLowerOf d c := by
  induction t generalizing before with
  | nil => simp at h
  | cons b rest ih =>
    obtain ⟨form, next, hform, heq⟩ := exists_lowerAfter_cons before b rest
    rw [heq]
    rcases List.mem_cons.mp h with rfl | h
    · obtain ⟨d, hd⟩ := List.exists_mem_of_ne_nil form hform.ne_nil
      exact ⟨d, List.mem_append_left _ hd, hform.letters d hd⟩
    · obtain ⟨d, hd, hlower⟩ := ih next h
      exact ⟨d, List.mem_append_right _ hd, hlower⟩

/-- No capital of ASCII is left in a lower-case text. -/
theorem toLower_of_mem_lower {t : Text} {d : Char} (h : d ∈ t.lower) : d.toLower = d := by
  obtain ⟨c, -, hd⟩ := mem_lowerAfter h
  exact hd.toLower_eq

/-- A character that ends a word for the final-sigma rule and has no case of its own. -/
structure BreaksWords (s : Char) : Prop where
  notIgnorable : isCaseIgnorable s = false
  notCased : isCased s = false
  lowerLetter_eq : lowerLetter s = [s]

/-- White space breaks words. -/
theorem breaksWords_of_isBlank {s : Char} (h : isBlank s = true) : BreaksWords s := by
  obtain ⟨hignorable, hcased⟩ := blankCodes_caseless s.toNat (mem_blankCodes h)
  rw [Char.ofNat_toNat] at hignorable hcased
  exact ⟨hignorable, hcased, (isFormOf_lowerLetter s).of_notLetter (isLetterLike_of_isBlank h)⟩

theorem breaksWords_quote : BreaksWords '"' := ⟨by decide, by decide, by decide⟩

theorem continuesWord_append_cons {s : Char} (hs : BreaksWords s) (t rest : Text) :
    continuesWord (t ++ s :: rest) = continuesWord t := by
  induction t with
  | nil => simp [continuesWord, hs.notIgnorable, hs.notCased]
  | cons c t ih =>
    by_cases hc : isCaseIgnorable c = true
    · simpa [continuesWord, List.dropWhile_cons, hc] using ih
    · simp [continuesWord, hc]

theorem lowerAfter_append_cons {s : Char} (hs : BreaksWords s) (before : Bool) (t rest : Text) :
    lowerAfter before (t ++ s :: rest) = lowerAfter before t ++ s :: lowerAfter false rest := by
  induction t generalizing before with
  | nil =>
    have hsigma : s ≠ 'Σ' := by
      rintro rfl
      exact absurd hs.notCased (by decide)
    simp [lowerAfter, hsigma, hs.lowerLetter_eq, hs.notIgnorable, hs.notCased]
  | cons c t ih =>
    simp only [List.cons_append, lowerAfter, continuesWord_append_cons hs, ih, List.append_assoc]

/-- Lower case is taken piece by piece between characters that break words. -/
theorem lower_append_cons {s : Char} (hs : BreaksWords s) (t rest : Text) :
    lower (t ++ s :: rest) = lower t ++ s :: lower rest :=
  lowerAfter_append_cons hs false t rest

end Text

end ChannelSearch
