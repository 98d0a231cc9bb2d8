import ChannelSearch.Proofs.LikePatterns
import ChannelSearch.Proofs.LowerCase

/-!
Texts with the same lower case. Main statements: lower case is its own lower case, the case of ASCII
letters does not matter to it, and marks at the start of a text can be dropped before or after it.
-/

namespace ChannelSearch

/-- No code point that the one run makes is in the other: the two lie apart, or both take every second
code point, on different sides. -/
def CaseRun.avoids (r other : CaseRun) : Bool :=
  Nat.blt (r.image + (r.last - r.first)) other.first || Nat.blt other.last r.image ||
    (Nat.beq other.step 2 && (Nat.beq r.step 2 || Nat.beq r.first r.last) &&
      Nat.beq ((r.image + other.first) % 2) 1)

theorem CaseRun.not_contains_of_avoids {r other : CaseRun} (h : r.avoids other = true) {n : Nat}
    (hn : r.contains n = true) : other.contains (r.image + (n - r.first)) = false := by
  simp only [avoids, Bool.or_eq_true, Bool.and_eq_true, Nat.blt_eq, Nat.beq_eq] at h
  simp only [contains, Bool.and_eq_true, decide_eq_true_eq] at hn
  simp only [contains, Bool.and_eq_false_iff, decide_eq_false_iff_not]
  obtain ⟨⟨hfirst, hlast⟩, hstep⟩ := hn
  rcases h with (hbelow | habove) | ⟨⟨htwo, hevery⟩, hodd⟩
  · omega
  · omega
  · rw [htwo]
    rcases hevery with hevery | hsingle
    · rw [hevery] at hstep
      omega
    · omega

/-- The letters that lower case changes: those of the runs, and the capital with a dot. -/
def capitalRuns : List CaseRun := ⟨0x130, 0x130, 1, 0x130⟩ :: lowerRuns

theorem lowerRuns_avoid : lowerRuns.all (fun r => capitalRuns.all r.avoids) = true := by
  decide +kernel

/-- Lower case leaves the letter alone. -/
structure IsLowered (d : Char) : Prop where
  ne_sigma : d ≠ 'Σ'
  lowerLetter_eq : lowerLetter d = [d]

theorem isLowered_toLower {c : Char} (hc : c.toNat < 128) : IsLowered c.toLower := by
  have h := ascii_forall (P := fun c => c.toLower ≠ 'Σ' ∧ lowerLetter c.toLower = [c.toLower])
    (by decide) hc
  exact ⟨h.1, h.2⟩

/-- Beyond ASCII, a letter of no run is left alone. -/
theorem isLowered_of_not_contains {d : Char} (hwide : 128 ≤ d.toNat)
    (h : ∀ r ∈ capitalRuns, r.contains d.toNat = false) : IsLowered d := by
  have hdot : d ≠ '\u0130' := by
    rintro rfl
    exact absurd (h _ List.mem_cons_self) (by decide)
  have hruns : lowerRuns.find? (·.contains d.toNat) = none := by
    rw [List.find?_eq_none]
    intro r hr
    rw [h r (List.mem_cons_of_mem _ hr)]
    exact Bool.false_ne_true
  refine ⟨?_, ?_⟩
  · rintro rfl
    exact absurd hruns (by decide +kernel)
  · rw [lowerLetter, if_neg (by omega), if_neg hdot, CaseRun.applyAll, hruns]
    exact congrArg (fun c => [c]) (Char.ofNat_toNat d)

/-- What a letter is sent to is in no run. -/
theorem applyAll_not_contains {c : Char} (hdot : c ≠ '\u0130') :
    ∀ r ∈ capitalRuns,
      r.contains (Char.ofNat (CaseRun.applyAll lowerRuns c.toNat)).toNat = false := by
  unfold CaseRun.applyAll
  cases hfound : lowerRuns.find? (·.contains c.toNat) with
  | none =>
    dsimp only
    rw [Char.ofNat_toNat]
    refine List.forall_mem_cons.mpr ⟨?_, fun r hr => ?_⟩
    · have hcode : c.toNat ≠ 0x130 := fun h => hdot (by rw [← Char.ofNat_toNat c, h])
      simp only [CaseRun.contains, Bool.and_eq_false_iff, decide_eq_false_iff_not]
      omega
    · exact Bool.not_eq_true _ ▸ List.find?_eq_none.mp hfound r hr
  | some run =>
    intro r hr
    have hmem := List.mem_of_find?_eq_some hfound
    have hin := List.find?_some hfound
    dsimp only
    rw [toNat_image hmem hin]
    have havoids := List.all_eq_true.mp (List.all_eq_true.mp lowerRuns_avoid run hmem) r hr
    exact CaseRun.not_contains_of_avoids havoids hin

/-- Lower case leaves alone what it makes of a letter. -/
theorem IsLowerOf.isLowered {d c : Char} (h : IsLowerOf d c) : IsLowered d := by
  rcases h with h | ⟨rfl, rfl⟩
  · unfold lowerLetter at h
    split_ifs at h with hascii hdot
    · exact List.mem_singleton.mp h ▸ isLowered_toLower hascii
    · rcases List.mem_pair.mp h with rfl | rfl <;> exact ⟨by decide, by decide +kernel⟩
    · obtain rfl := List.mem_singleton.mp h
      have houtside := applyAll_not_contains hdot
      rcases toNat_applyAll (c := c) (by omega) with heq | ⟨-, -, hwide | hk⟩
      · exact isLowered_of_not_contains (by rw [heq]; omega) houtside
      · exact isLowered_of_not_contains hwide houtside
      · rw [hk]
        exact ⟨by decide, by decide⟩
  · exact ⟨by decide, by decide +kernel⟩

namespace Text

theorem lowerAfter_of_isLowered {t : Text} (h : ∀ d ∈ t, IsLowered d) (before : Bool) :
    lowerAfter before t = t := by
  induction t generalizing before with
  | nil => rfl
  | cons d rest ih =>
    obtain ⟨hd, hrest⟩ := List.forall_mem_cons.mp h
    rw [lowerAfter, if_neg hd.ne_sigma, hd.lowerLetter_eq, ih hrest]
    rfl

/-- Lower case is its own lower case. -/
@[simp] theorem lower_lower (t : Text) : t.lower.lower = t.lower := by
  apply lowerAfter_of_isLowered
  intro d hd
  obtain ⟨c, -, hlower⟩ := mem_lowerAfter hd
  exact hlower.isLowered

private theorem ascii_toLower {c : Char} (hc : c.toNat < 128) :
    lowerLetter c.toLower = lowerLetter c ∧ isCaseIgnorable c.toLower = isCaseIgnorable c ∧
      isCased c.toLower = isCased c ∧ c.toLower ≠ 'Σ' ∧ c ≠ 'Σ' :=
  ascii_forall (P := fun c => lowerLetter c.toLower = lowerLetter c ∧
    isCaseIgnorable c.toLower = isCaseIgnorable c ∧ isCased c.toLower = isCased c ∧
      c.toLower ≠ 'Σ' ∧ c ≠ 'Σ') (by decide) hc

/-- A letter and its folded form are alike in every respect that lower case looks at. -/
theorem lowerLetter_toLower (c : Char) :
    lowerLetter c.toLower = lowerLetter c ∧ isCaseIgnorable c.toLower = isCaseIgnorable c ∧
      isCased c.toLower = isCased c ∧ (c.toLower = 'Σ' ↔ c = 'Σ') := by
  by_cases hc : c.toNat < 128
  · obtain ⟨hletter, hignorable, hcased, hlow, hup⟩ := ascii_toLower hc
    exact ⟨hletter, hignorable, hcased, iff_of_false hlow hup⟩
  · rw [toLower_of_wide (by omega)]
    exact ⟨rfl, rfl, rfl, Iff.rfl⟩

theorem continuesWord_folded (t : Text) : continuesWord t.folded = continuesWord t := by
  induction t with
  | nil => rfl
  | cons c rest ih =>
    obtain ⟨-, hignorable, hcased, -⟩ := lowerLetter_toLower c
    unfold continuesWord folded at *
    rw [List.map_cons, List.dropWhile_cons, List.dropWhile_cons, hignorable]
    split_ifs
    · exact ih
    · exact hcased

theorem lowerAfter_folded (t : Text) (before : Bool) :
    lowerAfter before t.folded = lowerAfter before t := by
  induction t generalizing before with
  | nil => rfl
  | cons c rest ih =>
    obtain ⟨hletter, hignorable, hcased, hsigma⟩ := lowerLetter_toLower c
    have hrest := continuesWord_folded rest
    unfold folded at *
    rw [List.map_cons, lowerAfter, lowerAfter]
    simp only [hletter, hignorable, hcased, hsigma, hrest, ih]

/-- The case of ASCII letters does not matter to lower case. -/
theorem lower_eq_of_folded {t u : Text} (h : t.folded = u.folded) : t.lower = u.lower := by
  rw [lower, ← lowerAfter_folded, h, lowerAfter_folded, lower]

/-- A character without case, on which the form of no other letter depends. -/
structure IsCaseless (m : Char) : Prop where
  notCased : isCased m = false
  notLetter : isLetterLike m = false
  lowerLetter_eq : lowerLetter m = [m]

theorem IsCaseless.lower_cons {m : Char} (hm : IsCaseless m) (t : Text) :
    lower (m :: t) = m :: lower t := by
  have hsigma : m ≠ 'Σ' := by
    rintro rfl
    exact absurd hm.notCased (by decide +kernel)
  rw [lower, lowerAfter, if_neg hsigma, hm.lowerLetter_eq, hm.notCased, ite_self]
  rfl

theorem exists_head_lower (c : Char) (rest : Text) :
    ∃ d after, lower (c :: rest) = d :: after ∧ IsLowerOf d c := by
  obtain ⟨form, next, hform, heq⟩ := exists_lowerAfter_cons false c rest
  obtain ⟨d, after, rfl⟩ := List.exists_cons_of_ne_nil hform.ne_nil
  exact ⟨d, _, heq, hform.letters d List.mem_cons_self⟩

/-- Marks at the start are dropped before lower case is taken, or after. -/
theorem IsCaseless.lower_dropWhile {m : Char} (hm : IsCaseless m) (t : Text) :
    lower (t.dropWhile (· = m)) = (lower t).dropWhile (· = m) := by
  induction t with
  | nil => rfl
  | cons c rest ih =>
    by_cases hc : c = m
    · subst hc
      rw [hm.lower_cons, List.dropWhile_cons_of_pos (by simp), List.dropWhile_cons_of_pos (by simp), ih]
    · obtain ⟨d, after, heq, hd⟩ := exists_head_lower c rest
      have hne : d ≠ m := mt (hd.eq_iff hm.notLetter).mp hc
      rw [List.dropWhile_cons_of_neg (by simpa using hc), heq,
        List.dropWhile_cons_of_neg (by simpa using hne)]

theorem isCaseless_at : IsCaseless '@' := ⟨by decide, by decide, by decide⟩

theorem isCaseless_point : IsCaseless '.' := ⟨by decide, by decide, by decide⟩

/-- A user is looked up by the name in lower case, without the marks of a mention. -/
theorem mentionKey_eq (t : Text) : t.mentionKey = t.lower.dropWhile (· = '@') :=
  isCaseless_at.lower_dropWhile t

theorem mentionKey_of_unmarked {t : Text} (h : t.head? ≠ some '@') : t.mentionKey = t.lower := by
  cases t with
  | nil => rfl
  | cons c rest =>
    have hc : c ≠ '@' := fun heq => h (congrArg some heq)
    rw [mentionKey, List.dropWhile_cons_of_neg (by simpa using hc)]

end Text

end ChannelSearch
