import ChannelSearch.Proofs.IsoDates

/-!
The texts that are read as dates. Main statement: a text with two dashes that is read is the text of its
day, or fewer than two letters stand after its last dash.
-/

namespace ChannelSearch

namespace Text

theorem length_le_byteSize (t : Text) : t.length ≤ byteSize t := by
  induction t with
  | nil => exact Nat.le_refl 0
  | cons c t ih =>
    have hc := c.utf8Size_pos
    rw [byteSize_cons, List.length_cons]
    omega

theorem eq_nil_of_byteSize {t : Text} (h : byteSize t = 0) : t = [] := by
  have hlength := length_le_byteSize t
  exact List.eq_nil_of_length_eq_zero (by omega)

end Text

namespace IsoDate

open Date (paddedNumber)

theorem digit?_eq_some {c : Char} {k : Nat} (h : digit? c = some k) : k < 10 ∧ c = k.digitChar := by
  unfold digit? at h
  split_ifs at h with hdigit
  simp only [Bool.and_eq_true, decide_eq_true_eq, Char.le_def, UInt32.le_iff_toNat_le] at hdigit
  have hlow : 48 ≤ c.toNat := hdigit.1
  have hhigh : c.toNat ≤ 57 := hdigit.2
  have hk : c.toNat - 48 = k := Option.some.inj h
  have hlt : k < 10 := by omega
  refine ⟨hlt, Char.toNat_inj.mp ?_⟩
  rw [Nat.toNat_digitChar_of_lt_ten hlt]
  omega

theorem number?_one_eq_some {t rest : Text} {value n : Nat} (h : number? t 1 value = some (n, rest)) :
    ∃ k < 10, n = 10 * value + k ∧ t = k.digitChar :: rest := by
  cases t with
  | nil => cases h
  | cons c t =>
    obtain ⟨k, hk, hrest⟩ := Option.bind_eq_some_iff.mp h
    obtain ⟨hlt, hc⟩ := digit?_eq_some hk
    rw [number?] at hrest
    obtain ⟨hn, ht⟩ := Prod.mk.inj (Option.some.inj hrest)
    exact ⟨k, hlt, hn.symm, by rw [hc, ht]⟩

/-- A number that is read stands at the start of the text with all its digits. -/
theorem number?_eq_some {width : Nat} (hwidth : 1 ≤ width) {t rest : Text} {value n : Nat}
    (h : number? t width value = some (n, rest)) :
    ∃ k < 10 ^ width, n = 10 ^ width * value + k ∧ t = paddedNumber width k ++ rest := by
  induction width, hwidth using Nat.le_induction generalizing n rest with
  | base =>
    obtain ⟨k, hk, hn, ht⟩ := number?_one_eq_some h
    exact ⟨k, hk, hn, by rw [ht, Date.paddedNumber_one hk, List.singleton_append]⟩
  | succ width hwidth ih =>
    rw [number?_add] at h
    obtain ⟨⟨m, middle⟩, hm, hlast⟩ := Option.bind_eq_some_iff.mp h
    obtain ⟨k, hk, hmvalue, ht⟩ := ih hm
    obtain ⟨j, hj, hn, hmiddle⟩ := number?_one_eq_some hlast
    have hfront : (10 * k + j) / 10 = k := by omega
    have hback : (10 * k + j) % 10 = j := by omega
    refine ⟨10 * k + j, by rw [Nat.pow_succ]; omega, ?_, ?_⟩
    · rw [hn, hmvalue, Nat.pow_succ, Nat.mul_right_comm]
      omega
    · rw [ht, hmiddle, Date.paddedNumber_succ hwidth, hfront, hback, List.append_assoc,
        List.singleton_append]

/-- The dash between two fields, where dashes are used. -/
def mark (dashed : Bool) : Text := if dashed then ['-'] else []

variable {dashed : Bool} {year : Nat} {t rest : Text} {d : Date}

theorem separator?_eq_some (h : separator? dashed t = some rest) : t = mark dashed ++ rest := by
  cases dashed with
  | false => exact Option.some.inj h
  | true =>
    unfold separator? at h
    rw [if_pos rfl] at h
    split at h
    · cases h
      rfl
    · cases h

theorem ofParts?_eq_some {month day : Nat} (h : Date.ofParts? year month day = some d) :
    d.IsValid ∧ d = { year, month, day } := by
  unfold Date.ofParts? at h
  dsimp only at h
  split_ifs at h with hvalid
  cases h
  exact ⟨hvalid, rfl⟩

theorem isValid_of_week {week day : Nat} (h : Date.ofWeek? year week day = some d) : d.IsValid := by
  unfold Date.ofWeek? at h
  dsimp only at h
  split_ifs at h with hweek hvalid
  cases h
  exact hvalid

theorem monthDate?_eq_some (h : monthDate? year dashed t = some d) :
    d.IsValid ∧ ∃ month < 10 ^ 2, ∃ day < 10 ^ 2, ∃ tail, d = { year, month, day } ∧
      t = paddedNumber 2 month ++ (mark dashed ++ (paddedNumber 2 day ++ tail)) := by
  obtain ⟨⟨month, rest⟩, hmonth, hrest⟩ := Option.bind_eq_some_iff.mp h
  obtain ⟨after, hafter, hfields⟩ := Option.bind_eq_some_iff.mp hrest
  obtain ⟨⟨day, tail⟩, hday, hparts⟩ := Option.bind_eq_some_iff.mp hfields
  obtain ⟨hvalid, hd⟩ := ofParts?_eq_some hparts
  obtain ⟨k, hk, hmonthvalue, ht⟩ := number?_eq_some (by decide) hmonth
  obtain ⟨j, hj, hdayvalue, hafterday⟩ := number?_eq_some (by decide) hday
  rw [Nat.mul_zero, Nat.zero_add] at hmonthvalue hdayvalue
  rw [hmonthvalue, hdayvalue] at hd
  rw [separator?_eq_some hafter, hafterday] at ht
  exact ⟨hvalid, k, hk, j, hj, tail, hd, ht⟩

theorem weekDate?_eq_some (h : weekDate? year dashed t = some d) :
    d.IsValid ∧ ∃ week < 10 ^ 2, t = paddedNumber 2 week ∨ ∃ day < 10 ^ 1, ∃ tail,
      t = paddedNumber 2 week ++ (mark dashed ++ (paddedNumber 1 day ++ tail)) := by
  obtain ⟨⟨week, rest⟩, hweek, hrest⟩ := Option.bind_eq_some_iff.mp h
  obtain ⟨k, hk, -, ht⟩ := number?_eq_some (by decide) hweek
  dsimp only at hrest
  split_ifs at hrest with hend
  · rw [List.isEmpty_iff.mp hend, List.append_nil] at ht
    exact ⟨isValid_of_week hrest, k, hk, .inl ht⟩
  · obtain ⟨after, hafter, hfields⟩ := Option.bind_eq_some_iff.mp hrest
    obtain ⟨⟨day, tail⟩, hday, hparts⟩ := Option.bind_eq_some_iff.mp hfields
    obtain ⟨j, hj, -, hafterday⟩ := number?_eq_some (by decide) hday
    rw [separator?_eq_some hafter, hafterday] at ht
    exact ⟨isValid_of_week hparts, k, hk, .inr ⟨j, hj, tail, ht⟩⟩

/-- A text that is read has one of three sizes, and a week or a month after its year. -/
theorem read?_eq_some (h : read? t = some d) :
    t.byteSize ∈ [7, 8, 10] ∧ ∃ year < 10 ^ 4, ∃ dashed fields,
      t = paddedNumber 4 year ++ (mark dashed ++ fields) ∧
        (monthDate? year dashed fields = some d ∨
          ∃ week, fields = 'W' :: week ∧ weekDate? year dashed week = some d) := by
  obtain ⟨_, hsize, hrest⟩ := Option.bind_eq_some_iff.mp h
  obtain ⟨⟨year, rest⟩, hyear, hdate⟩ := Option.bind_eq_some_iff.mp hrest
  obtain ⟨k, hk, hvalue, ht⟩ := number?_eq_some (by decide) hyear
  rw [Nat.mul_zero, Nat.zero_add] at hvalue
  subst hvalue
  refine ⟨by simpa [guard, or_iff_not_imp_left] using hsize, year, hk, ?_⟩
  cases rest with
  | nil => exact ⟨false, [], ht, .inl hdate⟩
  | cons c after =>
    by_cases hc : c = '-'
    · subst hc
      dsimp only at hdate
      split at hdate
      · exact ⟨true, _, ht, .inr ⟨_, by assumption, hdate⟩⟩
      · exact ⟨true, _, ht, .inl hdate⟩
    · simp only [List.cons.injEq, hc, false_and, imp_self, implies_true] at hdate
      split at hdate
      · exact ⟨false, _, ht, .inr ⟨_, by assumption, hdate⟩⟩
      · exact ⟨false, _, ht, .inl hdate⟩

theorem isValid_of_read (h : read? t = some d) : d.IsValid := by
  obtain ⟨-, year, -, dashed, fields, -, hmonth | ⟨week, -, hweek⟩⟩ := read?_eq_some h
  · exact (monthDate?_eq_some hmonth).1
  · exact (weekDate?_eq_some hweek).1

/-- No text of more than ten bytes is read. -/
theorem read?_of_long (h : 10 < t.byteSize) : read? t = none := by
  cases hread : read? t with
  | none => rfl
  | some d =>
    have hsize := (read?_eq_some hread).1
    simp only [List.mem_cons, List.not_mem_nil, or_false] at hsize
    omega

/-- Two dashes in two bytes are all there is. -/
theorem tail_of_dashes {tail : Text} (hsize : tail.byteSize ≤ 2) (hdashes : tail.count '-' = 2) :
    tail = ['-', '-'] := by
  have hle := Text.length_le_byteSize tail
  have hcount := List.count_le_length (a := '-') (l := tail)
  have hlength : tail.length = 2 := by omega
  have hall := List.eq_replicate_of_mem
    fun c hc => (List.count_eq_length.mp (hdashes.trans hlength.symm) c hc).symm
  rw [hall, hlength]
  rfl

theorem count_paddedNumber (width n : Nat) : (paddedNumber width n).count '-' = 0 :=
  List.count_eq_zero.mpr (Date.not_mem_paddedNumber (by decide) width n)

/-- Fewer than two letters stand after the last dash. -/
def EndsShort (t : Text) : Prop := ∃ front back, t = front ++ '-' :: back ∧ '-' ∉ back ∧ back.length < 2

/-- The written fields of a day: with dashes between them they have ten bytes, and without eight. -/
inductive IsCore (d : Date) (core : Text) : Prop where
  | iso (heq : core = d.iso) (hsize : core.byteSize = 10)
  | short (hends : EndsShort core) (hsize : core.byteSize = 10)
  | plain (hdashes : core.count '-' = 0) (hsize : core.byteSize = 8)

theorem isCore_of_month (hyear : year < 10 ^ 4) (h : monthDate? year dashed t = some d) :
    ∃ core tail, paddedNumber 4 year ++ (mark dashed ++ t) = core ++ tail ∧ IsCore d core := by
  obtain ⟨hvalid, month, hmonth, day, hday, tail, hd, rfl⟩ := monthDate?_eq_some h
  refine ⟨paddedNumber 4 year ++ (mark dashed ++ (paddedNumber 2 month ++
    (mark dashed ++ paddedNumber 2 day))), tail, by simp only [List.append_assoc], ?_⟩
  cases dashed with
  | true =>
    have heq : paddedNumber 4 year ++ (mark true ++ (paddedNumber 2 month ++
        (mark true ++ paddedNumber 2 day))) = d.iso := by
      rw [hd, Date.iso, Int.toNat_natCast]
      rfl
    exact .iso heq (heq ▸ Date.byteSize_iso hvalid.fitsFields)
  | false =>
    apply IsCore.plain
    · simp [mark, count_paddedNumber]
    · have hyearsize := Date.byteSize_paddedNumber (by decide) hyear
      have hmonthsize := Date.byteSize_paddedNumber (by decide) hmonth
      have hdaysize := Date.byteSize_paddedNumber (by decide) hday
      simp [mark, Text.byteSize_append, hyearsize, hmonthsize, hdaysize]

theorem isCore_of_week (hyear : year < 10 ^ 4) (h : weekDate? year dashed t = some d)
    (hdashes : (paddedNumber 4 year ++ (mark dashed ++ 'W' :: t)).count '-' = 2) :
    ∃ core tail, paddedNumber 4 year ++ (mark dashed ++ 'W' :: t) = core ++ tail ∧ IsCore d core := by
  obtain ⟨-, week, hweek, rfl | ⟨day, hday, tail, rfl⟩⟩ := weekDate?_eq_some h
  · have hone : (mark dashed).count '-' ≤ 1 := by cases dashed <;> decide
    rw [List.count_append, List.count_append, List.count_cons_of_ne (by decide), count_paddedNumber,
      count_paddedNumber] at hdashes
    omega
  · have hyearsize := Date.byteSize_paddedNumber (by decide) hyear
    have hweeksize := Date.byteSize_paddedNumber (by decide) hweek
    have hdaysize := Date.byteSize_paddedNumber (by decide) hday
    have hletter : Char.utf8Size 'W' = 1 := rfl
    have hdash : Char.utf8Size '-' = 1 := rfl
    refine ⟨paddedNumber 4 year ++ (mark dashed ++ 'W' :: (paddedNumber 2 week ++
      (mark dashed ++ paddedNumber 1 day))), tail, by simp, ?_⟩
    cases dashed with
    | true =>
      apply IsCore.short
      · refine ⟨paddedNumber 4 year ++ '-' :: 'W' :: paddedNumber 2 week, paddedNumber 1 day,
          by simp [mark], Date.not_mem_paddedNumber (by decide) 1 day, ?_⟩
        rw [Date.length_paddedNumber (by decide) hday]
        decide
      · simp [mark, Text.byteSize_append, Text.byteSize_cons, hyearsize, hweeksize, hdaysize, hletter,
          hdash]
    | false =>
      apply IsCore.plain
      · simp [mark, count_paddedNumber]
      · simp [mark, Text.byteSize_append, Text.byteSize_cons, hyearsize, hweeksize, hdaysize, hletter]

/-- A text with two dashes that is read has ten bytes: the dashes stand between its fields, or there are
none and they follow the last field. -/
theorem read?_of_two_dashes (h : read? t = some d) (hdashes : t.count '-' = 2) :
    t.byteSize = 10 ∧ (t = d.iso ∨ EndsShort t) := by
  obtain ⟨hsize, year, hyear, dashed, fields, rfl, hfields⟩ := read?_eq_some h
  obtain ⟨core, tail, ht, hcore⟩ : ∃ core tail,
      paddedNumber 4 year ++ (mark dashed ++ fields) = core ++ tail ∧ IsCore d core := by
    obtain hmonth | ⟨week, rfl, hweek⟩ := hfields
    · exact isCore_of_month hyear hmonth
    · exact isCore_of_week hyear hweek hdashes
  rw [ht] at hsize hdashes ⊢
  rw [Text.byteSize_append] at hsize
  simp only [List.mem_cons, List.not_mem_nil, or_false] at hsize
  have hfull (hten : core.byteSize = 10) : core ++ tail = core := by
    rw [Text.eq_nil_of_byteSize (by omega : tail.byteSize = 0), List.append_nil]
  cases hcore with
  | iso heq hten =>
    rw [hfull hten]
    exact ⟨hten, .inl heq⟩
  | short hends hten =>
    rw [hfull hten]
    exact ⟨hten, .inr hends⟩
  | plain hnone height =>
    rw [List.count_append, hnone, Nat.zero_add] at hdashes
    have htail := tail_of_dashes (by omega) hdashes
    subst htail
    rw [Text.byteSize_append, height]
    exact ⟨rfl, .inr ⟨core ++ ['-'], [], by simp, by simp, by decide⟩⟩

end IsoDate

end ChannelSearch
