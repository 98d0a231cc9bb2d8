import ChannelSearch.DateFilter
import ChannelSearch.Proofs.SearchBoxContents
import ChannelSearch.Proofs.Words
import Mathlib.Tactic.Common
import Mathlib.Tactic.IntervalCases

/-!
Written dates are read back. Main statement: the text of year, month and day names this day if it exists,
and a search reads every spelling of it, with white space around and with or without leading zeros, as
this text.
-/

namespace ChannelSearch

theorem toNat_of_isDigit {c : Char} (h : c.isDigit = true) : 48 ≤ c.toNat ∧ c.toNat ≤ 57 := by
  simp only [Char.isDigit, ge_iff_le, Bool.and_eq_true, decide_eq_true_eq, UInt32.le_iff_toNat_le] at h
  exact h

theorem not_blank_of_isDigit {c : Char} (h : c.isDigit = true) : isBlank c = false := by
  obtain ⟨hlow, hhigh⟩ := toNat_of_isDigit h
  simp only [isBlank, Bool.or_eq_false_iff, Bool.and_eq_false_iff, decide_eq_false_iff_not]
  omega

namespace Text

theorem ofNat_of_lt {n : Nat} (h : n < 10) : ofNat n = [n.digitChar] := by
  rw [ofNat, Nat.toString_eq_repr, Nat.toList_repr, Nat.toDigits_of_lt_base h]

theorem ofNat_of_le {n : Nat} (h : 10 ≤ n) : ofNat n = ofNat (n / 10) ++ [(n % 10).digitChar] := by
  simp only [ofNat, Nat.toString_eq_repr, Nat.toList_repr]
  exact Nat.toDigits_of_base_le (by decide) h

theorem isDigit_of_mem_ofNat {n : Nat} {c : Char} (h : c ∈ ofNat n) : c.isDigit = true := by
  rw [ofNat, Nat.toString_eq_repr, Nat.toList_repr] at h
  exact Nat.isDigit_of_mem_toDigits (by decide) (by decide) h

/-- Digits have no sign in front of them. -/
theorem zeroFill_of_digits {width : Nat} {t : Text} (h : ∀ c ∈ t, c.isDigit = true) :
    zeroFill width t = List.replicate (width - t.length) '0' ++ t := by
  unfold zeroFill
  split
  · exact absurd (h '+' List.mem_cons_self) (by decide)
  · exact absurd (h '-' List.mem_cons_self) (by decide)
  · rfl

/-- White space around a text is stripped. -/
theorem strip_between {before t after : Text} (hbefore : ∀ c ∈ before, isBlank c = true)
    (hafter : ∀ c ∈ after, isBlank c = true) (h : IsSolid t) : strip (before ++ t ++ after) = t := by
  obtain ⟨c, hc, hblank⟩ := h.head
  obtain ⟨d, hd, hdblank⟩ := h.last
  have hhead : (t ++ after).head? = some c := by rw [List.head?_append, hc, Option.some_or]
  have hlast : t.reverse.head? = some d := by rwa [List.head?_reverse]
  rw [strip, trim, List.append_assoc, List.dropWhile_append_of_pos hbefore,
    dropWhile_of_head hhead hblank, List.reverse_append,
    List.dropWhile_append_of_pos (by simpa using hafter), dropWhile_of_head hlast hdblank,
    List.reverse_reverse]

theorem byteSize_cons (c : Char) (t : Text) : byteSize (c :: t) = c.utf8Size + byteSize t := rfl

theorem byteSize_append (t u : Text) : byteSize (t ++ u) = byteSize t + byteSize u := by
  induction t with
  | nil => exact (Nat.zero_add (byteSize u)).symm
  | cons c t ih => rw [List.cons_append, byteSize_cons, byteSize_cons, ih, Nat.add_assoc]

theorem byteSize_of_ascii {t : Text} (h : ∀ c ∈ t, c.toNat ≤ 127) : byteSize t = t.length := by
  induction t with
  | nil => rfl
  | cons c t ih =>
    have hc : c.utf8Size = 1 := Char.utf8Size_eq_one_iff.mpr (h c List.mem_cons_self)
    have ht := ih fun d hd => h d (List.mem_cons_of_mem c hd)
    rw [byteSize_cons, List.length_cons]
    omega

end Text

namespace Date

theorem isDigit_of_mem_paddedNumber {width n : Nat} {c : Char} (h : c ∈ paddedNumber width n) :
    c.isDigit = true := by
  rw [paddedNumber, List.mem_append] at h
  rcases h with hzero | hdigit
  · rw [List.eq_of_mem_replicate hzero]
    decide
  · exact Text.isDigit_of_mem_ofNat hdigit

theorem not_mem_paddedNumber {c : Char} (hc : c.isDigit = false) (width n : Nat) :
    c ∉ paddedNumber width n :=
  fun h => absurd (isDigit_of_mem_paddedNumber h) (by simp [hc])

theorem paddedNumber_one {n : Nat} (h : n < 10) : paddedNumber 1 n = [n.digitChar] := by
  simp [paddedNumber, Text.ofNat_of_lt h]

/-- The last digit stands after the number without it. -/
theorem paddedNumber_succ {width : Nat} (hwidth : 1 ≤ width) (n : Nat) :
    paddedNumber (width + 1) n = paddedNumber width (n / 10) ++ [(n % 10).digitChar] := by
  by_cases h : n < 10
  · have hzeros : List.replicate width '0' = List.replicate (width - 1) '0' ++ ['0'] := by
      rw [← List.replicate_succ', Nat.sub_add_cancel hwidth]
    have hrest : n / 10 = 0 := by omega
    have hlast : n % 10 = n := by omega
    simp [paddedNumber, Text.ofNat_of_lt, h, hrest, hlast, hzeros]
  · simp [paddedNumber, Text.ofNat_of_le (Nat.le_of_not_lt h), Nat.add_sub_add_right]

/-- A number that is not wider than the width is filled with zeros up to it. -/
theorem zeroFill_paddedNumber {width wide : Nat} (h : width ≤ wide) (n : Nat) :
    Text.zeroFill wide (paddedNumber width n) = paddedNumber wide n := by
  rw [Text.zeroFill_of_digits fun c hc => isDigit_of_mem_paddedNumber hc]
  simp only [paddedNumber, List.length_append, List.length_replicate]
  rw [← List.append_assoc, List.replicate_append_replicate]
  congr 2
  omega

theorem length_paddedNumber {width n : Nat} (hwidth : 1 ≤ width) (h : n < 10 ^ width) :
    (paddedNumber width n).length = width := by
  induction width, hwidth using Nat.le_induction generalizing n with
  | base => simp [paddedNumber_one (by simpa using h)]
  | succ width hwidth ih =>
    rw [paddedNumber_succ hwidth, List.length_append, ih (by omega), List.length_singleton]

theorem byteSize_paddedNumber {width n : Nat} (hwidth : 1 ≤ width) (h : n < 10 ^ width) :
    (paddedNumber width n).byteSize = width := by
  rw [Text.byteSize_of_ascii, length_paddedNumber hwidth h]
  intro c hc
  have := (toNat_of_isDigit (isDigit_of_mem_paddedNumber hc)).2
  omega

end Date

namespace IsoDate

theorem digit?_digitChar {k : Nat} (h : k < 10) : digit? k.digitChar = some k := by
  interval_cases k <;> rfl

/-- The digits of a number are read in two parts. -/
theorem number?_add (t : Text) (a b value : Nat) :
    number? t (a + b) value =
      (number? t a value).bind fun (value, rest) => number? rest b value := by
  induction a generalizing t value with
  | zero => simp [number?]
  | succ a ih =>
    rw [Nat.succ_add]
    cases t with
    | nil => rfl
    | cons c rest =>
      cases hc : digit? c with
      | none => simp [number?, hc]
      | some k => simp [number?, hc, ih]

theorem number?_paddedNumber {width n : Nat} (hwidth : 1 ≤ width) (h : n < 10 ^ width) (value : Nat)
    (rest : Text) :
    number? (Date.paddedNumber width n ++ rest) width value =
      some (10 ^ width * value + n, rest) := by
  induction width, hwidth using Nat.le_induction generalizing n rest with
  | base =>
    have hn : n < 10 := by simpa using h
    simp [Date.paddedNumber_one hn, number?, digit?_digitChar hn]
  | succ width hwidth ih =>
    have hlast : n % 10 < 10 := by omega
    rw [Date.paddedNumber_succ hwidth, List.append_assoc, number?_add, ih (by omega)]
    simp only [List.singleton_append, Option.bind_some, number?, digit?_digitChar hlast,
      Option.bind_eq_bind, Option.some.injEq, Prod.mk.injEq, and_true]
    rw [Nat.pow_succ, Nat.mul_right_comm]
    omega

end IsoDate

namespace Date

variable {d : Date}

/-- The fields have room in a written date: four digits for the year, and two for the month and for the
day. -/
structure FitsFields (d : Date) : Prop where
  year : 0 ≤ d.year ∧ d.year.toNat < 10 ^ 4
  month : d.month < 10 ^ 2
  day : d.day < 10 ^ 2

theorem IsValid.fitsFields (h : d.IsValid) : d.FitsFields := by
  obtain ⟨hpast, hyear, hfirst, hmonth, -, hday⟩ := h
  have hlength : monthLength d.year d.month ≤ 31 := by
    unfold monthLength monthLengths
    generalize d.month = month at hfirst hmonth
    interval_cases month <;> split_ifs <;> decide
  exact ⟨⟨by omega, by omega⟩, by omega, by omega⟩

/-- Year, month and day with dashes; the month and the day have at least so many digits. -/
def spelling (monthWidth dayWidth : Nat) (d : Date) : Text :=
  paddedNumber 4 d.year.toNat ++
    '-' :: (paddedNumber monthWidth d.month ++ '-' :: paddedNumber dayWidth d.day)

variable {monthWidth dayWidth : Nat}

/-- A digit or a dash. -/
theorem mem_spelling {c : Char} (h : c ∈ d.spelling monthWidth dayWidth) :
    c.isDigit = true ∨ c = '-' := by
  simp only [spelling, List.mem_append, List.mem_cons] at h
  rcases h with hyear | rfl | hmonth | rfl | hday
  · exact .inl (isDigit_of_mem_paddedNumber hyear)
  · exact .inr rfl
  · exact .inl (isDigit_of_mem_paddedNumber hmonth)
  · exact .inr rfl
  · exact .inl (isDigit_of_mem_paddedNumber hday)

theorem isSolid_spelling : IsSolid (d.spelling monthWidth dayWidth) := by
  apply isSolid_of_visible
  · simp [spelling]
  · intro c hc
    rcases mem_spelling hc with hdigit | rfl
    · exact not_blank_of_isDigit hdigit
    · decide

/-- Month and day are filled up to two digits. -/
theorem padDate_spelling {value : Text} (hmonth : monthWidth ≤ 2) (hday : dayWidth ≤ 2)
    (hvalue : value.strip = d.spelling monthWidth dayWidth) : padDate value = d.iso := by
  have hpiece (width n : Nat) : ∀ c ∈ paddedNumber width n, decide (c = '-') = false :=
    fun c hc => decide_eq_false fun heq => not_mem_paddedNumber (by decide) width n (heq ▸ hc)
  have hsplit : value.strip.splitWhere (· = '-') =
      [paddedNumber 4 d.year.toNat, paddedNumber monthWidth d.month, paddedNumber dayWidth d.day] := by
    rw [hvalue]
    unfold spelling
    rw [Text.splitWhere_append_cons (by decide), Text.splitWhere_append_cons (by decide),
      Text.splitWhere_of_none (hpiece 4 _), Text.splitWhere_of_none (hpiece monthWidth _),
      Text.splitWhere_of_none (hpiece dayWidth _)]
    rfl
  unfold padDate
  rw [hsplit]
  dsimp only
  rw [zeroFill_paddedNumber hmonth, zeroFill_paddedNumber hday]
  rfl

theorem padDate_iso (d : Date) : padDate d.iso = d.iso :=
  padDate_spelling (Nat.le_refl 2) (Nat.le_refl 2) isSolid_spelling.strip_eq

theorem byteSize_iso (h : d.FitsFields) : d.iso.byteSize = 10 := by
  have hdash : Char.utf8Size '-' = 1 := rfl
  simp only [iso, Text.byteSize_append, Text.byteSize_cons, hdash,
    byteSize_paddedNumber (by decide) h.year.2, byteSize_paddedNumber (by decide) h.month,
    byteSize_paddedNumber (by decide) h.day]

end Date

namespace IsoDate

variable {d : Date}

theorem monthDate?_iso (h : d.FitsFields) :
    monthDate? d.year.toNat true
        (Date.paddedNumber 2 d.month ++ '-' :: Date.paddedNumber 2 d.day) =
      if d.IsValid then some d else none := by
  have hyear : (d.year.toNat : Int) = d.year := Int.toNat_of_nonneg h.year.1
  have hread := number?_paddedNumber (by decide) h.day 0 []
  rw [List.append_nil] at hread
  simp [monthDate?, number?_paddedNumber (by decide) h.month, separator?, hread, Date.ofParts?, hyear]

/-- The text of a day names this day if it exists, and no day otherwise. -/
theorem read?_iso (h : d.FitsFields) : read? d.iso = if d.IsValid then some d else none := by
  have hread := number?_paddedNumber (by decide) h.year.2 0
    ('-' :: (Date.paddedNumber 2 d.month ++ '-' :: Date.paddedNumber 2 d.day))
  obtain ⟨c, rest, hmonth⟩ : ∃ c rest, Date.paddedNumber 2 d.month = c :: rest :=
    List.exists_cons_of_length_pos (by rw [Date.length_paddedNumber (by decide) h.month]; decide)
  have hweek : c ≠ 'W' := by
    rintro rfl
    exact absurd (Date.isDigit_of_mem_paddedNumber (hmonth ▸ List.mem_cons_self)) (by decide)
  have hdate := monthDate?_iso h
  rw [hmonth, List.cons_append] at hread hdate
  unfold read?
  rw [Date.byteSize_iso h]
  simp only [Date.iso, hmonth, List.cons_append, hread]
  simp [hweek, hdate]

theorem searchDate_of_read {value : Text} (h : read? (padDate value) = some d) (now offset : Int) :
    searchDate now value offset = pure d := by
  unfold searchDate
  rw [h]

theorem read?_padDate_iso (h : d.IsValid) : read? (padDate d.iso) = some d := by
  rw [Date.padDate_iso, read?_iso h.fitsFields, if_pos h]

theorem searchDate_iso (h : d.IsValid) (now offset : Int) :
    (searchDate now d.iso offset).result = .ok d := by
  rw [searchDate_of_read (read?_padDate_iso h)]
  rfl

end IsoDate

end ChannelSearch
