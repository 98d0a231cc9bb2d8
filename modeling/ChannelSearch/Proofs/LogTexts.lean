import ChannelSearch.Json.Display
import ChannelSearch.Proofs.IsoDates
import ChannelSearch.Text.LogLine

/-!
Texts without control characters. Main statements: a text that is quoted, or flattened for the log, has
none, whatever it is made of, and the form in which a value is shown has one only where the value is a text
with one.
-/

namespace ChannelSearch

/-- The text has no control character. -/
def IsLine (t : Text) : Prop := ∀ c ∈ t, isControl c = false

section IsLine

variable {c : Char} {t u : Text}

instance : Decidable (IsLine t) := inferInstanceAs (Decidable (∀ c ∈ t, isControl c = false))

@[simp] theorem isLine_nil : IsLine [] := nofun

@[simp] theorem isLine_cons : IsLine (c :: t) ↔ isControl c = false ∧ IsLine t := List.forall_mem_cons

@[simp] theorem isLine_append : IsLine (t ++ u) ↔ IsLine t ∧ IsLine u := List.forall_mem_append

theorem IsLine.subset (h : IsLine t) (hsub : u ⊆ t) : IsLine u := fun c hc => h c (hsub hc)

theorem isLine_replicate {n : Nat} (h : isControl c = false) : IsLine (List.replicate n c) := by
  intro d hd
  rw [List.eq_of_mem_replicate hd, h]

theorem isControl_of_isDigit (h : c.isDigit = true) : isControl c = false := by
  obtain ⟨hlow, hhigh⟩ := toNat_of_isDigit h
  simp only [isControl, Bool.or_eq_false_iff, decide_eq_false_iff_not]
  omega

/-- The first of the unprintable ranges begins at the last control character. -/
theorem isControl_of_isPrintable (h : isPrintable c = true) : isControl c = false := by
  have hdelete : unprintableRanges.any (·.contains 0x7f) = true := by decide
  simp only [isControl, Bool.or_eq_false_iff, decide_eq_false_iff_not, not_lt]
  unfold isPrintable at h
  dsimp only at h
  split_ifs at h with hascii
  · exact ⟨of_decide_eq_true h, by omega⟩
  · refine ⟨by omega, fun heq => ?_⟩
    rw [heq, hdelete] at h
    cases h

end IsLine

namespace Text

theorem isLine_ofNat (n : Nat) : IsLine (ofNat n) :=
  fun _ hc => isControl_of_isDigit (isDigit_of_mem_ofNat hc)

theorem isLine_ofInt (n : Int) : IsLine (ofInt n) := by
  have hnat (n : Nat) : IsLine n.repr.toList := isLine_ofNat n
  rw [ofInt, Int.toString_eq_repr, Int.repr_eq_if]
  split_ifs
  · exact hnat _
  · rw [String.toList_append, isLine_append]
    exact ⟨by decide, hnat _⟩

theorem isLine_hex (width n : Nat) : IsLine (hex width n) := by
  have hdigit (k : Nat) (hk : k < 16) : isControl k.digitChar = false := by
    interval_cases k <;> rfl
  induction width generalizing n with
  | zero => exact isLine_nil
  | succ width ih =>
    rw [hex, isLine_append]
    exact ⟨ih (n / 16), by simpa using hdigit (n % 16) (Nat.mod_lt n (by decide))⟩

theorem isLine_quotedChar {mark c : Char} (hmark : isControl mark = false) : IsLine (quotedChar mark c) := by
  unfold quotedChar
  dsimp only
  split_ifs with hescaped htab hnewline hreturn hprintable
  · rw [Bool.or_eq_true, decide_eq_true_eq, decide_eq_true_eq] at hescaped
    obtain rfl | rfl := hescaped
    · simpa using ⟨by decide, hmark⟩
    · decide
  · decide
  · decide
  · decide
  · simpa using isControl_of_isPrintable hprintable
  all_goals
    simp only [isLine_cons]
    exact ⟨by decide, by decide, isLine_hex _ _⟩

/-- Whatever a text holds, quoted it is one line. -/
theorem isLine_quoted (t : Text) : IsLine t.quoted := by
  have hmark : isControl t.quoteMark = false := by
    unfold quoteMark
    split_ifs <;> decide
  unfold quoted
  simp only [isLine_cons, isLine_append]
  refine ⟨hmark, fun c hc => ?_, hmark, isLine_nil⟩
  obtain ⟨d, -, hd⟩ := List.mem_flatMap.mp hc
  exact isLine_quotedChar hmark c hd

theorem isLine_flattenControls (afterControl : Bool) (t : Text) :
    IsLine (flattenControls afterControl t) := by
  induction t generalizing afterControl with
  | nil => exact isLine_nil
  | cons c rest ih =>
    rw [flattenControls]
    split_ifs with hcontrol
    · exact ih true
    · exact isLine_cons.mpr ⟨by decide, ih true⟩
    · exact isLine_cons.mpr ⟨Bool.not_eq_true _ ▸ hcontrol, ih false⟩

theorem takeFrom_subset (n : Int) (t : Text) : t.takeFrom n ⊆ t := by
  unfold takeFrom
  split_ifs
  · exact List.take_subset _ t
  · exact List.take_subset _ t

/-- Whatever a text holds, the log takes it as one line, at every length. -/
theorem isLine_logLine (t : Text) (maxLength : Int) : IsLine (t.logLine maxLength) := by
  have hflat : IsLine (flattenControls false t).strip :=
    (isLine_flattenControls false t).subset (trim_subset isBlank _)
  unfold logLine
  dsimp only
  split_ifs
  · exact isLine_append.mpr ⟨hflat.subset (takeFrom_subset maxLength _), by decide⟩
  · exact hflat

end Text

namespace Binary64

theorem isLine_significantDigits (mantissa : Nat) (exponent : Int) :
    IsLine (significantDigits mantissa exponent).1 := by
  unfold significantDigits
  dsimp only
  refine (Text.isLine_ofNat (shortest mantissa exponent).1).subset fun c hc => ?_
  exact List.mem_reverse.mp ((List.dropWhile_suffix _).subset (List.mem_reverse.mp hc))

variable {digits : Text}

theorem isLine_positional (h : IsLine digits) (point : Int) : IsLine (positional digits point) := by
  have hzeros (n : Nat) : IsLine (List.replicate n '0') := isLine_replicate (by decide)
  unfold positional
  dsimp only
  split_ifs
  · simpa using ⟨by decide, by decide, hzeros _, h⟩
  · simpa using ⟨h.subset (List.take_subset _ _), hzeros _, by decide, by decide⟩
  · simpa using ⟨h.subset (List.take_subset _ _), hzeros _, by decide, h.subset (List.drop_subset _ _)⟩

theorem isLine_scientific (h : IsLine digits) (exponent : Int) : IsLine (scientific digits exponent) := by
  have hsize : IsLine (List.replicate (2 - (Text.ofNat exponent.natAbs).length) '0' ++
      Text.ofNat exponent.natAbs) :=
    isLine_append.mpr ⟨isLine_replicate (by decide), Text.isLine_ofNat _⟩
  have hsign : isControl (if exponent < 0 then '-' else '+') = false := by split_ifs <;> decide
  have hfraction : IsLine (if (digits.drop 1).isEmpty then [] else '.' :: digits.drop 1) := by
    split_ifs
    · exact isLine_nil
    · exact isLine_cons.mpr ⟨by decide, h.subset (List.drop_subset 1 digits)⟩
  unfold scientific
  dsimp only
  rw [isLine_append, isLine_append, isLine_cons, isLine_cons]
  exact ⟨⟨h.subset (List.take_subset 1 digits), hfraction⟩, by decide, hsign, hsize⟩

theorem isLine_text (x : Binary64) : IsLine x.text := by
  cases x with
  | nan => decide
  | infinite negative => cases negative <;> decide
  | finite negative mantissa exponent =>
    have hdigits := isLine_significantDigits mantissa exponent
    have hminus : isControl '-' = false := by decide
    unfold text
    dsimp only
    split_ifs
    · decide
    · exact isLine_cons.mpr ⟨hminus, isLine_positional hdigits _⟩
    · exact isLine_cons.mpr ⟨hminus, isLine_scientific hdigits _⟩
    · decide
    · exact isLine_positional hdigits _
    · exact isLine_scientific hdigits _

end Binary64

namespace Json

mutual

/-- Whatever the texts in a value hold, quoted it is one line. -/
theorem isLine_quoted : (v : Json) → IsLine v.quoted
  | .null => by decide
  | .bool b => by cases b <;> decide
  | .int n => Text.isLine_ofInt n
  | .number x => x.isLine_text
  | .text t => t.isLine_quoted
  | .array items => by
    rw [quoted, isLine_cons, isLine_append]
    exact ⟨by decide, isLine_quotedItems items, by decide⟩
  | .object fields => by
    rw [quoted, isLine_cons, isLine_append]
    exact ⟨by decide, isLine_quotedFields fields, by decide⟩

theorem isLine_quotedItems : (items : List Json) → IsLine (quotedItems items)
  | [] => isLine_nil
  | [v] => by
    rw [quotedItems]
    exact isLine_quoted v
  | v :: w :: rest => by
    rw [quotedItems, isLine_append, isLine_append]
    exact ⟨⟨isLine_quoted v, by decide⟩, isLine_quotedItems (w :: rest)⟩

theorem isLine_quotedFields : (fields : List (Text × Json)) → IsLine (quotedFields fields)
  | [] => isLine_nil
  | [(k, v)] => by
    rw [quotedFields, isLine_append, isLine_append]
    exact ⟨⟨k.isLine_quoted, by decide⟩, isLine_quoted v⟩
  | (k, v) :: f :: rest => by
    rw [quotedFields, isLine_append, isLine_append, isLine_append, isLine_append]
    exact ⟨⟨⟨⟨k.isLine_quoted, by decide⟩, isLine_quoted v⟩, by decide⟩, isLine_quotedFields (f :: rest)⟩

end

/-- Only a text can be shown with a control character, its own. -/
theorem isLine_shown {v : Json} : IsLine v.shown ↔ ∀ t, v = .text t → IsLine t := by
  cases v with
  | text t => exact ⟨fun h u hu => Json.text.inj hu ▸ h, fun h => h t rfl⟩
  | _ => exact iff_of_true (isLine_quoted _) nofun

end Json

end ChannelSearch
