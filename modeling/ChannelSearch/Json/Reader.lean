import ChannelSearch.Json.Basic
import ChannelSearch.Text.Integer

/-!
Reading a document. A fault is reported with the line, the column and the offset of the character it
was found at. Whole numbers of any size are kept exactly.
-/

namespace ChannelSearch

namespace Json

inductive SyntaxFault where
  | value
  | propertyName
  | colon
  | comma
  | unterminatedString
  | controlCharacter
  | escape
  | unicodeEscape
  | extraData
  | byteOrderMark
deriving DecidableEq, Repr

def SyntaxFault.message : SyntaxFault → Text
  | .value => "Expecting value".toList
  | .propertyName => "Expecting property name enclosed in double quotes".toList
  | .colon => "Expecting ':' delimiter".toList
  | .comma => "Expecting ',' delimiter".toList
  | .unterminatedString => "Unterminated string starting at".toList
  | .controlCharacter => "Invalid control character at".toList
  | .escape => "Invalid \\escape".toList
  | .unicodeEscape => "Invalid \\uXXXX escape".toList
  | .extraData => "Extra data".toList
  | .byteOrderMark => "Unexpected UTF-8 BOM (decode using utf-8-sig)".toList

/-- A fault and the text that was left where it was found. -/
inductive Fault where
  | malformed (fault : SyntaxFault) (left : Nat)
  | integer (e : IntegerError)
deriving DecidableEq, Repr

/-- What is left after reading at least one character of `t`. -/
abbrev Rest (t : Text) := { r : Text // r.length < t.length }

def isSpace (c : Char) : Bool := c = ' ' || c = '\t' || c = '\n' || c = '\r'

def skipSpace (t : Text) : Text := t.dropWhile isSpace

theorem length_skipSpace_le (t : Text) : (skipSpace t).length ≤ t.length :=
  (List.dropWhile_suffix isSpace).length_le

def hexValue? (c : Char) : Option Nat :=
  if '0' ≤ c && c ≤ '9' then some (c.toNat - '0'.toNat)
  else if 'a' ≤ c && c ≤ 'f' then some (c.toNat - 'a'.toNat + 10)
  else if 'A' ≤ c && c ≤ 'F' then some (c.toNat - 'A'.toNat + 10)
  else none

/-- The unit spelled by four hexadecimal digits; something must follow them. -/
def readUnit : Text → Option (Nat × Text)
  | a :: b :: c :: d :: next :: rest => do
    let a ← hexValue? a
    let b ← hexValue? b
    let c ← hexValue? c
    let d ← hexValue? d
    pure (((a * 16 + b) * 16 + c) * 16 + d, next :: rest)
  | _ => none

theorem length_of_readUnit {t r : Text} {n : Nat} (h : readUnit t = some (n, r)) :
    r.length < t.length := by
  unfold readUnit at h
  split at h
  · simp only [Option.bind_eq_bind, Option.bind_eq_some_iff, Option.pure_def, Option.some.injEq,
      Prod.mk.injEq] at h
    obtain ⟨_, _, _, _, _, _, _, _, _, rfl⟩ := h
    simp only [List.length_cons]; omega
  · cases h

/-- A unit that is half of a pair stands for no code point. -/
def charOfUnit (n : Nat) : Char := if 0xd800 ≤ n && n < 0xe000 then '\ufffd' else Char.ofNat n

def isHighHalf (n : Nat) : Bool := 0xd800 ≤ n && n < 0xdc00

def isLowHalf (n : Nat) : Bool := 0xdc00 ≤ n && n < 0xe000

def simpleEscape? : Char → Option Char
  | '"' => some '"'
  | '\\' => some '\\'
  | '/' => some '/'
  | 'b' => some '\x08'
  | 'f' => some '\x0c'
  | 'n' => some '\n'
  | 'r' => some '\r'
  | 't' => some '\t'
  | _ => none

/-- The low half of a pair, spelled by an escape of its own. A unit that is no low half is left. -/
def readLowHalf (t : Text) : Except Fault (Option (Nat × Text)) :=
  match t with
  | '\\' :: 'u' :: tail =>
    if 4 < tail.length then
      match readUnit tail with
      | none => .error (.malformed .unicodeEscape (tail.length + 1))
      | some (low, rest) => .ok (if isLowHalf low then some (low, rest) else none)
    else .ok none
  | _ => .ok none

theorem length_of_readLowHalf {t r : Text} {n : Nat} (h : readLowHalf t = .ok (some (n, r))) :
    r.length < t.length := by
  unfold readLowHalf at h
  split at h
  · rename_i tail
    split at h
    · split at h
      · cases h
      · rename_i low rest read
        have lt := length_of_readUnit read
        by_cases is_low : isLowHalf low
        · rw [if_pos is_low] at h
          cases h
          exact Nat.lt_succ_of_lt (Nat.lt_succ_of_lt lt)
        · rw [if_neg is_low] at h
          cases h
    · cases h
  · cases h

/-- The character that the text after a backslash and `u` stands for: a unit, or both halves of a
pair. -/
def readEscape (t : Text) : Except Fault (Char × Rest t) :=
  match h : readUnit t with
  | none => .error (.malformed .unicodeEscape (t.length + 1))
  | some (high, after) =>
    have after_lt := length_of_readUnit h
    if isHighHalf high then
      match h' : readLowHalf after with
      | .error e => .error e
      | .ok (some (low, rest)) =>
        .ok (Char.ofNat (0x10000 + (high - 0xd800) * 0x400 + (low - 0xdc00)),
          ⟨rest, Nat.lt_trans (length_of_readLowHalf h') after_lt⟩)
      | .ok none => .ok (charOfUnit high, ⟨after, after_lt⟩)
    else .ok (charOfUnit high, ⟨after, after_lt⟩)

/-- The characters up to the closing quote. `opened` is what was left at the opening one. -/
def readChars (opened : Nat) (read : Text) (t : Text) : Except Fault (Text × Rest t) :=
  match t with
  | [] => .error (.malformed .unterminatedString opened)
  | '"' :: rest => .ok (read.reverse, ⟨rest, by simp⟩)
  | '\\' :: [] => .error (.malformed .unterminatedString opened)
  | '\\' :: 'u' :: rest => do
    let (c, after) ← readEscape rest
    have after_lt := after.2
    let (s, r) ← readChars opened (c :: read) after.1
    .ok (s, ⟨r.1, Nat.lt_succ_of_lt (Nat.lt_succ_of_lt (Nat.lt_trans r.2 after_lt))⟩)
  | '\\' :: c :: rest =>
    match simpleEscape? c with
    | none => .error (.malformed .escape (rest.length + 2))
    | some d => do
      let (s, r) ← readChars opened (d :: read) rest
      .ok (s, ⟨r.1, by have := r.2; simp only [List.length_cons]; omega⟩)
  | c :: rest =>
    if c.toNat < 0x20 then .error (.malformed .controlCharacter (rest.length + 1))
    else do
      let (s, r) ← readChars opened (c :: read) rest
      .ok (s, ⟨r.1, by have := r.2; simp only [List.length_cons]; omega⟩)
termination_by t.length
decreasing_by all_goals simp only [List.length_cons] at *; omega

def isDigit (c : Char) : Bool := '0' ≤ c && c ≤ '9'

/-- The whole part of a number: one zero, or digits that start with another one. -/
def readWhole : Text → Option (Text × Text)
  | '0' :: rest => some (['0'], rest)
  | c :: rest =>
    if isDigit c then some (c :: rest.takeWhile isDigit, rest.dropWhile isDigit) else none
  | [] => none

theorem length_of_readWhole {t digits r : Text} (h : readWhole t = some (digits, r)) :
    r.length < t.length := by
  unfold readWhole at h
  split at h
  · simp only [Option.some.injEq, Prod.mk.injEq] at h
    simp [← h.2]
  · split at h
    · simp only [Option.some.injEq, Prod.mk.injEq] at h
      have := (List.dropWhile_suffix isDigit (l := ‹Text›)).length_le
      rw [← h.2]; simp only [List.length_cons]; omega
    · cases h
  · cases h

/-- A point and at least one digit. -/
def readFraction (t : Text) : Text × Text :=
  match t with
  | '.' :: c :: rest =>
    if isDigit c then (c :: rest.takeWhile isDigit, rest.dropWhile isDigit) else ([], t)
  | _ => ([], t)

/-- A leading sign, if there is one, and the rest. -/
def readSign : Text → Bool × Text
  | '-' :: rest => (true, rest)
  | '+' :: rest => (false, rest)
  | t => (false, t)

/-- A power of ten, when at least one digit follows the mark and its sign. -/
def readExponent (t : Text) : Option Int × Text :=
  match t with
  | mark :: rest =>
    let signed := readSign rest
    let digits := signed.2.takeWhile isDigit
    if (mark = 'e' || mark = 'E') && !digits.isEmpty then
      let n : Int := Text.ofDigits (digits.filterMap hexValue?)
      (some (if signed.1 then -n else n), signed.2.dropWhile isDigit)
    else (none, t)
  | [] => (none, t)

theorem length_readSign_le (t : Text) : (readSign t).2.length ≤ t.length := by
  unfold readSign
  split <;> simp

theorem length_readFraction_le (t : Text) : (readFraction t).2.length ≤ t.length := by
  unfold readFraction
  split
  · split
    · rename_i rest _
      have := (List.dropWhile_suffix isDigit (l := rest)).length_le
      simp only [List.length_cons]; omega
    · simp
  · simp

theorem length_readExponent_le (t : Text) : (readExponent t).2.length ≤ t.length := by
  unfold readExponent
  split
  · rename_i mark rest
    dsimp only
    split
    · have := (List.dropWhile_suffix isDigit (l := (readSign rest).2)).length_le
      have := length_readSign_le rest
      simp only [List.length_cons]; omega
    · simp
  · simp

/-- A number without its sign. One with a fraction or an exponent is a binary number. -/
def readMagnitude (negative : Bool) (t : Text) : Option (Except Fault (Json × Rest t)) :=
  match h : readWhole t with
  | none => none
  | some (whole, rest) =>
    have rest_lt := length_of_readWhole h
    let fraction := readFraction rest
    let exponent := readExponent fraction.2
    have end_lt : exponent.2.length < t.length :=
      Nat.lt_of_le_of_lt (Nat.le_trans (length_readExponent_le _) (length_readFraction_le _)) rest_lt
    let digits := whole.filterMap hexValue?
    if fraction.1.isEmpty && exponent.1.isNone then
      if Text.maxIntegerDigits < digits.length then
        some (.error (.integer (.tooManyDigits digits.length)))
      else
        let n : Int := Text.ofDigits digits
        some (.ok (.int (if negative then -n else n), ⟨exponent.2, end_lt⟩))
    else
      let all := Text.ofDigits (digits ++ fraction.1.filterMap hexValue?)
      let power := exponent.1.getD 0 - fraction.1.length
      some (.ok (.number (.ofDecimal negative all power), ⟨exponent.2, end_lt⟩))

/-- The part after a fixed word. -/
def readWord? (word t : Text) : Option Text :=
  if word.isPrefixOf t then some (t.drop word.length) else none

theorem length_of_readWord? {word t r : Text} (hw : word ≠ []) (h : readWord? word t = some r) :
    r.length < t.length := by
  unfold readWord? at h
  split at h
  · rename_i hp
    obtain ⟨s, rfl⟩ := List.isPrefixOf_iff_prefix.1 hp
    simp only [List.drop_left, Option.some.injEq] at h
    have := List.length_pos_iff.2 hw
    subst h
    simp only [List.length_append]; omega
  · cases h

/-- A fixed word, or a number. -/
def readAtom (t : Text) : Except Fault (Json × Rest t) :=
  match h : readWord? "null".toList t with
  | some r => .ok (.null, ⟨r, length_of_readWord? (by simp) h⟩)
  | none =>
  match h : readWord? "true".toList t with
  | some r => .ok (.bool true, ⟨r, length_of_readWord? (by simp) h⟩)
  | none =>
  match h : readWord? "false".toList t with
  | some r => .ok (.bool false, ⟨r, length_of_readWord? (by simp) h⟩)
  | none =>
  match h : readWord? "NaN".toList t with
  | some r => .ok (.number .nan, ⟨r, length_of_readWord? (by simp) h⟩)
  | none =>
  match h : readWord? "Infinity".toList t with
  | some r => .ok (.number (.infinite false), ⟨r, length_of_readWord? (by simp) h⟩)
  | none =>
  match h : readWord? "-Infinity".toList t with
  | some r => .ok (.number (.infinite true), ⟨r, length_of_readWord? (by simp) h⟩)
  | none =>
    match t with
    | '-' :: rest =>
      match readMagnitude true rest with
      | some (.ok (v, r)) => .ok (v, ⟨r.1, Nat.lt_succ_of_lt r.2⟩)
      | some (.error e) => .error e
      | none => .error (.malformed .value (rest.length + 1))
    | t => (readMagnitude false t).getD (.error (.malformed .value t.length))

mutual

def readValue (t : Text) : Except Fault (Json × Rest t) :=
  match t with
  | '"' :: rest => do
    let (s, r) ← readChars (rest.length + 1) [] rest
    .ok (.text s, ⟨r.1, Nat.lt_succ_of_lt r.2⟩)
  | '[' :: rest =>
    have le := length_skipSpace_le rest
    match h : skipSpace rest with
    | ']' :: r => .ok (.array [], ⟨r, by simp only [h, List.length_cons] at *; omega⟩)
    | first => do
      let (items, r) ← readItems first
      .ok (.array items, ⟨r.1, by have := r.2; simp only [h, List.length_cons] at *; omega⟩)
  | '{' :: rest =>
    have le := length_skipSpace_le rest
    match h : skipSpace rest with
    | '}' :: r => .ok (.object [], ⟨r, by simp only [h, List.length_cons] at *; omega⟩)
    | first => do
      let (fields, r) ← readFields first
      .ok (.object (ofFields fields),
        ⟨r.1, by have := r.2; simp only [h, List.length_cons] at *; omega⟩)
  | t => readAtom t
termination_by 2 * t.length
decreasing_by
  all_goals
    have := length_skipSpace_le rest
    simp only [h, List.length_cons] at *
    omega

/-- The items of a list from the first one on, up to its closing bracket. -/
def readItems (t : Text) : Except Fault (List Json × Rest t) := do
  let (v, r) ← readValue t
  have le := length_skipSpace_le r.1
  match h : skipSpace r.1 with
  | ']' :: after =>
    .ok ([v], ⟨after, by have := r.2; simp only [h, List.length_cons] at *; omega⟩)
  | ',' :: after =>
    have le' := length_skipSpace_le after
    let (vs, r') ← readItems (skipSpace after)
    .ok (v :: vs, ⟨r'.1, by
      have := r.2; have := r'.2; simp only [h, List.length_cons] at *; omega⟩)
  | after => .error (.malformed .comma after.length)
termination_by 2 * t.length + 1
decreasing_by
  · omega
  · have := r.2
    simp only [h, List.length_cons] at *
    omega

/-- The fields of an object from the first one on, up to its closing brace. -/
def readFields (t : Text) : Except Fault (List (Text × Json) × Rest t) :=
  match t with
  | '"' :: rest => do
    let (key, r) ← readChars (rest.length + 1) [] rest
    have le := length_skipSpace_le r.1
    match h : skipSpace r.1 with
    | ':' :: body =>
      have le' := length_skipSpace_le body
      let (v, r') ← readValue (skipSpace body)
      have le'' := length_skipSpace_le r'.1
      match h' : skipSpace r'.1 with
      | '}' :: after =>
        .ok ([(key, v)], ⟨after, by
          have := r.2; have := r'.2; simp only [h, h', List.length_cons] at *; omega⟩)
      | ',' :: after =>
        have le3 := length_skipSpace_le after
        let (fs, r'') ← readFields (skipSpace after)
        .ok ((key, v) :: fs, ⟨r''.1, by
          have := r.2; have := r'.2; have := r''.2
          simp only [h, h', List.length_cons] at *; omega⟩)
      | after => .error (.malformed .comma after.length)
    | after => .error (.malformed .colon after.length)
  | t => .error (.malformed .propertyName t.length)
termination_by 2 * t.length + 1
decreasing_by
  · have := r.2
    simp only [h, List.length_cons] at *
    omega
  · have := r.2; have := r'.2
    simp only [h, h', List.length_cons] at *
    omega

end

/-- A fault in a document, found at an offset. -/
inductive DocumentError where
  | malformed (fault : SyntaxFault) (line column offset : Nat)
  | integer (e : IntegerError)
deriving DecidableEq, Repr

def DocumentError.message : DocumentError → Text
  | .malformed fault line column offset =>
    fault.message ++ ": line ".toList ++ Text.ofNat line ++ " column ".toList ++ Text.ofNat column ++
      " (char ".toList ++ Text.ofNat offset ++ ")".toList
  | .integer e => e.message

/-- Lines end with a line feed; lines and columns count from one. -/
def DocumentError.ofFault (document : Text) : Fault → DocumentError
  | .integer e => .integer e
  | .malformed fault left =>
    let offset := document.length - left
    let before := document.take offset
    let column := (before.reverse.takeWhile (· ≠ '\n')).length + 1
    .malformed fault (before.count '\n' + 1) column offset

def read (document : Text) : Except DocumentError Json :=
  match document with
  | '\ufeff' :: _ => .error (.malformed .byteOrderMark 1 1 0)
  | _ =>
    match readValue (skipSpace document) with
    | .error e => .error (.ofFault document e)
    | .ok (v, r) =>
      match skipSpace r.1 with
      | [] => .ok v
      | left => .error (.ofFault document (.malformed .extraData left.length))

end Json

end ChannelSearch
