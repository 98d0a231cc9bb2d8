/-!
Text as a sequence of code points, with the cuts and joins that the search grammar is written in.
Every length and every cut counts code points.
-/

namespace ChannelSearch

/-- User text, ids and statement text. -/
abbrev Text := List Char

namespace Text

/-- What holds of every letter of a text is checked letter by letter, never over all characters. -/
instance decidableForallMem (t : Text) (p : Char → Prop) [DecidablePred p] :
    Decidable (∀ c ∈ t, p c) :=
  List.decidableBAll p t

/-- The parts with `separator` between neighbours. -/
def join (separator : Text) (parts : List Text) : Text :=
  separator.intercalate parts

/-- Drops the characters of a class from both ends. -/
def trim (p : Char → Bool) (t : Text) : Text :=
  ((t.dropWhile p).reverse.dropWhile p).reverse

/-- The pieces between separating characters, empty pieces included: one more than there are
separators. -/
def splitWhere (p : Char → Bool) : Text → List Text
  | [] => [[]]
  | c :: rest =>
    if p c then [] :: splitWhere p rest
    else
      match splitWhere p rest with
      | [] => [[c]]
      | piece :: pieces => (c :: piece) :: pieces

/-- Deletes every occurrence of `piece`, read from the left; an empty piece occurs nowhere. -/
def erase (t piece : Text) : Text :=
  match t with
  | [] => []
  | c :: rest =>
    if piece ≠ [] ∧ piece.isPrefixOf (c :: rest) then erase (rest.drop (piece.length - 1)) piece
    else c :: erase rest piece
termination_by t.length
decreasing_by
  · simp only [List.length_drop, List.length_cons]; omega
  · simp

/-- Writes `guard` before every `mark`. -/
def guardMark (t : Text) (mark : Char) (guard : Text) : Text :=
  t.flatMap fun c => if c = mark then guard ++ [c] else [c]

/-- Drops one leading `c`. -/
def dropLeading (c : Char) : Text → Text
  | [] => []
  | d :: rest => if d = c then rest else d :: rest

/-- The part before the first `mark` and the part after it. -/
def cutAt? (mark : Char) : Text → Option (Text × Text)
  | [] => none
  | c :: rest =>
    if c = mark then some ([], rest)
    else (cutAt? mark rest).map fun (before, after) => (c :: before, after)

/-- The part after the last `mark`. -/
def afterLast? (mark : Char) : Text → Option Text
  | [] => none
  | c :: rest =>
    match afterLast? mark rest with
    | some after => some after
    | none => if c = mark then some rest else none

/-- The first `n` code points; a negative `n` drops that many from the end. -/
def takeFrom (n : Int) (t : Text) : Text :=
  if 0 ≤ n then t.take n.toNat else t.take (t.length - n.natAbs)

/-- Pads with zeros on the left up to a width, after a leading sign. -/
def zeroFill (width : Nat) (t : Text) : Text :=
  let zeros := List.replicate (width - t.length) '0'
  match t with
  | '+' :: rest => '+' :: (zeros ++ rest)
  | '-' :: rest => '-' :: (zeros ++ rest)
  | _ => zeros ++ t

/-- The size of a text in bytes of its UTF-8 form. -/
def byteSize (t : Text) : Nat := (t.map Char.utf8Size).foldr (· + ·) 0

def ofNat (n : Nat) : Text := (toString n).toList

def ofInt (n : Int) : Text := (toString n).toList

end Text

end ChannelSearch
