import ChannelSearch.Text.Basic

/-!
Text patterns: a percent sign stands for any run of characters, an underscore for any one character,
and an escape mark takes the next character literally. Letters match without regard to ASCII case.
-/

namespace ChannelSearch.Sql

namespace Pattern

inductive Item where
  | anyRun
  | anyChar
  | letter (c : Char)
deriving DecidableEq, Repr

/-- A pattern that ends with a lone escape mark has no reading. -/
def ofText? (escape : Char) : Text → Option (List Item)
  | [] => some []
  | [c] =>
    if c = escape then none
    else some [if c = '%' then .anyRun else if c = '_' then .anyChar else .letter c]
  | c :: d :: rest =>
    if c = escape then (ofText? escape rest).map (.letter d :: ·)
    else
      (ofText? escape (d :: rest)).map
        ((if c = '%' then .anyRun else if c = '_' then .anyChar else .letter c) :: ·)

def sameLetter (a b : Char) : Bool := a.toLower = b.toLower

def accepts : List Item → Text → Bool
  | [], [] => true
  | [], _ :: _ => false
  | .anyRun :: items, [] => accepts items []
  | .anyRun :: items, c :: t => accepts items (c :: t) || accepts (.anyRun :: items) t
  | .anyChar :: _, [] => false
  | .anyChar :: items, _ :: t => accepts items t
  | .letter _ :: _, [] => false
  | .letter a :: items, c :: t => sameLetter a c && accepts items t
termination_by items t => items.length + t.length

end Pattern

/-- A pattern without a reading matches nothing. -/
def likeText (escape : Char) (pattern t : Text) : Bool :=
  match Pattern.ofText? escape pattern with
  | some items => Pattern.accepts items t
  | none => false

/-- The store refuses to match a pattern with more bytes than this. -/
def maxPatternBytes : Nat := 50000

end ChannelSearch.Sql
