import ChannelSearch.Json.Basic
import ChannelSearch.Number.Shortest
import ChannelSearch.Text.Quoted

/-!
Writing documents in ASCII: every other code point becomes one or two four-digit escapes.
-/

namespace ChannelSearch.Json

/-- The escapes of a code point: one UTF-16 unit each. -/
def escapeUnits (n : Nat) : Text :=
  if n < 0x10000 then '\\' :: 'u' :: Text.hex 4 n
  else
    let high := 0xd800 + (n - 0x10000) / 0x400
    let low := 0xdc00 + (n - 0x10000) % 0x400
    ('\\' :: 'u' :: Text.hex 4 high) ++ ('\\' :: 'u' :: Text.hex 4 low)

def escapeChar (c : Char) : Text :=
  if c = '"' || c = '\\' then ['\\', c]
  else if c = '\n' then ['\\', 'n']
  else if c = '\r' then ['\\', 'r']
  else if c = '\t' then ['\\', 't']
  else if c = '\x0c' then ['\\', 'f']
  else if c = '\x08' then ['\\', 'b']
  else if 0x20 ≤ c.toNat && c.toNat < 0x7f then [c]
  else escapeUnits c.toNat

def writeText (t : Text) : Text := '"' :: (t.flatMap escapeChar ++ ['"'])

def writeNumber : Binary64 → Text
  | .nan => "NaN".toList
  | .infinite negative => if negative then "-Infinity".toList else "Infinity".toList
  | x => x.text

mutual

def write : Json → Text
  | .null => "null".toList
  | .bool b => if b then "true".toList else "false".toList
  | .int n => Text.ofInt n
  | .number x => writeNumber x
  | .text t => writeText t
  | .array items => '[' :: (writeItems items ++ [']'])
  | .object fields => '{' :: (writeFields fields ++ ['}'])

def writeItems : List Json → Text
  | [] => []
  | [v] => write v
  | v :: w :: rest => write v ++ ", ".toList ++ writeItems (w :: rest)

def writeFields : List (Text × Json) → Text
  | [] => []
  | [(k, v)] => writeText k ++ ": ".toList ++ write v
  | (k, v) :: f :: rest =>
    writeText k ++ ": ".toList ++ write v ++ ", ".toList ++ writeFields (f :: rest)

end

end ChannelSearch.Json
