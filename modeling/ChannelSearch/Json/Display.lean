import ChannelSearch.Json.Basic
import ChannelSearch.Number.Shortest
import ChannelSearch.Text.Quoted

/-!
The text of a value where text is asked for. A text stands for itself; inside a list or an object
every text is quoted.
-/

namespace ChannelSearch.Json

mutual

/-- The value with every text quoted. -/
def quoted : Json → Text
  | .null => "None".toList
  | .bool b => if b then "True".toList else "False".toList
  | .int n => Text.ofInt n
  | .number x => x.text
  | .text t => t.quoted
  | .array items => '[' :: (quotedItems items ++ [']'])
  | .object fields => '{' :: (quotedFields fields ++ ['}'])

def quotedItems : List Json → Text
  | [] => []
  | [v] => quoted v
  | v :: w :: rest => quoted v ++ ", ".toList ++ quotedItems (w :: rest)

def quotedFields : List (Text × Json) → Text
  | [] => []
  | [(k, v)] => k.quoted ++ ": ".toList ++ quoted v
  | (k, v) :: f :: rest =>
    k.quoted ++ ": ".toList ++ quoted v ++ ", ".toList ++ quotedFields (f :: rest)

end

def shown : Json → Text
  | .text t => t
  | v => v.quoted

end ChannelSearch.Json
