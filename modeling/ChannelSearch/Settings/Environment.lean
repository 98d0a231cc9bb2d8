import ChannelSearch.Text.Blank

/-!
Named settings, and the lines of a settings file that add to them. What is set already stays, so the
environment comes before the file and an earlier line before a later one.
-/

namespace ChannelSearch

/-- Settings by name; of two settings of one name the first one counts. -/
abbrev Environment := List (Text × Text)

namespace Environment

def get? (e : Environment) (name : Text) : Option Text := (e.find? (·.1 = name)).map (·.2)

/-- A line whose assignment cannot be made: names are not empty, and neither names nor values hold the
null character. -/
inductive LineError where
  | emptyName
  | nullCharacter
deriving DecidableEq, Repr

def LineError.message : LineError → Text
  | .emptyName => "[Errno 22] Invalid argument".toList
  | .nullCharacter => "embedded null byte".toList

/-- Sets a name that is not set. -/
def setDefault (e : Environment) (name value : Text) : Except LineError Environment :=
  if (e.get? name).isSome then .ok e
  else if (name ++ value).contains (Char.ofNat 0) then .error .nullCharacter
  else if name.isEmpty then .error .emptyName
  else .ok (e ++ [(name, value)])

/-- A value without the double quotes around it, and then without the single ones. -/
def unquoted (value : Text) : Text := (value.strip.trim (· = '"')).trim (· = '\'')

/-- What a line assigns; blank lines, comments and lines without an equals sign assign nothing. -/
def assignment? (line : Text) : Option (Text × Text) :=
  match line.strip with
  | '#' :: _ => none
  | t => (t.cutAt? '=').map fun (name, value) => (Text.strip name, unquoted value)

def addLine (e : Environment) (line : Text) : Except LineError Environment :=
  match assignment? line with
  | none => .ok e
  | some (name, value) => e.setDefault name value

def addFile (e : Environment) (file : Text) : Except LineError Environment :=
  (file.unifyNewlines.splitWhere Text.isLineBreak).foldlM addLine e

end Environment

end ChannelSearch
