import ChannelSearch.Text.Integer

/-!
The grammar of command lines: options with and without a value, which may be abbreviated as long as
they are told apart, one positional argument, and a mark after which nothing is an option.
-/

namespace ChannelSearch.CommandLine

inductive OptionKind where
  | text
  | integer
  | switch
  | help
deriving DecidableEq, Repr

structure OptionSpec where
  /-- All spellings, the shortest first. -/
  names : List Text
  kind : OptionKind
  required : Bool := false
deriving DecidableEq, Repr

namespace OptionSpec

/-- The name that messages use. -/
def title (o : OptionSpec) : Text := Text.join ['/'] o.names

def takesValue (o : OptionSpec) : Bool := o.kind = .text || o.kind = .integer

end OptionSpec

inductive UsageError where
  | ambiguous (given : Text) (options : List Text)
  | valueMissing (option : Text)
  | valueIgnored (option value : Text)
  | notAnInteger (option value : Text)
  | unknownCommand (given : Text)
  | missing (names : List Text)
  | unrecognized (given : List Text)
  | help
deriving DecidableEq, Repr

def UsageError.message : UsageError → Text
  | .ambiguous given options =>
    "ambiguous option: ".toList ++ given ++ " could match ".toList ++ Text.join ", ".toList options
  | .valueMissing option => "argument ".toList ++ option ++ ": expected one argument".toList
  | .valueIgnored option value =>
    "argument ".toList ++ option ++ ": ignored explicit argument ".toList ++ value.quoted
  | .notAnInteger option value =>
    "argument ".toList ++ option ++ ": invalid int value: ".toList ++ value.quoted
  | .unknownCommand given =>
    "argument command: invalid choice: ".toList ++ given.quoted ++
      " (choose from 'import', 'search')".toList
  | .missing names =>
    "the following arguments are required: ".toList ++ Text.join ", ".toList names
  | .unrecognized given => "unrecognized arguments: ".toList ++ Text.join [' '] given
  | .help => []

/-- The code that the program ends with. -/
def UsageError.exitCode : UsageError → Nat
  | .help => 0
  | _ => 2

structure Grammar where
  options : List OptionSpec
  positional : Option Text := none
deriving Repr

/-- One string of a command line. -/
inductive Item where
  /-- The mark `--`. -/
  | mark
  | argument (t : Text)
  /-- An option that the grammar has, the spelling that was meant, and a value given with it. -/
  | option (o : OptionSpec) (name : Text) (value : Option Text) (given : Text)
  | unknownOption (given : Text)
deriving DecidableEq, Repr

def Item.text : Item → Text
  | .mark => "--".toList
  | .argument t => t
  | .option _ _ _ given => given
  | .unknownOption given => given

namespace Grammar

def spellings (g : Grammar) : List (Text × OptionSpec) :=
  g.options.flatMap fun o => o.names.map fun name => (name, o)

def spelled? (g : Grammar) (name : Text) : Option OptionSpec :=
  (g.spellings.find? (·.1 = name)).map (·.2)

/-- A name and a value joined by an equals sign. -/
def splitValue (t : Text) : Text × Option Text :=
  match t.cutAt? '=' with
  | some (name, value) => (name, some value)
  | none => (t, none)

/-- The options that a string may abbreviate, each with its spelling and its value. A long option is
abbreviated before its equals sign; a short one may be followed by its value at once. -/
def abbreviated (g : Grammar) (t : Text) : List (OptionSpec × Text × Option Text) :=
  match t with
  | '-' :: '-' :: _ =>
    let (start, value) := splitValue t
    (g.spellings.filter fun s => start.isPrefixOf s.1).map fun (name, o) => (o, name, value)
  | _ =>
    g.spellings.filterMap fun (name, o) =>
      if name = t.take 2 then some (o, name, some (t.drop 2))
      else if t.isPrefixOf name then some (o, name, none)
      else none

/-- A negative number is an argument and not an option. -/
def isNegativeNumber (t : Text) : Bool :=
  let isDigit := fun c => (decimalDigit? c).isSome
  let body := if t.getLast? = some '\n' then t.dropLast else t
  match body with
  | '-' :: rest =>
    let fraction := rest.dropWhile isDigit
    match fraction with
    | [] => !rest.isEmpty
    | '.' :: digits => !digits.isEmpty && digits.all isDigit
    | _ => false
  | _ => false

def classify (g : Grammar) (t : Text) : Except UsageError Item :=
  match t with
  | '-' :: _ :: _ =>
    match g.spelled? t with
    | some o => .ok (.option o t none t)
    | none =>
      let (name, value) := splitValue t
      match value, g.spelled? name with
      | some v, some o => .ok (.option o name (some v) t)
      | _, _ =>
        match g.abbreviated t with
        | [(o, name, value)] => .ok (.option o name value t)
        | [] =>
          if isNegativeNumber t || t.contains ' ' then .ok (.argument t)
          else .ok (.unknownOption t)
        | several => .error (.ambiguous t (several.map (·.2.1)))
  | _ => .ok (.argument t)

/-- Reads every string before the mark by itself; after it there are arguments only. -/
def items (g : Grammar) : List Text → Except UsageError (List Item)
  | [] => .ok []
  | t :: rest =>
    if t = "--".toList then .ok (.mark :: rest.map .argument)
    else do pure ((← g.classify t) :: (← g.items rest))

end Grammar

inductive ArgumentValue where
  | text (t : Text)
  | int (n : Int)
  | on
deriving DecidableEq, Repr

/-- What has been read of a command line: values by title, the positional argument, and the strings
that mean nothing. -/
structure Reading where
  values : List (Text × ArgumentValue) := []
  positional : Option Text := none
  extras : List Text := []
deriving DecidableEq, Repr

namespace Reading

/-- The last value given for an option. -/
def value? (r : Reading) (name : String) : Option ArgumentValue :=
  (r.values.reverse.find? (·.1 = name.toList)).map (·.2)

def set (r : Reading) (o : OptionSpec) (v : ArgumentValue) : Reading :=
  { r with values := r.values ++ [(o.title, v)] }

def setText (r : Reading) (o : OptionSpec) (t : Text) : Except UsageError Reading :=
  match o.kind with
  | .integer =>
    match t.readInteger with
    | .ok n => .ok (r.set o (.int n))
    | .error _ => .error (.notAnInteger o.title t)
  | _ => .ok (r.set o (.text t))

/-- An option without a value takes none. A short one passes over what is written right after it, and
nothing but help is short. -/
def setSwitch (r : Reading) (o : OptionSpec) (name : Text) (value : Option Text) (given : Text) :
    Except UsageError Reading :=
  let isShort := match name with
    | '-' :: '-' :: _ => false
    | _ => true
  match value with
  | none => if o.kind = .help then .error .help else .ok (r.set o .on)
  | some v =>
    let joined := given.take 3 ≠ name ++ ['='] && v.head? ≠ some '-'
    if isShort && !v.isEmpty && joined then .error .help else .error (.valueIgnored o.title v)

end Reading

namespace Grammar

/-- Reads items in order. The first argument that no option takes is the positional one; the mark goes
with it. -/
def read (g : Grammar) (r : Reading) : List Item → Except UsageError Reading
  | [] => .ok r
  | .unknownOption t :: rest => g.read { r with extras := r.extras ++ [t] } rest
  | .option o name value given :: rest =>
    if o.takesValue then
      match value, rest with
      | some v, rest => do g.read (← r.setText o v) rest
      | none, .argument t :: rest => do g.read (← r.setText o t) rest
      | none, _ => .error (.valueMissing o.title)
    else do g.read (← r.setSwitch o name value given) rest
  | .mark :: .argument t :: rest =>
    if g.positional.isSome && r.positional.isNone then g.read { r with positional := some t } rest
    else g.read { r with extras := r.extras ++ ["--".toList] } (.argument t :: rest)
  | .mark :: rest => g.read { r with extras := r.extras ++ ["--".toList] } rest
  | .argument t :: rest =>
    if g.positional.isSome && r.positional.isNone then
      match rest with
      | .mark :: rest => g.read { r with positional := some t } rest
      | rest => g.read { r with positional := some t } rest
    else g.read { r with extras := r.extras ++ [t] } rest
termination_by items => items.length
decreasing_by all_goals simp only [List.length_cons]; omega

/-- The names of what must be given and is not. -/
def missing (g : Grammar) (r : Reading) : List Text :=
  let positional := if r.positional.isNone then g.positional.toList else []
  let options := g.options.filter fun o => o.required && !r.values.any (·.1 = o.title)
  positional ++ options.map (·.title)

def parse (g : Grammar) (args : List Text) : Except UsageError Reading := do
  let r ← g.read {} (← g.items args)
  let missing := g.missing r
  if missing.isEmpty then pure r else throw (.missing missing)

end Grammar

end ChannelSearch.CommandLine
