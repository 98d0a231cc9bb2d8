import ChannelSearch.CommandLine.Grammar

/-!
The two commands of the program: importing an export, and searching posts or files.
-/

namespace ChannelSearch.CommandLine

structure SearchCommand where
  query : Text
  user : Text
  team : Text := []
  page : Int := 0
  /-- Zero for the page size of the settings. -/
  perPage : Int := 0
  timeZoneOffset : Int := 0
  files : Bool := false
deriving DecidableEq, Repr

inductive Command where
  | importExport (path : Text) (dryRun : Bool)
  | search (c : SearchCommand)
deriving DecidableEq, Repr

def helpOption : OptionSpec := { names := ["-h".toList, "--help".toList], kind := .help }

def longOption (name : String) (kind : OptionKind) (required : Bool := false) : OptionSpec :=
  { names := [name.toList], kind, required }

def importGrammar : Grammar :=
  { options := [helpOption, longOption "--json" .text true, longOption "--dry-run" .switch] }

def searchGrammar : Grammar :=
  { options :=
      [helpOption, longOption "--user" .text true, longOption "--team" .text,
        longOption "--page" .integer, longOption "--per-page" .integer,
        longOption "--tz-offset" .integer, longOption "--files" .switch]
    positional := some "query".toList }

namespace Reading

def text (r : Reading) (name : String) : Text :=
  match r.value? name with
  | some (.text t) => t
  | _ => []

def int (r : Reading) (name : String) : Int :=
  match r.value? name with
  | some (.int n) => n
  | _ => 0

def isOn (r : Reading) (name : String) : Bool := (r.value? name).isSome

end Reading

namespace Command

def ofImport (r : Reading) : Command := .importExport (r.text "--json") (r.isOn "--dry-run")

def ofSearch (r : Reading) : Command :=
  .search
    { query := r.positional.getD [], user := r.text "--user", team := r.text "--team"
      page := r.int "--page", perPage := r.int "--per-page"
      timeZoneOffset := r.int "--tz-offset", files := r.isOn "--files" }

/-- A command and the strings that mean nothing to it. -/
def ofName (name : Text) (args : List Text) : Except UsageError (Command × List Text) :=
  if name = "import".toList then (importGrammar.parse args).map fun r => (ofImport r, r.extras)
  else if name = "search".toList then (searchGrammar.parse args).map fun r => (ofSearch r, r.extras)
  else .error (.unknownCommand name)

/-- The options before the name of the command, of which there is only help. -/
def read (extras : List Text) : List Item → Except UsageError (Command × List Text)
  | [] => .error (.missing ["command".toList])
  | .unknownOption t :: rest => read (extras ++ [t]) rest
  | .option o name value given :: rest => do
    let _ ← Reading.setSwitch {} o name value given
    read extras rest
  | .mark :: .argument _ :: _ => .error (.unknownCommand "--".toList)
  | .mark :: rest => read (extras ++ ["--".toList]) rest
  | .argument name :: rest =>
    (ofName name (rest.map Item.text)).map fun (c, more) => (c, extras ++ more)

/-- The command of a command line. Every string must mean something. -/
def parse (args : List Text) : Except UsageError Command := do
  let main : Grammar := { options := [helpOption] }
  let (command, extras) ← read [] (← main.items args)
  if extras.isEmpty then pure command else throw (.unrecognized extras)

end Command

end ChannelSearch.CommandLine
