import ChannelSearch.Settings.Environment
import ChannelSearch.Store.Read
import ChannelSearch.Text.Quoted

/-!
The files that the program works on. A file holds text, or a store.
-/

namespace ChannelSearch

inductive FileContent where
  | text (t : Text)
  | database (s : Store)
deriving Repr

/-- Files by their paths, which are relative to one directory unless they start with a slash. -/
structure Workspace where
  files : List (Text × FileContent) := []
  environment : Environment := []
  /-- The present, in seconds. -/
  now : Int

inductive FileError where
  | missing (path : Text)
  | isDirectory (path : Text)
  | cannotOpen
  | notADatabase
deriving DecidableEq, Repr

def FileError.message : FileError → Text
  | .missing path => "[Errno 2] No such file or directory: ".toList ++ path.quoted
  | .isDirectory path => "[Errno 21] Is a directory: ".toList ++ path.quoted
  | .cannotOpen => "unable to open database file".toList
  | .notADatabase => "file is not a database".toList

namespace FilePath

/-- The parts between slashes; empty parts and single points say nothing. -/
def parts (path : Text) : List Text :=
  (path.splitWhere (· = '/')).filter fun p => p ≠ [] && p ≠ ['.']

def isAbsolute (path : Text) : Bool := path.head? = some '/'

def ofParts (absolute : Bool) (ps : List Text) : Text :=
  (if absolute then ['/'] else []) ++ Text.join ['/'] ps

/-- A path without parts that say nothing. -/
def clean (path : Text) : Text :=
  let t := ofParts (isAbsolute path) (parts path)
  if t.isEmpty then ['.'] else t

/-- The path of a file whichever way it is written: a part goes with the two points after it. -/
def resolve (path : Text) : Text :=
  let up := "..".toList
  let ps := (parts path).foldl (fun done p =>
    match done with
    | last :: before => if p = up ∧ last ≠ up then before else p :: done
    | [] => [p]) []
  ofParts (isAbsolute path) ps.reverse

end FilePath

namespace Workspace

def file? (w : Workspace) (path : Text) : Option FileContent :=
  let key := FilePath.resolve path
  (w.files.find? fun f => FilePath.resolve f.1 = key).map (·.2)

def setFile (w : Workspace) (path : Text) (content : FileContent) : Workspace :=
  let key := FilePath.resolve path
  { w with files := w.files.filter (fun f => FilePath.resolve f.1 ≠ key) ++ [(path, content)] }

/-- Some file lies below the path. -/
def isDirectory (w : Workspace) (path : Text) : Bool :=
  let key := FilePath.resolve path
  key.isEmpty || w.files.any fun f => (key ++ ['/']).isPrefixOf (FilePath.resolve f.1)

def readText (w : Workspace) (path : Text) : Except FileError Text :=
  match w.file? path with
  | some (.text t) => .ok t
  | some (.database _) => .ok []
  | none =>
    if w.isDirectory path then .error (.isDirectory (FilePath.clean path))
    else .error (.missing (FilePath.clean path))

/-- A store that is not kept. -/
def isTransient (path : Text) : Bool := path.isEmpty || path = ":memory:".toList

/-- The store at a path; a file that is not there, or has nothing in it, becomes an empty store. -/
def openStore (w : Workspace) (path : Text) : Except FileError Store :=
  if isTransient path then .ok {}
  else
    match w.file? path with
    | some (.database s) => .ok s
    | some (.text t) => if t.isEmpty then .ok {} else .error .notADatabase
    | none => if w.isDirectory path then .error .cannotOpen else .ok {}

def saveStore (w : Workspace) (path : Text) (s : Store) : Workspace :=
  if isTransient path then w else w.setFile path (.database s)

/-- A reader that always fails. -/
def brokenReader (message : String) : Reader :=
  { channels := fun _ => .error (.store message.toList)
    posts := fun _ => .error (.store message.toList)
    files := fun _ => .error (.store message.toList) }

/-- The reader of a store that is only read. It must be there; an empty file has no tables. -/
def openReader (w : Workspace) (path : Text) : Except FileError Reader :=
  match w.file? path with
  | some (.database s) => .ok s.reader
  | some (.text t) =>
    .ok (brokenReader
      (if t.isEmpty then "no such table: channels" else "file is not a database"))
  | none => .error .cannotOpen

end Workspace

end ChannelSearch
