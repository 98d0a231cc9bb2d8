import ChannelSearch.Sql.Select

/-!
Results together with what happened on the way to them: the records that were logged and the
statements that were sent, in order. A failure keeps what happened before it.
-/

namespace ChannelSearch

inductive LogLevel where
  | info
  | warning
deriving DecidableEq, Repr

/-- The part of the program that a record comes from. -/
inductive LogSource where
  | dates
  | scope
  | posts
  | files
  | imports
  | program
deriving DecidableEq, Repr

structure LogRecord where
  level : LogLevel
  source : LogSource
  message : Text
deriving DecidableEq, Repr

/-- The reads that a search makes. -/
inductive Read where
  | channels
  | posts
  | files
deriving DecidableEq, Repr

inductive Event where
  | logged (r : LogRecord)
  | sent (read : Read) (s : Sql.Statement)
deriving Repr

structure Traced (ε α : Type) where
  events : List Event
  result : Except ε α

namespace Traced

variable {ε δ α β : Type}

def pure (a : α) : Traced ε α := ⟨[], .ok a⟩

def bind (x : Traced ε α) (f : α → Traced ε β) : Traced ε β :=
  match x.result with
  | .error e => ⟨x.events, .error e⟩
  | .ok a => ⟨x.events ++ (f a).events, (f a).result⟩

instance : Monad (Traced ε) where
  pure := pure
  bind := bind

def ofExcept (x : Except ε α) : Traced ε α := ⟨[], x⟩

def fail (e : ε) : Traced ε α := ⟨[], .error e⟩

def tell (e : Event) : Traced ε Unit := ⟨[e], .ok ()⟩

def log (level : LogLevel) (source : LogSource) (message : Text) : Traced ε Unit :=
  tell (.logged ⟨level, source, message⟩)

def mapError (f : ε → δ) (x : Traced ε α) : Traced δ α := ⟨x.events, x.result.mapError f⟩

def logs (x : Traced ε α) : List LogRecord :=
  x.events.filterMap fun
    | .logged r => some r
    | .sent _ _ => none

def reads (x : Traced ε α) : List (Read × Sql.Statement) :=
  x.events.filterMap fun
    | .logged _ => none
    | .sent read s => some (read, s)

end Traced

end ChannelSearch
