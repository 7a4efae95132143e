import DocStore.Error

/-!
# Log entries

What the library reports while it works.  `Logged` is a computation that may
fail and that keeps its entries in either case.
-/

namespace DocStore

inductive LogLevel where
  | debug | info | warning | error
deriving DecidableEq, Repr

def LogLevel.name : LogLevel → String
  | debug => "DEBUG"
  | info => "INFO"
  | warning => "WARNING"
  | error => "ERROR"

/-- The part of the library that an entry comes from. -/
inductive Component where
  | filter | pipeline | update | client | transaction | driver | profiler
deriving DecidableEq, Repr

structure LogEntry where
  level : LogLevel
  component : Component
  text : String
deriving DecidableEq, Repr

abbrev Logged (α : Type) := ExceptT Failure (StateM (List LogEntry)) α

namespace Logged

def note (entry : LogEntry) : Logged Unit :=
  fun entries => (.ok (), entries ++ [entry])

def fail {α : Type} (error : StoreError) : Logged α := throw (.store error)

/-- The result of a computation on values. -/
def ofFault {α : Type} : Except Fault α → Logged α
  | .ok result => pure result
  | .error fault => throw (.fault fault)

instance : MonadLift (Except Fault) Logged := ⟨ofFault⟩

instance : MonadLift (Except Failure) Logged := ⟨fun outcome => ExceptT.mk (pure outcome)⟩

instance : MonadLift (Except StoreError) Logged :=
  ⟨fun outcome => ExceptT.mk (pure (outcome.mapError .store))⟩

def outcome {α : Type} (computation : Logged α) : Except Failure α × List LogEntry :=
  computation.run.run []

end Logged

end DocStore
