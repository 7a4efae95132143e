import DocStore.Log

/-!
# Programs over a layer below

The library talks to an engine through layers: the verbs on documents ask for
statements, the statements ask for an open connection, and a connection comes
from a pool.  A layer is described by its calls and its replies.  A program is
the tree of the calls it makes, with one branch for every reply, so it says what
happens for every behaviour of the layer below, failures included.
-/

namespace DocStore

/-- The calls that a layer answers, and what it replies to each. -/
structure Interface where
  Call : Type
  Reply : Call → Type

/-- A computation that makes calls to the layer below and writes log entries. -/
inductive Program (below : Interface) (α : Type) where
  | done (result : α)
  | note (entry : LogEntry) (next : Program below α)
  | ask (call : below.Call) (next : below.Reply call → Program below α)

namespace Program

variable {below : Interface} {α β : Type}

/-- Goes on with the result of a program. -/
def bind : Program below α → (α → Program below β) → Program below β
  | done result, next => next result
  | note entry rest, next => note entry (rest.bind next)
  | ask call rest, next => ask call fun reply => (rest reply).bind next

/-- Going on with the result alone changes nothing. -/
theorem bind_done (program : Program below α) : program.bind done = program := by
  induction program with
  | done result => rfl
  | note entry rest ih => simp [bind, ih]
  | ask call rest ih => simp [bind, ih]

/-- Going on twice is going on with what comes after. -/
theorem bind_assoc {γ : Type} (program : Program below α) (next : α → Program below β)
    (last : β → Program below γ) :
    (program.bind next).bind last = program.bind fun result => (next result).bind last := by
  induction program with
  | done result => rfl
  | note entry rest ih => simp [bind, ih]
  | ask call rest ih => simp [bind, ih]

instance : Monad (Program below) where
  pure := done
  bind := bind

instance : LawfulMonad (Program below) :=
  .mk' (Program below) bind_done (fun _ _ => rfl) bind_assoc

/-- Runs a program: every call is answered and every log entry is written. -/
def answer {m : Type → Type} [Monad m] (write : LogEntry → m Unit)
    (reply : (call : below.Call) → m (below.Reply call)) : Program below α → m α
  | done result => pure result
  | note entry next => do
      write entry
      next.answer write reply
  | ask call next => do
      let answered ← reply call
      (next answered).answer write reply

theorem answer_bind {m : Type → Type} [Monad m] [LawfulMonad m] (write : LogEntry → m Unit)
    (reply : (call : below.Call) → m (below.Reply call)) (program : Program below α)
    (next : α → Program below β) :
    (program.bind next).answer write reply =
      program.answer write reply >>= fun result => (next result).answer write reply := by
  induction program with
  | done result => simp [bind, answer]
  | note entry rest ih => simp [bind, answer, ih]
  | ask call rest ih => simp [bind, answer, ih]

end Program

/-- A program of one layer: it keeps a state, which survives failures, and may
fail. -/
abbrev Action (below : Interface) (σ : Type) := ExceptT Failure (StateT σ (Program below))

namespace Action

variable {below : Interface} {σ α : Type}

def note (entry : LogEntry) : Action below σ Unit :=
  fun state => .note entry (.done (.ok (), state))

def perform (call : below.Call) (read : below.Reply call → Except Failure α) :
    Action below σ α :=
  fun state => .ask call fun reply => .done (read reply, state)

/-- The outcome of an action, which itself does not fail. -/
def attempt (action : Action below σ α) : Action below σ (Except Failure α) :=
  fun state => (action state).bind fun (outcome, state) => .done (.ok outcome, state)

/-- Goes on with an outcome: its result, or its failure. -/
def ofOutcome (outcome : Except Failure α) : Action below σ α :=
  fun state => .done (outcome, state)

/-- The result of a computation on values. -/
def ofFault : Except Fault α → Action below σ α
  | .ok result => pure result
  | .error fault => throw (.fault fault)

/-- The result of a computation that fails with an error of the library. -/
def ofStoreError : Except StoreError α → Action below σ α
  | .ok result => pure result
  | .error error => throw (.store error)

/-- The result of a check of data. -/
def ofReport : Except IssueReport α → Action below σ α
  | .ok result => pure result
  | .error report => throw (.options report)

/-- Writes log entries and goes on with an outcome. -/
def notes : List LogEntry → Except Failure α → Action below σ α
  | [], outcome => ofOutcome outcome
  | entry :: entries, outcome => fun state => .note entry (notes entries outcome state)

def ofLogged (computation : Logged α) : Action below σ α :=
  notes computation.outcome.2 computation.outcome.1

def answering (toValue : α → Value) (action : Action below σ α) : Action below σ Value := do
  let result ← action
  pure (toValue result)

/-- Null as the result of an action that has none. -/
def silently (action : Action below σ Unit) : Action below σ Value :=
  answering (fun _ => .null) action

/-- Continues after a failure, whose kind is known to the handler. -/
def recover (action : Action below σ α) (handler : Failure → Action below σ α) :
    Action below σ α := do
  match ← attempt action with
  | .ok result => pure result
  | .error failure => handler failure

end Action

/-! ## Surroundings -/

/-- What the library asks of its surroundings. -/
inductive AmbientCall where
  /-- The time in seconds. -/
  | seconds
  /-- Random bytes of a given number. -/
  | randomBytes (count : Nat)
  /-- Waits. -/
  | pause (seconds : Float)
  /-- The milliseconds that the last statement took. -/
  | elapsed

namespace AmbientCall

/-- The clock may show no time in seconds, and waiting can fail or be cancelled. -/
abbrev Reply : AmbientCall → Type
  | seconds => Except Failure Int
  | randomBytes _ => List UInt8
  | pause _ => Except Failure Unit
  | elapsed => Float

end AmbientCall

end DocStore
