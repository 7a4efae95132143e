import DocStore.Engine.Session
import DocStore.ObjectId

/-!
# Transaction and savepoint scopes

A scope surrounds an action.  A transaction is committed if the action succeeds
and rolled back if it fails, and its connection is given back afterwards.  A
savepoint is released if the action succeeds and rolled back to if it fails.
The end of a scope is a function of the outcome of the action, so a scope can
surround any program.
-/

namespace DocStore

namespace Transaction

variable (settings : EngineSettings)

/-- An entry about a failure that is not passed on. -/
def suppressed (title : String) (failure : Failure) : LogEntry :=
  { level := .error, component := .transaction, text := title ++ failure.text }

/-- An action whose ordinary failures are only reported. -/
def quietly (title : String) (action : EngineAction Unit) : EngineAction Unit :=
  action.recover fun failure =>
    if failure.isOrdinary then Action.note (suppressed title failure) else throw failure

/-- Ends a transaction after a failure, which is passed on. -/
def abandon {α : Type} (session : SessionId) (failure : Failure) : EngineAction α := do
  quietly "Transaction rollback failed: " (Engine.rollback settings session)
  quietly "Session release failed: " (Engine.release settings session)
  throw failure

/-- Ends a transaction after the outcome of its action. -/
def leave {α : Type} (session : SessionId) : Except Failure α → EngineAction α
  | .error failure => abandon settings session failure
  | .ok result => do
      match ← Action.attempt (Engine.commit settings session) with
      | .error failure => abandon settings session failure
      | .ok _ => do
          Engine.release settings session
          pure result

/-- Runs an action in a transaction. -/
def scope {α : Type} (isolation : Option String) (body : SessionId → EngineAction α) :
    EngineAction α := do
  let session ← Engine.startSession settings isolation
  leave settings session (← Action.attempt (body session))

end Transaction

namespace Savepoint

variable (settings : EngineSettings)

/-- Number of random bytes in a generated name. -/
def randomLength : Nat := 6

/-- The name of a savepoint: the given one, or a generated one if it is missing or
empty. -/
def chooseName (name : Option String) : EngineAction String := do
  match name with
  | some given => if given.isEmpty then generated else pure given
  | none => generated
where
  /-- A name from random bytes. -/
  generated : EngineAction String := do
    let bytes ← EngineAction.randomBytes randomLength
    pure ("sp_" ++ String.ofList (ObjectId.bytesText bytes))

/-- Begins a savepoint and returns its name. -/
def enter (session : SessionId) (name : Option String) : EngineAction String := do
  let name ← chooseName name
  Engine.savepoint settings .create session name
  pure name

/-- Ends a savepoint after the outcome of its action. -/
def leave {α : Type} (session : SessionId) (name : String) :
    Except Failure α → EngineAction α
  | .ok result => do
      Engine.savepoint settings .release session name
      pure result
  | .error failure => do
      Engine.savepoint settings .rollback session name
      throw failure

/-- Runs an action in a savepoint of a session. -/
def scope {α : Type} (session : SessionId) (name : Option String)
    (body : String → EngineAction α) : EngineAction α := do
  let name ← enter settings session name
  leave settings session name (← Action.attempt (body name))

end Savepoint

end DocStore
