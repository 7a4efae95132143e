import DocStore.Engine.Settings

/-!
# Connecting

The pool is opened with a bounded number of attempts and a pause between two of
them.  Failures of the engine, of the system and timeouts are worth another
attempt; any other failure ends the connecting at once.
-/

namespace DocStore

namespace Engine

/-- An entry about the engine. -/
def entry (level : LogLevel) (text : String) : LogEntry :=
  { level, component := .driver, text }

/-- A failure after which another attempt makes sense. -/
def retryable? : Failure → Option EngineFailure
  | .engine { kind := .other, .. } => none
  | .engine failure => some failure
  | _ => none

variable (settings : EngineSettings)

/-- The error after the last attempt. -/
def connectError (failure : EngineFailure) : StoreError :=
  .connection
    ("Failed to connect to " ++ settings.label ++ " after " ++ toString settings.attempts
      ++ " attempt(s)")
    settings.connectCode (some (.engine failure))

def attemptFailed (attempt : Nat) (failure : EngineFailure) : LogEntry :=
  entry .warning
    (settings.label ++ " connection attempt " ++ toString attempt ++ "/"
      ++ toString settings.attempts ++ " failed: " ++ failure.text)

/-- One attempt to open the pool; a failure that is worth another attempt is
returned. -/
def openPool : EngineAction (Option EngineFailure) := do
  match ← Action.attempt (EngineAction.adapter .openPool) with
  | .ok _ => do
      Action.note (entry .info ("Connected to " ++ settings.label ++ " at " ++ settings.host))
      pure none
  | .error failure =>
      match retryable? failure with
      | some failure => pure (some failure)
      | none => throw failure

/-- Attempts from a given one on, with a number of further attempts left. -/
def connectFrom (attempt : Nat) : Nat → EngineAction Unit
  | 0 => do
      match ← openPool settings with
      | none => pure ()
      | some failure => throw (.store (connectError settings failure))
  | left + 1 => do
      match ← openPool settings with
      | none => pure ()
      | some failure => do
          Action.note (attemptFailed settings attempt failure)
          EngineAction.pause settings.retryDelay
          connectFrom (attempt + 1) left

/-- Opens the pool. -/
def connect : EngineAction Unit :=
  match settings.attempts with
  | 0 => pure ()
  | left + 1 => connectFrom settings 1 left

def disconnect : EngineAction Unit := do
  EngineAction.adapter .closePool
  Action.note (entry .info ("Disconnected from " ++ settings.label))

/-- Ends the use of a pool with an outcome: the pool is closed first. -/
def leave {α : Type} (outcome : Except Failure α) : EngineAction α := do
  disconnect settings
  Action.ofOutcome outcome

/-- Opens the pool for the time of an action. -/
def connected {α : Type} (body : EngineAction α) : EngineAction α := do
  connect settings
  leave settings (← Action.attempt body)

/-- Whether the engine runs a statement.  An ordinary failure is reported and
means that it does not. -/
def isHealthy : EngineAction Bool := do
  match ← Action.attempt (EngineAction.adapter (.execute "SELECT 1" [] none)) with
  | .ok _ => pure true
  | .error failure =>
      if failure.isOrdinary then do
        Action.note
          (entry .error (settings.label ++ " health check failed: " ++ failure.text))
        pure false
      else throw failure

end Engine

end DocStore
