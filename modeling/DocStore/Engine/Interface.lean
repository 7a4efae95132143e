import DocStore.Program
import DocStore.Transaction.Isolation

/-!
# The interface to an engine

An adapter makes one native engine usable: it opens and closes the pool of
connections, runs statements, and hands out connections with an open
transaction.
-/

namespace DocStore

/-- The number of a native connection. -/
abbrev ConnectionId := Nat

/-- A connection that is checked out for one session, with the isolation level
that was asked for. -/
structure Lease where
  connection : ConnectionId
  isolation : Option IsolationLevel
deriving DecidableEq, Repr

/-- What an engine says about an executed statement. -/
structure Execution where
  rows : List Value := []
  /-- Number of rows the statement met, minus one if it is unknown. -/
  rowCount : Value := .int (-1)
  /-- The row id that the statement generated first, or null where the engine does not
  tell it. -/
  lastRowId : Value := .null

inductive AdapterCall where
  | openPool
  | closePool
  | execute (sql : String) (parameters : List Value) (lease : Option Lease)
  | begin (isolation : Option IsolationLevel)
  | commit (lease : Lease)
  | rollback (lease : Lease)
  | release (lease : Lease)

namespace AdapterCall

/-- What a call yields if it succeeds. -/
abbrev Result : AdapterCall → Type
  | execute .. => Execution
  | begin _ => Lease
  | _ => Unit

end AdapterCall

/-- The calls of the statements on an engine: to its adapter, each of which may fail,
and to the surroundings. -/
inductive EngineCall where
  | adapter (call : AdapterCall)
  | ambient (call : AmbientCall)

/-- The layer below statements and sessions. -/
abbrev engineInterface : Interface where
  Call := EngineCall
  Reply
    | .adapter call => Except Failure call.Result
    | .ambient call => call.Reply

/-- A session: its connection and whether the connection was given back. -/
structure Session where
  lease : Lease
  released : Bool := false
deriving DecidableEq, Repr

/-- The number of a session, in the order in which sessions were started. -/
abbrev SessionId := Nat

/-- A program on an engine.  It keeps all sessions that were ever started. -/
abbrev EngineAction := Action engineInterface (List Session)

namespace EngineAction

def adapter (call : AdapterCall) : EngineAction call.Result :=
  Action.perform (.adapter call) fun reply => reply

/-- Waits for some seconds. -/
def pause (seconds : Float) : EngineAction Unit :=
  Action.perform (.ambient (.pause seconds)) fun reply => reply

/-- The milliseconds that the last statement took. -/
def elapsed : EngineAction Float := Action.perform (.ambient .elapsed) .ok

def randomBytes (count : Nat) : EngineAction (List UInt8) :=
  Action.perform (.ambient (.randomBytes count)) .ok

end EngineAction

end DocStore
