import DocStore.Engine.Interface

/-!
# The interface to pools of native connections

Connections are checked out of a pool and checked in again.  A borrowed
connection is one that the pool ends the transaction of when it comes back: it
is told whether its use succeeded.
-/

namespace DocStore

/-- The number of a pool, in the order in which pools were created. -/
abbrev PoolId := Nat

structure CursorState where
  /-- Whether there are rows to be fetched. -/
  hasRows : Bool
  rowCount : Value
  lastRowId : Value

inductive PoolCall where
  /-- Creates a pool from named parameters. -/
  | create (parameters : Members)
  /-- Waits for some seconds until a pool can serve connections. -/
  | openWithin (pool : PoolId) (seconds : Float)
  | close (pool : PoolId)
  /-- Waits until a pool is closed. -/
  | awaitClosed (pool : PoolId)
  | checkOut (pool : PoolId)
  | checkIn (pool : PoolId) (connection : ConnectionId)
  | borrow (pool : PoolId)
  | giveBack (pool : PoolId) (connection : ConnectionId) (succeeded : Bool)
  | begin (connection : ConnectionId)
  | commit (connection : ConnectionId)
  | rollback (connection : ConnectionId)
  /-- Sets the isolation level of the next transactions, or the default one. -/
  | setIsolation (connection : ConnectionId) (level : Option IsolationLevel)
  | isClosed (connection : ConnectionId)
  | execute (connection : ConnectionId) (sql : String) (parameters : List Value)
  | fetchAll (connection : ConnectionId)

namespace PoolCall

/-- The reply to a call: whether a connection is closed is always known, and all
else may fail. -/
abbrev Reply : PoolCall → Type
  | create _ => Except Failure PoolId
  | checkOut _ => Except Failure ConnectionId
  | borrow _ => Except Failure ConnectionId
  | isClosed _ => Bool
  | execute .. => Except Failure CursorState
  | fetchAll _ => Except Failure (List Value)
  | _ => Except Failure Unit

end PoolCall

abbrev poolInterface : Interface := { Call := PoolCall, Reply := PoolCall.Reply }

/-- A program on native pools.  It keeps the pool in use. -/
abbrev PoolAction := Action poolInterface (Option PoolId)

namespace PoolAction

def create (parameters : Members) : PoolAction PoolId :=
  Action.perform (.create parameters) fun reply => reply

def openWithin (pool : PoolId) (seconds : Float) : PoolAction Unit :=
  Action.perform (.openWithin pool seconds) fun reply => reply

def close (pool : PoolId) : PoolAction Unit :=
  Action.perform (.close pool) fun reply => reply

def awaitClosed (pool : PoolId) : PoolAction Unit :=
  Action.perform (.awaitClosed pool) fun reply => reply

def checkOut (pool : PoolId) : PoolAction ConnectionId :=
  Action.perform (.checkOut pool) fun reply => reply

def checkIn (pool : PoolId) (connection : ConnectionId) : PoolAction Unit :=
  Action.perform (.checkIn pool connection) fun reply => reply

def borrow (pool : PoolId) : PoolAction ConnectionId :=
  Action.perform (.borrow pool) fun reply => reply

def giveBack (pool : PoolId) (connection : ConnectionId) (succeeded : Bool) :
    PoolAction Unit :=
  Action.perform (.giveBack pool connection succeeded) fun reply => reply

def begin (connection : ConnectionId) : PoolAction Unit :=
  Action.perform (.begin connection) fun reply => reply

def commit (connection : ConnectionId) : PoolAction Unit :=
  Action.perform (.commit connection) fun reply => reply

def rollback (connection : ConnectionId) : PoolAction Unit :=
  Action.perform (.rollback connection) fun reply => reply

def setIsolation (connection : ConnectionId) (level : Option IsolationLevel) :
    PoolAction Unit :=
  Action.perform (.setIsolation connection level) fun reply => reply

def isClosed (connection : ConnectionId) : PoolAction Bool :=
  Action.perform (.isClosed connection) .ok

def execute (connection : ConnectionId) (sql : String) (parameters : List Value) :
    PoolAction CursorState :=
  Action.perform (.execute connection sql parameters) fun reply => reply

def fetchAll (connection : ConnectionId) : PoolAction (List Value) :=
  Action.perform (.fetchAll connection) fun reply => reply

/-- The pool in use, or an error if there is none. -/
def required (label : String) : PoolAction PoolId := do
  match ← get with
  | some pool => pure pool
  | none => throw (.store (.notConnected label))

/-- An action with a clean-up that follows it in any case.  A failure of the
clean-up takes the place of the outcome. -/
def always {α : Type} (action : PoolAction α) (cleanUp : PoolAction Unit) : PoolAction α := do
  let outcome ← Action.attempt action
  cleanUp
  Action.ofOutcome outcome

/-- An action with a clean-up that follows its ordinary failures. -/
def onFailure {α : Type} (action : PoolAction α) (cleanUp : PoolAction Unit) : PoolAction α :=
  action.recover fun failure => do
    if failure.isOrdinary then cleanUp
    throw failure

/-- Runs a statement on a connection and fetches its rows, if it has any. -/
def runOn (connection : ConnectionId) (sql : String) (parameters : List Value) :
    PoolAction (CursorState × List Value) := do
  let cursor ← execute connection sql parameters
  let rows ← if cursor.hasRows then fetchAll connection else pure []
  pure (cursor, rows)

end PoolAction

end DocStore
