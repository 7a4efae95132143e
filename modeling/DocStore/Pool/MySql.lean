import DocStore.Options.Client
import DocStore.Pool.Interface

/-!
# MySQL pools

Pooled connections run without a transaction; a session begins one explicitly.
The engine reports the row id that a statement generated first.
-/

namespace DocStore

namespace MySql

def label : String := "MySQL"

def poolParameters (config : ConnectionConfig) : Members :=
  [ ("host", .text config.host),
    ("port", .int (config.portFor Dialect.mysql.name)),
    ("user", .text config.user),
    ("password", .text config.password),
    ("db", .text config.database),
    ("minsize", .int config.minPoolSize),
    ("maxsize", .int config.poolSize),
    ("connect_timeout", .float config.connectTimeout),
    ("autocommit", .bool true),
    ("cursorclass", .text "DictCursor"),
    ("charset", .text "utf8mb4") ]

/-- Creates a pool and uses it from then on. -/
def openPool (config : ConnectionConfig) : PoolAction Unit := do
  let pool ← PoolAction.create (poolParameters config)
  set (some pool)

/-- Closes the pool in use and waits until it is closed. -/
def closePool : PoolAction Unit := do
  match ← get with
  | none => pure ()
  | some pool => do
      PoolAction.close pool
      PoolAction.awaitClosed pool
      set (none : Option PoolId)

/-- Runs a statement on a connection. -/
def executeOn (connection : ConnectionId) (sql : String) (parameters : List Value) :
    PoolAction Execution := do
  let (cursor, rows) ← PoolAction.runOn connection sql parameters
  pure { rows, rowCount := cursor.rowCount, lastRowId := cursor.lastRowId }

/-- Runs a statement on the connection of a session, or on a connection that is
checked out for it. -/
def execute (sql : String) (parameters : List Value) (lease : Option Lease) :
    PoolAction Execution :=
  match lease with
  | some lease => executeOn lease.connection sql parameters
  | none => do
      let pool ← PoolAction.required label
      let connection ← PoolAction.checkOut pool
      PoolAction.always (executeOn connection sql parameters)
        (PoolAction.checkIn pool connection)

def isolationStatement (level : IsolationLevel) : String :=
  "SET TRANSACTION ISOLATION LEVEL " ++ level.name

def beginOn (connection : ConnectionId) (isolation : Option IsolationLevel) :
    PoolAction Unit := do
  match isolation with
  | some level => do
      let _ ← PoolAction.execute connection (isolationStatement level) []
      PoolAction.begin connection
  | none => PoolAction.begin connection

/-- Checks a connection out and begins a transaction on it. -/
def begin (isolation : Option IsolationLevel) : PoolAction Lease := do
  let pool ← PoolAction.required label
  let connection ← PoolAction.checkOut pool
  PoolAction.onFailure (beginOn connection isolation) (PoolAction.checkIn pool connection)
  pure { connection, isolation }

/-- Checks the connection of a session in. -/
def release (lease : Lease) : PoolAction Unit := do
  let pool ← PoolAction.required label
  PoolAction.checkIn pool lease.connection

def adapt (config : ConnectionConfig) : (call : AdapterCall) → PoolAction call.Result
  | .openPool => openPool config
  | .closePool => closePool
  | .execute sql parameters lease => execute sql parameters lease
  | .begin isolation => begin isolation
  | .commit lease => PoolAction.commit lease.connection
  | .rollback lease => PoolAction.rollback lease.connection
  | .release lease => release lease

end MySql

end DocStore
