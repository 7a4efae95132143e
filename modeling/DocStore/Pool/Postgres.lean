import DocStore.Options.Client
import DocStore.Pool.Interface
import DocStore.Text.Character

/-!
# Postgres pools

A connection that is borrowed for one statement commits when it is given back
after success.  The transaction of a session begins with its first statement, and
its isolation level is a setting of the connection, which is taken back before
the connection is.
-/

namespace DocStore

namespace Postgres

def label : String := "PostgreSQL"

/-! ## The text that names a database -/

def escapeCharacter (character : Char) : List Char :=
  if character = '\\' ∨ character = '\'' then ['\\', character] else [character]

/-- The value of a setting: quotes and backslashes are escaped, and a value that
is empty or holds blanks stands in quotes. -/
def settingText (value : String) : String :=
  if value.isEmpty then "''"
  else
    let escaped := value.toList.flatMap escapeCharacter
    if escaped.any isBlank then String.ofList ('\'' :: (escaped ++ ['\'']))
    else String.ofList escaped

/-- Settings with their values, in order. -/
def settingsText (settings : List (String × String)) : String :=
  String.intercalate " " (settings.map fun setting =>
    setting.1 ++ "=" ++ settingText setting.2)

def connectionText (config : ConnectionConfig) : String :=
  settingsText
    [ ("host", config.host),
      ("port", toString (config.portFor Dialect.postgres.name)),
      ("user", config.user),
      ("password", config.password),
      ("dbname", config.database) ]

/-- Whether a text ends where its first null character stands, for the engine's own
reader. -/
def isCut (value : String) : Bool := value.contains '\x00'

/-- Whether the engine can read the text that names the database.  It reads up to the first
null character, and cannot read quotes that are left open there. -/
def isReadable (config : ConnectionConfig) : Bool :=
  match [config.host, config.user, config.password, config.database].find? isCut with
  | some value => !value.any isBlank
  | none => true

/-- The failure for a text that cannot be read. -/
def openQuotes : EngineFailure :=
  { kind := .misuse, text := "unterminated quoted string in connection info string\n" }

/-! ## The adapter -/

/-- The parameters of a pool, which is not opened when it is created. -/
def poolParameters (config : ConnectionConfig) : Members :=
  [ ("conninfo", .text (connectionText config)),
    ("min_size", .int config.minPoolSize),
    ("max_size", .int config.poolSize),
    ("kwargs", .list [.text "row_factory"]),
    ("open", .bool false) ]

/-- Creates and opens a pool and uses it from then on.  A pool that cannot be opened is
closed, and none is created for a database that cannot be named. -/
def openPool (config : ConnectionConfig) : PoolAction Unit := do
  if !isReadable config then throw (.engine openQuotes)
  let pool ← PoolAction.create (poolParameters config)
  PoolAction.onFailure (PoolAction.openWithin pool config.connectTimeout)
    (PoolAction.close pool)
  set (some pool)

def closePool : PoolAction Unit := do
  match ← get with
  | none => pure ()
  | some pool => do
      PoolAction.close pool
      set (none : Option PoolId)

/-- Runs a statement on a connection. -/
def executeOn (connection : ConnectionId) (sql : String) (parameters : List Value) :
    PoolAction Execution := do
  let (cursor, rows) ← PoolAction.runOn connection sql parameters
  pure { rows, rowCount := cursor.rowCount }

/-- Uses a borrowed connection and gives it back. -/
def withBorrowed {α : Type} (pool : PoolId) (body : ConnectionId → PoolAction α) :
    PoolAction α := do
  let connection ← PoolAction.borrow pool
  match ← Action.attempt (body connection) with
  | .ok result => do
      PoolAction.giveBack pool connection true
      pure result
  | .error failure => do
      PoolAction.giveBack pool connection false
      throw failure

/-- Runs a statement on the connection of a session, or on a borrowed one. -/
def execute (sql : String) (parameters : List Value) (lease : Option Lease) :
    PoolAction Execution :=
  match lease with
  | some lease => executeOn lease.connection sql parameters
  | none => do
      let pool ← PoolAction.required label
      withBorrowed pool fun connection => executeOn connection sql parameters

/-- Sets an isolation level that was asked for. -/
def applyIsolation (connection : ConnectionId) (isolation : Option IsolationLevel) :
    PoolAction Unit :=
  match isolation with
  | some level => PoolAction.setIsolation connection (some level)
  | none => pure ()

/-- Checks a connection out for a session. -/
def begin (isolation : Option IsolationLevel) : PoolAction Lease := do
  let pool ← PoolAction.required label
  let connection ← PoolAction.checkOut pool
  PoolAction.onFailure (applyIsolation connection isolation)
    (PoolAction.checkIn pool connection)
  pure { connection, isolation }

/-- Takes the isolation level of a session back, unless the connection is closed.
-/
def resetIsolation (lease : Lease) : PoolAction Unit := do
  match lease.isolation with
  | none => pure ()
  | some _ => do
      if ← PoolAction.isClosed lease.connection then pure ()
      else PoolAction.setIsolation lease.connection none

/-- Checks the connection of a session in. -/
def release (lease : Lease) : PoolAction Unit := do
  let pool ← PoolAction.required label
  PoolAction.always (resetIsolation lease) (PoolAction.checkIn pool lease.connection)

def adapt (config : ConnectionConfig) : (call : AdapterCall) → PoolAction call.Result
  | .openPool => openPool config
  | .closePool => closePool
  | .execute sql parameters lease => execute sql parameters lease
  | .begin isolation => begin isolation
  | .commit lease => PoolAction.commit lease.connection
  | .rollback lease => PoolAction.rollback lease.connection
  | .release lease => release lease

end Postgres

end DocStore
