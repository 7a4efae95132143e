import DocStore.Document
import DocStore.Engine.Settings
import DocStore.Options.Call
import DocStore.Sql.Catalog
import DocStore.Sql.Statement
import DocStore.Value.Arithmetic

/-!
# Running statements

A statement runs on the connection of a session, or on any connection.  It is
timed, and slow and failed statements are reported.
-/

namespace DocStore

namespace Engine

/-! ## Sessions -/

/-- A session that was started. -/
def sessionAt (session : SessionId) : EngineAction Session := do
  match (← get)[session]? with
  | some found => pure found
  | none => throw (.fault .missingEntry)

/-- The connection of a session, if there is a session. -/
def leaseOf : Option SessionId → EngineAction (Option Lease)
  | none => pure none
  | some session => do
      let found ← sessionAt session
      pure (some found.lease)

/-! ## Profiling -/

def shown (sql : String) (parameters : List Value) : String :=
  sql ++ " params=" ++ displayParameters parameters

def profileEntry (level : LogLevel) (text : String) : LogEntry :=
  { level, component := .profiler, text }

/-- What is reported about a statement that took some milliseconds. -/
def durationEntry? (settings : EngineSettings) (sql : String) (parameters : List Value)
    (duration : Float) : Option LogEntry :=
  let timed := "(" ++ fixedPlaces 1 duration ++ " ms): " ++ shown sql parameters
  if settings.slowThreshold < duration then
    some (profileEntry .warning ("Slow query " ++ timed))
  else if settings.logsQueries then some (profileEntry .debug ("Query " ++ timed))
  else none

def profiled (settings : EngineSettings) (sql : String) (parameters : List Value)
    (run : EngineAction Execution) : EngineAction Execution :=
  if !settings.profiling then run
  else do
    match ← Action.attempt run with
    | .error failure => do
        if failure.isOrdinary then
          Action.note (profileEntry .error ("Query failed: " ++ shown sql parameters))
        throw failure
    | .ok execution => do
        match durationEntry? settings sql parameters (← EngineAction.elapsed) with
        | some entry => Action.note entry
        | none => pure ()
        pure execution

/-! ## Execution -/

variable (settings : EngineSettings)

def execute (sql : String) (parameters : List Value) (session : Option SessionId) :
    EngineAction Execution := do
  let lease ← leaseOf session
  settings.guarded "query" (some sql)
    (profiled settings sql parameters
      (EngineAction.adapter (.execute sql parameters lease)))

/-- Executes a statement text and returns its rows. -/
def query (sql : String) (parameters : List Value) (session : Option SessionId) :
    EngineAction (List Value) := do
  let execution ← execute settings sql parameters session
  pure execution.rows

/-- Executes a statement and returns its rows. -/
def run (statement : Statement) (session : Option SessionId) : EngineAction (List Value) :=
  query settings statement.sql statement.params session

def returnedIds (rows : List Value) : Except Fault (List Value) :=
  rows.mapM fun row => do
    let id ← Document.column row Dialect.rowColumn
    let number ← id.toInteger
    pure (.int number)

/-- The row ids of a number of rows, counted from the first one. -/
def countedIds (first count : Value) : Except Fault (List Value) :=
  match first with
  | .null => .ok []
  | first => do
      let count ← count.asCount
      (List.range count).mapM fun offset => first.add (.natural offset)

/-- The row ids that an insertion of several rows generated. -/
def insertedIds (source : RowIdSource) (execution : Execution) (count : Value) :
    Except Fault (List Value) :=
  match source with
  | .returned => returnedIds execution.rows
  | .counted => countedIds execution.lastRowId count

/-- Executes the insertion of several rows and returns their row ids. -/
def insert (sql : String) (parameters : List Value) (count : Value)
    (session : Option SessionId) : EngineAction (List Value) := do
  let execution ← execute settings sql parameters session
  Action.ofFault (insertedIds settings.rowIds execution count)

end Engine

/-! ## Tables and indexes

The statements here run outside of sessions.
-/

namespace Engine

variable (settings : EngineSettings)

def tableExists (table : String) : EngineAction Bool := do
  match ← run settings (Statement.tableExists settings.dialect table) none with
  | [] => pure false
  | row :: _ => do
      let found ← Action.ofFault (Document.column row "present")
      pure found.isTruthy

/-- Runs a statement text without parameters and drops its rows. -/
def perform (sql : String) : EngineAction Unit := do
  let _ ← query settings sql [] none
  pure ()

/-- Creates the table of a collection if it is missing. -/
def createTable (table : String) : EngineAction Unit :=
  perform settings (Statement.createTable settings.dialect table).sql

def dropTable (table : String) : EngineAction Unit :=
  perform settings (Statement.dropTable settings.dialect table).sql

/-- The names of all tables. -/
def listTables : EngineAction (List String) := do
  let rows ← run settings (Statement.listTables settings.dialect) none
  Action.ofFault (rows.mapM fun row => do
    let name ← Document.column row "name"
    pure (name.plainText))

/-- The name of an index that was given none. -/
def defaultIndexName (fields : List String) : String :=
  "idx_" ++ String.intercalate "_" (fields.map fun field =>
    String.ofList (field.toList.map fun character =>
      if character = '.' then '_' else character))

/-- The name of an index; an empty name counts as none. -/
def indexName (options : IndexOptions) (fields : List String) : String :=
  match options.name with
  | some name => if name.isEmpty then defaultIndexName fields else name
  | none => defaultIndexName fields

/-- Creates an index on fields, each with its direction, and returns its name. -/
def createIndex (table : String) (keys : Members) (options : IndexOptions) :
    EngineAction String := do
  let fields ← Action.ofFault (keys.keys.mapM fun key => key.toValue.asText)
  let name := indexName options fields
  let directions ← Action.ofFault (keys.mapM Statement.readIndexKey)
  perform settings
    (Statement.createIndex settings.dialect table name directions options.unique).sql
  pure name

def dropIndex (table name : String) : EngineAction Unit :=
  perform settings (Statement.dropIndex settings.dialect table name).sql

def listIndexes (table : String) : EngineAction (List IndexDescription) := do
  let rows ← run settings (Statement.listIndexes settings.dialect (.text table)) none
  Action.ofOutcome (Catalog.indexes settings.scalars settings.dialect rows)

end Engine

end DocStore
