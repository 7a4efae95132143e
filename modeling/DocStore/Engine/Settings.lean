import DocStore.Engine.Interface
import DocStore.Options.Client

/-!
# Settings of an engine

An engine is known by a label and has codes of its own for errors.  The failures
that come from its own layer are wrapped into errors of the library, so that
callers handle one kind of error whatever the engine.
-/

namespace DocStore

/-- Where the generated row ids of an insertion are found. -/
inductive RowIdSource where
  /-- The statement returns a row with each id. -/
  | returned
  /-- The engine tells the first id, and the others follow it. -/
  | counted
deriving DecidableEq, Repr

structure EngineSettings where
  dialect : Dialect
  label : String
  connectCode : String
  queryCode : String
  rowIds : RowIdSource
  host : String
  /-- Number of attempts to connect. -/
  attempts : Nat
  /-- Seconds between two attempts. -/
  retryDelay : Float
  /-- Whether statements are timed and reported. -/
  profiling : Bool
  /-- Statements that take longer are reported, in milliseconds. -/
  slowThreshold : Float
  /-- Whether every statement is reported. -/
  logsQueries : Bool
  /-- How the names of indexes are read. -/
  scalars : ScalarReader := .lenient

namespace EngineSettings

def ofOptions (dialect : Dialect) (label connectCode queryCode : String)
    (rowIds : RowIdSource) (options : ClientOptions) : EngineSettings :=
  { dialect, label, connectCode, queryCode, rowIds
    host := options.config.host
    attempts := options.config.retriesFor dialect.name
    retryDelay := options.config.retryDelay
    profiling := options.profileQueries
    slowThreshold := options.slowQueryThreshold
    logsQueries := options.logQueries }

/-- The two engines with their names. -/
def native (dialect : Dialect) (options : ClientOptions) : EngineSettings :=
  match dialect with
  | .postgres => ofOptions .postgres "PostgreSQL" "PG_CONNECT" "PG_QUERY" .returned options
  | .mysql => ofOptions .mysql "MySQL" "MYSQL_CONNECT" "MYSQL_QUERY" .counted options

variable (settings : EngineSettings)

def queryError (activity : String) (sql : Option String) (failure : EngineFailure) :
    StoreError :=
  .query (settings.label ++ " " ++ activity ++ " failed") settings.queryCode
    (some (.engine failure)) sql

/-- A failure during an activity: one that comes from the engine's own layer becomes an
error of the library, any other stays what it is. -/
def wrap (activity : String) (sql : Option String) : Failure → Failure
  | .engine failure =>
      if failure.kind.isNative then .store (settings.queryError activity sql failure)
      else .engine failure
  | failure => failure

/-- Wraps the failures of an activity. -/
def guarded {α : Type} (activity : String) (sql : Option String) (action : EngineAction α) :
    EngineAction α :=
  action.recover fun failure => throw (settings.wrap activity sql failure)

end EngineSettings

end DocStore
