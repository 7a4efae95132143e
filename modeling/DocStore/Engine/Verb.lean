import DocStore.Engine.Statement
import DocStore.Engine.Session

/-!
# Verbs on an engine as data

A history of an engine is a list of verbs.  As with the client, a verb can be given
by its name and its named arguments, and its result is a value.
-/

namespace DocStore

def Session.toValue (dialect : Dialect) (session : Session) : Value :=
  .object
    [ ("dialect", .text dialect.name),
      ("isolation", .optional (fun level => .text level.name) session.lease.isolation),
      ("released", .bool session.released) ]

def Execution.toValue (execution : Execution) : Value :=
  .object
    [ ("rows", .list execution.rows), ("rowcount", execution.rowCount),
      ("last_row_id", execution.lastRowId) ]

inductive EngineVerb where
  | connect
  | disconnect
  | healthCheck
  | startSession (isolation : Option String)
  | commit (session : SessionId)
  | rollback (session : SessionId)
  | release (session : SessionId)
  | savepoint (action : SavepointAction) (session : SessionId) (name : String)
  | query (sql : String) (parameters : List Value) (session : Option SessionId)
  | execute (sql : String) (parameters : List Value) (session : Option SessionId)
  | insert (sql : String) (parameters : List Value) (count : Value)
      (session : Option SessionId)
  | tableExists (table : String)
  | createTable (table : String)
  | dropTable (table : String)
  | listTables

namespace EngineVerb

open DocStore.Action (answering silently)

def showing (dialect : Dialect) (session : SessionId) (action : EngineAction Unit) :
    EngineAction Value := do
  action
  let found ← Engine.sessionAt session
  pure (found.toValue dialect)

/-- Carries a verb out. -/
def perform (settings : EngineSettings) : EngineVerb → EngineAction Value
  | connect => silently (Engine.connect settings)
  | disconnect => silently (Engine.disconnect settings)
  | healthCheck => answering Value.bool (Engine.isHealthy settings)
  | startSession isolation => do
      let session ← Engine.startSession settings isolation
      showing settings.dialect session (pure ())
  | commit session => showing settings.dialect session (Engine.commit settings session)
  | rollback session => showing settings.dialect session (Engine.rollback settings session)
  | release session => showing settings.dialect session (Engine.release settings session)
  | savepoint action session name => silently (Engine.savepoint settings action session name)
  | query sql parameters session =>
      answering Value.list (Engine.query settings sql parameters session)
  | execute sql parameters session =>
      answering Execution.toValue (Engine.execute settings sql parameters session)
  | insert sql parameters count session =>
      answering Value.list (Engine.insert settings sql parameters count session)
  | tableExists table => answering Value.bool (Engine.tableExists settings table)
  | createTable table => silently (Engine.createTable settings table)
  | dropTable table => silently (Engine.dropTable settings table)
  | listTables =>
      answering (fun names => .list (names.map .text)) (Engine.listTables settings)

/-! ## Verbs by name -/

/-- The name of an isolation level among named arguments; null stands for none. -/
def isolationName (arguments : Members) : Except Failure (Option String) :=
  match arguments.getD "isolation" with
  | .null => .ok none
  | .text content => .ok (some content)
  | _ => .error (.fault .notAnObject)

def boundParameters (arguments : Members) : Except Fault (List Value) :=
  let parameters := arguments.getD "params"
  if parameters.isTruthy then parameters.walk else .ok []

def requiredSession : Option SessionId → Except Failure SessionId
  | some session => .ok session
  | none => .error (.fault .missingEntry)

def savepointVerb (action : SavepointAction) (session : Option SessionId)
    (arguments : Members) : Except Failure EngineVerb := do
  let session ← requiredSession session
  let name ← arguments.requiredText "name"
  pure (savepoint action session name)

def statementVerb (make : String → List Value → EngineVerb) (arguments : Members) :
    Except Failure EngineVerb := do
  let sql ← arguments.requiredText "sql"
  let parameters ← boundParameters arguments
  pure (make sql parameters)

/-- The verb of a name with its named arguments, on a table and in a session.  Names
of other verbs have none. -/
def ofName? (table : String) (session : Option SessionId) (arguments : Members)
    (name : String) : Option (Except Failure EngineVerb) :=
  match name with
  | "connect" => some (.ok connect)
  | "disconnect" => some (.ok disconnect)
  | "health_check" => some (.ok healthCheck)
  | "start_session" => some ((isolationName arguments).map startSession)
  | "commit" => some ((requiredSession session).map commit)
  | "rollback" => some ((requiredSession session).map rollback)
  | "release" => some ((requiredSession session).map release)
  | "create_savepoint" => some (savepointVerb .create session arguments)
  | "release_savepoint" => some (savepointVerb .release session arguments)
  | "rollback_to_savepoint" => some (savepointVerb .rollback session arguments)
  | "query" =>
      some (statementVerb (fun sql parameters => query sql parameters session) arguments)
  | "execute" =>
      some (statementVerb (fun sql parameters => execute sql parameters session) arguments)
  | "insert_statement" =>
      some (statementVerb
        (fun sql parameters => insert sql parameters (arguments.getD "count") session) arguments)
  | "table_exists" => some (.ok (tableExists table))
  | "create_table" => some (.ok (createTable table))
  | "drop_table" => some (.ok (dropTable table))
  | "list_tables" => some (.ok listTables)
  | _ => none

end EngineVerb

end DocStore
