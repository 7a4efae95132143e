import DocStore.Client.Interface
import DocStore.Engine.Statement
import DocStore.Engine.Session

/-!
# The client on an engine

The calls of the client are answered by statements on an engine.
-/

namespace DocStore

namespace Engine

/-- The answer of the surroundings. -/
def ambient (call : AmbientCall) :
    StateT (List Session) (Program engineInterface) call.Reply :=
  fun sessions => .ask (.ambient call) fun reply => .done (reply, sessions)

/-- Answers the calls of the client. -/
def serve (settings : EngineSettings) :
    (call : StoreCall) → StateT (List Session) (Program engineInterface) call.Reply
  | .tableExists collection => tableExists settings collection
  | .createTable collection => createTable settings collection
  | .dropTable collection => dropTable settings collection
  | .listTables => listTables settings
  | .direct sql => perform settings sql
  | .run request session => run settings request.statement session
  | .insert request count session =>
      insert settings request.statement.sql request.statement.params (.natural count)
        session
  | .createIndex collection keys options => createIndex settings collection keys options
  | .dropIndex collection name => dropIndex settings collection name
  | .listIndexes collection => listIndexes settings collection
  | .seconds => ambient .seconds
  | .randomBytes count => ambient (.randomBytes count)

end Engine

end DocStore
