import DocStore.Engine.Connection
import DocStore.Engine.Statement
import DocStore.Sql.Dialect

/-!
# Sessions

A session holds one connection with an open transaction.  Its connection is
given back once, however often the session is released.
-/

namespace DocStore

namespace Engine

variable (settings : EngineSettings)

def startSession (isolation : Option String) : EngineAction SessionId := do
  let level ← Action.ofStoreError (IsolationLevel.read? isolation)
  let lease ← settings.guarded "begin" none (EngineAction.adapter (.begin level))
  Action.note
    (entry .debug ("Started " ++ settings.label ++ " session (isolation="
      ++ (level.elim "default" IsolationLevel.name) ++ ")"))
  let sessions ← get
  set (sessions ++ [{ lease : Session }])
  pure sessions.length

def commit (session : SessionId) : EngineAction Unit := do
  let found ← sessionAt session
  settings.guarded "commit" none (EngineAction.adapter (.commit found.lease))

def rollback (session : SessionId) : EngineAction Unit := do
  let found ← sessionAt session
  settings.guarded "rollback" none (EngineAction.adapter (.rollback found.lease))

/-- Gives the connection of a session back; later calls do nothing. -/
def release (session : SessionId) : EngineAction Unit := do
  let found ← sessionAt session
  if found.released then pure ()
  else do
    modify fun sessions => sessions.set session { found with released := true }
    settings.guarded "release" none (EngineAction.adapter (.release found.lease))

/-! ## Savepoints -/

def longestSavepointName : Nat := 63

/-- Whether a text is a name for savepoints: a plain name that is not too long. -/
def isSavepointName (name : String) : Bool :=
  Sql.isSimpleKey name && (Sql.nameBody name.toList).length ≤ longestSavepointName

def invalidSavepoint (name : String) : StoreError :=
  .transaction ("Invalid savepoint name: '" ++ name ++ "'.") "INVALID_SAVEPOINT"

def savepoint (action : SavepointAction) (session : SessionId) (name : String) :
    EngineAction Unit := do
  if isSavepointName name then do
    let statement := Statement.savepoint settings.dialect action name
    let _ ← query settings statement.sql [] (some session)
    pure ()
  else throw (.store (invalidSavepoint name))

end Engine

end DocStore
