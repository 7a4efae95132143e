import DocStore.Client.Find
import DocStore.ObjectId
import DocStore.Update

/-!
# Writing documents

The documents that are updated or deleted are selected first and then written one by one,
each by a statement on its id.  Documents without an id are passed over.  An update that
matches nothing may insert a document instead, which starts from the plain equalities of the
filter.
-/

namespace DocStore

/-! ## Inserting

A document without an id gets a generated one, and is then checked against the
schema of its collection.  Nothing is asked of the engine before all documents of
a call are accepted; then one statement inserts all of them.
-/

namespace Client

open ClientAction

variable (settings : ClientSettings)

def generateId : ClientAction String := do
  let now ← seconds
  let random ← randomBytes ObjectId.randomLength
  pure (ObjectId.generate now random)

def withId (document : Members) : ClientAction Members :=
  if (document.getD idField).isNull then do
    let id ← generateId
    pure (document.set idField (.text id))
  else pure document

/-- A document as it is inserted: with an id, and accepted by the schema. -/
def prepare (collection : String) (document : Value) : ClientAction Members := do
  let members ← Action.ofFault document.toMembers
  let prepared ← withId members
  validate collection prepared
  pure prepared

/-- Prepares documents in order. -/
def prepareAll (collection : String) : List Value → ClientAction (List Members)
  | [] => pure []
  | document :: documents => do
      let prepared ← prepare collection document
      let others ← prepareAll collection documents
      pure (prepared :: others)

/-- Creates the table of a collection that does not exist. -/
def ensureCollection (collection : String) : ClientAction Unit := do
  if ← tableExists collection then pure ()
  else do
    report .debug ("Creating missing collection '" ++ collection ++ "'")
    createTable collection

/-- Inserts prepared documents and returns their row ids. -/
def insertPrepared (collection : String) (documents : List Members)
    (session : Option SessionId) : ClientAction (List Value) := do
  ensureCollection collection
  let insertion ← request settings (.insert collection documents)
  ClientAction.insert insertion documents.length session

def idOf (document : Members) : Value := document.getD idField

def insertOne (collection : String) (document : Value) (session : Option SessionId) :
    ClientAction InsertOneResult := do
  let inserted ← prepare collection document
  let rowIds ← insertPrepared settings collection [inserted] session
  Action.ofReport
    (InsertOneResult.make settings.scalars (idOf inserted) (rowIds.headD .null) inserted)

def insertMany (collection : String) (documents : Value) (session : Option SessionId) :
    ClientAction InsertManyResult := do
  if !documents.isTruthy then pure {}
  else do
    let documents ← Action.ofFault documents.walk
    let inserted ← prepareAll collection documents
    let rowIds ← insertPrepared settings collection inserted session
    Action.ofReport (InsertManyResult.make settings.scalars (inserted.map idOf) rowIds inserted)

end Client

/-! ## Updating and deleting -/

namespace Client

open ClientAction

variable (settings : ClientSettings)

/-- The entry about a document that cannot be named in a statement. -/
def reportSkipped (collection : String) : ClientAction Unit :=
  report .warning
    ("Skipping document without '" ++ idField ++ "' in '" ++ collection ++ "'")

def updated (document update : Value) : ClientAction Members :=
  Action.ofLogged (Update.apply settings.strict document update)

/-- Writes the documents of a list one by one and counts those that are written.
A document without an id is passed over. -/
def writeEach (collection : String) (write : Value → Members → ClientAction Unit) :
    List Members → ClientAction Nat
  | [] => pure 0
  | document :: documents =>
      if (idOf document).isNull then do
        reportSkipped collection
        writeEach collection write documents
      else do
        write (idOf document) document
        let others ← writeEach collection write documents
        pure (others + 1)

/-- Changes the document with an id as an update says. -/
def revise (collection : String) (update : Value) (session : Option SessionId)
    (id : Value) (document : Members) : ClientAction Unit := do
  let changed ← updated settings (.object document) update
  validate collection changed
  let revision ← request settings (.update collection id changed)
  let _ ← rowsOf revision session
  pure ()

def remove (collection : String) (session : Option SessionId) (id : Value)
    (_ : Members) : ClientAction Unit := do
  let removal ← request settings (.delete collection id)
  let _ ← rowsOf removal session
  pure ()

/-- Inserts the document that an update yields from the equalities of a filter. -/
def upsert (collection : String) (filter update : Value) (session : Option SessionId) :
    ClientAction UpdateResult := do
  let equalities ← Action.ofFault (Document.equalityFields filter)
  let seed ← updated settings (.object equalities) update
  let inserted ← insertOne settings collection (.object seed) session
  pure { upsertedId := inserted.insertedId }

/-- The documents of an existing collection that match a filter, up to a limit. -/
def matching (collection : String) (filter : Value) (limit : Option Nat)
    (session : Option SessionId) : ClientAction (List Members) := do
  if ← tableExists collection then find settings collection filter { limit } session
  else pure []

/-- Updates the documents that match a filter, up to a limit. -/
def update (collection : String) (filter change : Value) (options : UpdateOptions)
    (limit : Option Nat) (session : Option SessionId) : ClientAction UpdateResult := do
  match ← matching settings collection filter limit session with
  | [] => if options.upsert then upsert settings collection filter change session else pure {}
  | documents => do
      let modified ← writeEach collection (revise settings collection change session) documents
      pure { matchedCount := documents.length, modifiedCount := modified }

def updateOne (collection : String) (filter change : Value) (options : UpdateOptions)
    (session : Option SessionId) : ClientAction UpdateResult :=
  update settings collection filter change options (some 1) session

/-- Updates all documents that match a filter. -/
def updateMany (collection : String) (filter change : Value) (options : UpdateOptions)
    (session : Option SessionId) : ClientAction UpdateResult :=
  update settings collection filter change options none session

/-- Deletes the documents that match a filter, up to a limit. -/
def delete (collection : String) (filter : Value) (limit : Option Nat)
    (session : Option SessionId) : ClientAction DeleteResult := do
  let documents ← matching settings collection filter limit session
  let deleted ← writeEach collection (remove settings collection session) documents
  pure { deletedCount := deleted }

def deleteOne (collection : String) (filter : Value) (session : Option SessionId) :
    ClientAction DeleteResult :=
  delete settings collection filter (some 1) session

/-- Deletes all documents that match a filter. -/
def deleteMany (collection : String) (filter : Value) (session : Option SessionId) :
    ClientAction DeleteResult :=
  delete settings collection filter none session

end Client

end DocStore
