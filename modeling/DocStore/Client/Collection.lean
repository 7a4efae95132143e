import DocStore.Client.Interface
import DocStore.Result

/-!
# Collections and indexes

A collection is a table, and perhaps a schema that its documents must meet.
-/

namespace DocStore

namespace Client

open ClientAction

variable (settings : ClientSettings)

def registerSchema (collection : String) (schema : Value) : ClientAction Unit := do
  let catalog ← get
  let catalog ← Action.ofOutcome (catalog.register settings.schemas collection schema)
  set catalog

/-- Keeps the schema of a sample document for a collection, and returns it. -/
def registerInferredSchema (collection : String) (document : Value) :
    ClientAction Members := do
  let catalog ← get
  let (schema, catalog) ←
    Action.ofOutcome (catalog.registerInferred settings.schemas collection document)
  set catalog
  pure schema

def hasSchema (collection : String) : ClientAction Bool := do
  let catalog ← get
  pure (catalog.contains collection)

/-- Creates a collection; its schema is kept first, unless it is null. -/
def createCollection (collection : String) (schema : Value) : ClientAction Collection := do
  if !schema.isNull then registerSchema settings collection schema
  createTable collection
  report .info ("Created collection '" ++ collection ++ "'")
  pure { name := collection }

def dropCollection (collection : String) : ClientAction Unit := do
  dropTable collection
  modify fun catalog => catalog.unregister collection
  report .info ("Dropped collection '" ++ collection ++ "'")

/-- The names of all collections. -/
def listCollections : ClientAction (List String) := listTables

/-- Runs a statement text that changes the table of a collection. -/
def alterCollection (collection sql : String) : ClientAction Unit := do
  report .info ("Altering collection '" ++ collection ++ "'")
  direct sql

/-- Creates an index on fields of the documents and returns its name. -/
def createIndex (collection : String) (keys : Value) (options : IndexOptions) :
    ClientAction String := do
  let keys ← Action.ofFault keys.toMembers
  ClientAction.createIndex collection keys options

def dropIndex (collection name : String) : ClientAction Unit :=
  ClientAction.dropIndex collection name

def listIndexes (collection : String) : ClientAction (List IndexDescription) :=
  ClientAction.listIndexes collection

end Client

end DocStore
