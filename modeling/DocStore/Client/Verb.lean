import DocStore.Client.Collection
import DocStore.Client.Find
import DocStore.Client.Write

/-!
# Verbs of the client as data

A history of a client is a list of verbs.  An interface layer hands a verb over by
its name and its named arguments, and gets the result as a value.
-/

namespace DocStore

inductive ClientVerb where
  | createCollection (collection : String) (schema : Value)
  | dropCollection (collection : String)
  | listCollections
  | alterCollection (collection sql : String)
  | registerSchema (collection : String) (schema : Value)
  | registerInferredSchema (collection : String) (document : Value)
  | hasSchema (collection : String)
  | insertOne (collection : String) (document : Value) (session : Option SessionId)
  | insertMany (collection : String) (documents : Value) (session : Option SessionId)
  | find (collection : String) (filter : Value) (options : FindOptions)
      (session : Option SessionId)
  | findOne (collection : String) (filter : Value) (options : FindOptions)
      (session : Option SessionId)
  | findPage (collection : String) (filter : Value) (options : CursorOptions)
      (session : Option SessionId)
  | countDocuments (collection : String) (filter : Value) (session : Option SessionId)
  | aggregate (collection : String) (pipeline : Value) (session : Option SessionId)
  | updateOne (collection : String) (filter change : Value) (options : UpdateOptions)
      (session : Option SessionId)
  | updateMany (collection : String) (filter change : Value) (options : UpdateOptions)
      (session : Option SessionId)
  | deleteOne (collection : String) (filter : Value) (session : Option SessionId)
  | deleteMany (collection : String) (filter : Value) (session : Option SessionId)
  | createIndex (collection : String) (keys : Value) (options : IndexOptions)
  | dropIndex (collection name : String)
  | listIndexes (collection : String)

namespace ClientVerb

def textsValue (texts : List String) : Value := .list (texts.map .text)

def documentsValue (documents : List Members) : Value := .list (documents.map .object)

open DocStore.Action (answering silently)

/-- Carries a verb out. -/
def perform (settings : ClientSettings) : ClientVerb → ClientAction Value
  | createCollection collection schema =>
      answering Collection.toValue (Client.createCollection settings collection schema)
  | dropCollection collection => silently (Client.dropCollection collection)
  | listCollections => answering textsValue Client.listCollections
  | alterCollection collection sql => silently (Client.alterCollection collection sql)
  | registerSchema collection schema => silently (Client.registerSchema settings collection schema)
  | registerInferredSchema collection document =>
      answering Value.object (Client.registerInferredSchema settings collection document)
  | hasSchema collection => answering Value.bool (Client.hasSchema collection)
  | insertOne collection document session =>
      answering InsertOneResult.toValue (Client.insertOne settings collection document session)
  | insertMany collection documents session =>
      answering InsertManyResult.toValue
        (Client.insertMany settings collection documents session)
  | find collection filter options session =>
      answering documentsValue (Client.find settings collection filter options session)
  | findOne collection filter options session =>
      answering (Value.optional .object)
        (Client.findOne settings collection filter options session)
  | findPage collection filter options session =>
      answering CursorPage.toValue (Client.findPage settings collection filter options session)
  | countDocuments collection filter session =>
      answering Value.int (Client.countDocuments settings collection filter session)
  | aggregate collection pipeline session =>
      answering Value.list (Client.aggregate settings collection pipeline session)
  | updateOne collection filter change options session =>
      answering UpdateResult.toValue
        (Client.updateOne settings collection filter change options session)
  | updateMany collection filter change options session =>
      answering UpdateResult.toValue
        (Client.updateMany settings collection filter change options session)
  | deleteOne collection filter session =>
      answering DeleteResult.toValue (Client.deleteOne settings collection filter session)
  | deleteMany collection filter session =>
      answering DeleteResult.toValue (Client.deleteMany settings collection filter session)
  | createIndex collection keys options =>
      answering Value.text (Client.createIndex collection keys options)
  | dropIndex collection name => silently (Client.dropIndex collection name)
  | listIndexes collection =>
      answering (fun found => .list (found.map IndexDescription.toValue))
        (Client.listIndexes collection)

/-! ## Verbs by name -/

/-- The options among named arguments; null stands for the default ones. -/
def readOptions {α : Type} (arguments : Members) (record : String) (check : Check α)
    (default : α) (scalars : ScalarReader := .lenient) : Except Failure α :=
  match arguments.getD "options" with
  | .null => .ok default
  | data =>
      match (check scalars [] data).report record with
      | .ok options => .ok options
      | .error report => .error (.options report)

/-- The verb of a name with its named arguments, on a collection and in a session.
Names of other verbs have none. -/
def ofName? (collection : String) (session : Option SessionId) (arguments : Members)
    (name : String) : Option (Except Failure ClientVerb) :=
  let operand := arguments.getD
  let filter := operand "filter"
  let findOptions := readOptions arguments "FindOptions" FindOptions.check {}
  let updateOptions := readOptions arguments "UpdateOptions" UpdateOptions.check {}
  match name with
  | "create_collection" => some (.ok (createCollection collection (operand "schema")))
  | "drop_collection" => some (.ok (dropCollection collection))
  | "list_collections" => some (.ok listCollections)
  | "alter_collection" => some do
      let sql ← arguments.requiredText "sql"
      pure (alterCollection collection sql)
  | "register_schema" => some (.ok (registerSchema collection (operand "schema")))
  | "register_inferred_schema" =>
      some (.ok (registerInferredSchema collection (operand "document")))
  | "has_schema" => some (.ok (hasSchema collection))
  | "insert_one" => some (.ok (insertOne collection (operand "doc") session))
  | "insert_many" => some (.ok (insertMany collection (operand "docs") session))
  | "find" => some (findOptions.map fun options => find collection filter options session)
  | "find_one" =>
      some (findOptions.map fun options => findOne collection filter options session)
  | "find_with_cursor" =>
      some ((readOptions arguments "CursorOptions" CursorOptions.check {}).map fun options =>
        findPage collection filter options session)
  | "count_documents" => some (.ok (countDocuments collection filter session))
  | "aggregate" => some (.ok (aggregate collection (operand "pipeline") session))
  | "update_one" =>
      some (updateOptions.map fun options =>
        updateOne collection filter (operand "update") options session)
  | "update_many" =>
      some (updateOptions.map fun options =>
        updateMany collection filter (operand "update") options session)
  | "delete_one" => some (.ok (deleteOne collection filter session))
  | "delete_many" => some (.ok (deleteMany collection filter session))
  | "create_index" =>
      some ((readOptions arguments "IndexOptions" IndexOptions.check {}).map fun options =>
        createIndex collection (operand "spec") options)
  | "drop_index" => some do
      let index ← arguments.requiredText "name"
      pure (dropIndex collection index)
  | "list_indexes" => some (.ok (listIndexes collection))
  | _ => none

end ClientVerb

/-- A client that is given the settings of the compiler only has the usual libraries. -/
instance : Coe CompileSettings ClientSettings := ⟨fun settings => { settings with }⟩

end DocStore
