import DocStore.Query

/-!
# Statements on documents by name

The statements can be asked for by a name with positional arguments of any kind.
Arguments at the end may be missing where they have a default.
-/

namespace DocStore

namespace Query

variable (settings : CompileSettings)

/-- A fragment and the values that it binds. -/
def clauseMembers (clause : Sql.Fragment) : Members :=
  [("result", .text (clause.render settings.dialect)), ("params", .list clause.params)]

def conditionMembers (filter : Value) : Logged Members := do
  let clause ← whereLine settings filter
  pure (clauseMembers settings clause)

/-- The ordering for a sort, with the names of output columns. -/
def orderMembers (sort columns : Value) : Except Fault Members := do
  let columns ← columns.walk
  let columns ← columns.mapM Value.asKey
  let line ← orderLine settings.dialect (columns.filterMap Key.text?) sort
  pure [("result", .text (Sql.Fragment.render settings.dialect line))]

def statementMembers (collection : Value) (statement : String → Logged Statement) :
    Logged Members := do
  let collection ← Logged.ofFault collection.asText
  let statement ← statement collection
  pure statement.toMembers

/-- Inserts documents, of which there must be a number. -/
def insertionMembers (collection documents : Value) : Logged Members := do
  let documents ← Logged.ofFault documents.walk
  statementMembers collection fun collection => insert settings collection documents

/-- Replaces a document; the new one is encoded first. -/
def replacementMembers (collection id document : Value) : Logged Members := do
  let _ ← Logged.ofFault (Document.encode document)
  statementMembers collection fun collection => update settings collection id document

/-- The names that can be asked for. -/
def verbs : List String :=
  [ "where", "order_by", "select_documents", "count_documents", "insert_documents",
    "update_document", "delete_document" ]

def call (name : String) (arguments : List Value) : Logged Members :=
  match name, arguments with
  | "compiler", _ => pure [("result", .text settings.dialect.name)]
  | "where", [filter] => conditionMembers settings filter
  | "order_by", [sort] => Logged.ofFault (orderMembers settings sort (.list []))
  | "order_by", [sort, columns] => Logged.ofFault (orderMembers settings sort columns)
  | "insert_documents", [collection, documents] =>
      insertionMembers settings collection documents
  | "update_document", [collection, id, document] =>
      replacementMembers settings collection id document
  | "delete_document", [collection, id] =>
      statementMembers collection fun collection => delete settings collection id
  | "count_documents", [collection] =>
      statementMembers collection fun collection => count settings collection .null
  | "count_documents", [collection, filter] =>
      statementMembers collection fun collection => count settings collection filter
  | name, arguments =>
      match name, arguments, decide (arguments.length ≤ 5) with
      | "select_documents", collection :: options, true =>
          let option (position : Nat) : Value := options.getD position .null
          statementMembers collection fun collection =>
            select settings collection (option 0) (option 1) (option 2) (option 3)
      | _, _, _ =>
          throw (.fault (if verbs.contains name then .unsuitableKind else .notAnObject))

end Query

end DocStore
