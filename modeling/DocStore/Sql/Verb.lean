import DocStore.Result
import DocStore.Value.Arithmetic
import DocStore.Value.Display

/-!
# Dialects by name

What a dialect writes can be asked for by a name with positional arguments.  Arguments may
be of any kind; each name takes a fixed number of them.
-/

namespace DocStore

namespace Dialect

open Sql

variable (dialect : Dialect)

/-- The text of an expression over the field at a path. -/
def expressionAt (path : Value) (expression : String → Fragment) : Except Fault Value :=
  path.asText.map fun path => .text ((expression path).render dialect)

def statementOn (table : Value) (statement : String → Statement) : Except Fault Value :=
  table.asText.map fun table => .text (statement table).sql

def typeTest (path typeName : Value) : Except Fault Value := do
  let path ← path.asText
  let test ← match dialect, typeName with
    | _, .text name => dialect.hasTypeNamed path name
    | .postgres, other => other.asText.map fun name => postgresTypeTest path name
    | .mysql, other => do
        let _ ← other.asKey
        throw .missingEntry
  pure (.text (test.render dialect))

/-- The cast of any value's text to an exact number. -/
def numericCast (expression : Value) : Except Fault Value :=
  expression.plainWording.map fun expression =>
    .text (Fragment.render dialect (dialect.numeric [.raw expression]))

/-- The text of an insertion of a number of documents. -/
def insertion (table count : Value) : Except Fault Value := do
  let count ← count.asCount
  statementOn table fun table => Statement.insert dialect table (List.replicate count "")

/-- The query for a table; MySQL looks for a name of any kind. -/
def tableQuery (table : Value) : Except Fault Value :=
  match dialect with
  | .postgres => table.asText.map fun table =>
      .object (Statement.tableExists .postgres table).toMembers
  | .mysql => .ok (.object (Statement.countTables table).toMembers)

/-- The text that creates an index. -/
def indexCreation (table name keys unique : Value) : Except Fault Value := do
  let keys ← keys.asObject
  let keys ← keys.mapM Statement.readIndexKey
  let name ← name.asText
  statementOn table fun table => Statement.createIndex dialect table name keys unique.isTruthy

/-- The text that drops an index; Postgres does not name the table. -/
def indexRemoval (table name : Value) : Except Fault Value := do
  let name ← name.asText
  match dialect with
  | .postgres => pure (.text (Statement.dropIndex .postgres "" name).sql)
  | .mysql => statementOn table fun table => Statement.dropIndex .mysql table name

def savepointStatement (action name : Value) : Except Fault Value := do
  match ← action.asKey with
  | .text action =>
      match SavepointAction.ofName? action with
      | some action => do
          let name ← name.asText
          pure (.text (Statement.savepoint dialect action name).sql)
      | none => throw .missingEntry
  | _ => throw .missingEntry

/-- Whether a segment is a plain name. -/
def simplicity : Value → Except Fault Value
  | .text segment => .ok (.bool (isSimpleKey segment))
  | _ => .error .unsuitableKind

def textList (texts : List String) : Value := .list (texts.map .text)

/-- The names that can be asked for. -/
def verbs : List String :=
  [ "dialect_name", "param_placeholder", "json_param", "list_tables_query", "_is_simple_key",
    "quote_identifier", "field_path", "json_path", "numeric_value", "numeric", "is_null",
    "is_not_null", "has_json_type", "comparable", "json_type_of", "coerce_param",
    "limit_offset", "insert_sql", "create_table_sql", "drop_table_sql", "table_exists_query",
    "list_indexes_query", "create_index_sql", "drop_index_sql", "savepoint_sql",
    "parse_indexes" ]

def call (name : String) (arguments : List Value) : Except Failure Value :=
  match name, arguments with
  | "dialect_name", _ => pure (.text dialect.name)
  | "param_placeholder", [] => pure (.text placeholder)
  | "json_param", [] => pure (.text (documentPlaceholder dialect))
  | "list_tables_query", [] => pure (.object (Statement.listTables dialect).toMembers)
  | "_is_simple_key", [segment] => simplicity segment
  | "quote_identifier", [name] => dialect.expressionAt name fun name => [.identifier name]
  | "field_path", [path] => dialect.expressionAt path dialect.fieldPath
  | "json_path", [path] => dialect.expressionAt path dialect.jsonPath
  | "numeric_value", [path] => dialect.expressionAt path dialect.numericValue
  | "is_null", [path] => dialect.expressionAt path dialect.isNull
  | "is_not_null", [path] => dialect.expressionAt path dialect.isNotNull
  | "comparable", [path, operand] =>
      dialect.expressionAt path fun path => dialect.comparable path operand
  | "has_json_type", [path, typeName] => dialect.typeTest path typeName
  | "numeric", [expression] => dialect.numericCast expression
  | "json_type_of", [operand] => pure (.optional .text (operand.jsonType?.map JsonType.name))
  | "coerce_param", [operand] => pure operand.boundForm
  | "limit_offset", [limit, offset] => (dialect.paging limit offset).map textList
  | "insert_sql", [table, count] => dialect.insertion table count
  | "create_table_sql", [table] => statementOn table (Statement.createTable dialect)
  | "drop_table_sql", [table] => statementOn table (Statement.dropTable dialect)
  | "table_exists_query", [table] => dialect.tableQuery table
  | "list_indexes_query", [table] => pure (.object (Statement.listIndexes dialect table).toMembers)
  | "create_index_sql", [table, name, keys, unique] =>
      dialect.indexCreation table name keys unique
  | "drop_index_sql", [table, name] => dialect.indexRemoval table name
  | "savepoint_sql", [action, name] => dialect.savepointStatement action name
  | "parse_indexes", [rows] => do
      let rows ← rows.walk
      let indexes ← Catalog.indexes .lenient dialect rows
      pure (.list (indexes.map IndexDescription.toValue))
  | name, _ =>
      if verbs.contains name then throw (.fault .unsuitableKind) else throw (.fault .notAnObject)

end Dialect

end DocStore
