import DocStore.Sql.Dialect
import DocStore.Value.Access

/-!
# Statements on tables, indexes and catalogs

A statement is a fragment for one dialect.  This module holds the statements
that no document value enters but by binding: insertion, definition of tables
and indexes, catalog queries and savepoints.
-/

namespace DocStore

structure Statement where
  dialect : Dialect
  body : Sql.Fragment

namespace Statement

open Sql

/-- Statement text with a mark for each bound value. -/
def sql (statement : Statement) : String := statement.body.render statement.dialect

/-- The bound values in the order of their marks. -/
def params (statement : Statement) : List Value := Fragment.params statement.body

def toMembers (statement : Statement) : Members :=
  [ ("sql", .text statement.sql), ("params", .list statement.params),
    ("dialect", .text statement.dialect.name) ]

def insert (dialect : Dialect) (table : String) (documents : List String) : Statement :=
  { dialect
    body :=
      [.raw "INSERT INTO ", .identifier table,
        .raw (" (" ++ Dialect.documentColumn ++ ") VALUES ")]
      ++ Fragment.joined ", " (documents.map fun json => Fragment.parenthesised [.document json])
      ++ (match dialect with
          | .postgres => [.raw (" RETURNING " ++ Dialect.rowColumn)]
          | .mysql => []) }

/-- Creates the table of a collection if it is missing. -/
def createTable (dialect : Dialect) (table : String) : Statement :=
  { dialect
    body :=
      [ .raw "CREATE TABLE IF NOT EXISTS ", .identifier table,
        .raw (match dialect with
          | .postgres => " (id SERIAL PRIMARY KEY, data JSONB)"
          | .mysql => " (id INT AUTO_INCREMENT PRIMARY KEY, data JSON)") ] }

def dropTable (dialect : Dialect) (table : String) : Statement :=
  { dialect, body := [.raw "DROP TABLE IF EXISTS ", .identifier table] }

/-- A table name as Postgres reads it in a text. -/
def quotedTableName (table : String) : String :=
  String.ofList ('"' :: (table.toList.flatMap (fun character =>
    if character = '"' then ['"', '"'] else [character]) ++ ['"']))

/-- Asks MySQL whether a table exists, whatever its name is. -/
def countTables (table : Value) : Statement :=
  { dialect := .mysql
    body :=
      [ .raw ("SELECT COUNT(*) > 0 AS present FROM information_schema.tables "
          ++ "WHERE table_schema = DATABASE() AND table_name = "),
        .parameter table ] }

/-- Asks whether a table exists: one row with a column `present`. -/
def tableExists (dialect : Dialect) (table : String) : Statement :=
  match dialect with
  | .postgres =>
      { dialect
        body :=
          [ .raw "SELECT to_regclass(", .parameter (.text (quotedTableName table)),
            .raw ") IS NOT NULL AS present" ] }
  | .mysql => countTables (.text table)

/-- Lists the tables: one row with a column `name` for each. -/
def listTables (dialect : Dialect) : Statement :=
  { dialect
    body :=
      match dialect with
      | .postgres =>
          [.raw "SELECT tablename AS name FROM pg_tables WHERE schemaname = current_schema()"]
      | .mysql =>
          [.raw ("SELECT table_name AS name FROM information_schema.tables "
            ++ "WHERE table_schema = DATABASE() AND table_type = 'BASE TABLE'")] }

/-- One key of an index.  MySQL indexes a text of unbounded length only through a
cast. -/
def indexKey (dialect : Dialect) (path : String) (direction : Bool) : Fragment :=
  let expression := match dialect with
    | .postgres => Fragment.parenthesised (Dialect.fieldPath .postgres path)
    | .mysql =>
        .raw "(CAST(" :: (Dialect.fieldPath .mysql path
          ++ [.raw " AS CHAR(255)) COLLATE utf8mb4_bin)"])
  expression ++ (if direction then [.raw " DESC"] else [])

/-- Reads a key of an index: its field, and whether it descends. -/
def readIndexKey (key : Key × Value) : Except Fault (String × Bool) := do
  let field ← key.1.toValue.asText
  let descends ← key.2.compare (.int (-1))
  pure (field, descends)

/-- Creates an index; each path comes with whether it descends. -/
def createIndex (dialect : Dialect) (table name : String) (keys : List (String × Bool))
    (unique : Bool) : Statement :=
  { dialect
    body :=
      [ .raw (if unique then "CREATE UNIQUE INDEX " else "CREATE INDEX "),
        .raw (match dialect with
          | .postgres => "IF NOT EXISTS "
          | .mysql => ""),
        .identifier name, .raw " ON ", .identifier table, .raw " (" ]
      ++ Fragment.joined ", " (keys.map fun key => indexKey dialect key.1 key.2)
      ++ [.raw ")"] }

def dropIndex (dialect : Dialect) (table name : String) : Statement :=
  { dialect
    body :=
      match dialect with
      | .postgres => [.raw "DROP INDEX IF EXISTS ", .identifier name]
      | .mysql => [.raw "DROP INDEX ", .identifier name, .raw " ON ", .identifier table] }

def listIndexes (dialect : Dialect) (table : Value) : Statement :=
  { dialect
    body :=
      match dialect with
      | .postgres =>
          [ .raw ("SELECT indexname AS name, indexdef AS definition FROM pg_indexes "
              ++ "WHERE schemaname = current_schema() AND tablename = "),
            .parameter table ]
      | .mysql =>
          [ .raw ("SELECT index_name AS name, non_unique AS non_unique, "
              ++ "column_name AS column_name, expression AS expression, "
              ++ "collation AS collation FROM information_schema.statistics "
              ++ "WHERE table_schema = DATABASE() AND table_name = "),
            .parameter table,
            .raw " ORDER BY index_name, seq_in_index" ] }

end Statement

inductive SavepointAction where
  | create
  | release
  | rollback
deriving DecidableEq, Repr

namespace SavepointAction

def ofName? : String → Option SavepointAction
  | "create" => some .create
  | "release" => some .release
  | "rollback" => some .rollback
  | _ => none

def words : SavepointAction → String
  | .create => "SAVEPOINT "
  | .release => "RELEASE SAVEPOINT "
  | .rollback => "ROLLBACK TO SAVEPOINT "

end SavepointAction

def Statement.savepoint (dialect : Dialect) (action : SavepointAction) (name : String) :
    Statement :=
  { dialect, body := [.raw action.words, .identifier name] }

end DocStore
