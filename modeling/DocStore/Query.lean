import DocStore.Document
import DocStore.Filter.Compile
import DocStore.Sql.Statement

/-!
# Statements on documents

Selection, counting, insertion and the replacement or removal of single documents.
A statement is assembled from lines, empty ones being left out.  Documents are
replaced and removed by their `id` field.
-/

namespace DocStore

/-- What the compilation of statements depends on. -/
structure CompileSettings where
  dialect : Dialect
  strict : Bool

namespace Query

open Sql

/-- The line of the condition, empty for a filter without one. -/
def whereLine (settings : CompileSettings) (filter : Value) : Logged Fragment := do
  match ← Filter.compile settings.dialect settings.strict filter with
  | some condition => pure (.raw "WHERE " :: condition)
  | none => pure []

/-- One item of an ordering.  Names of output columns are columns; other names
are field paths. -/
def orderItem (dialect : Dialect) (columns : List String) (item : Key × Value) :
    Except Fault Fragment := do
  let key := item.1.shown
  let expression := if columns.contains key then [.identifier key] else dialect.jsonPath key
  let ascending ← item.2.compare (.int 1)
  pure (expression ++ [.raw (if ascending then " ASC" else " DESC")])

/-- The line of the ordering.  One sorts ascending, anything else descending. -/
def orderLine (dialect : Dialect) (columns : List String) (sort : Value) :
    Except Fault Fragment :=
  if !sort.isTruthy then .ok []
  else do
    let items ← sort.asObject
    let ordering ← items.mapM (orderItem dialect columns)
    pure (.raw "ORDER BY " :: Fragment.joined ", " ordering)

def assemble (dialect : Dialect) (lines : List Fragment) : Statement :=
  { dialect, body := Fragment.joined "\n" (lines.filter fun line => !line.isEmpty) }

/-- The lines after the head of a selection. -/
def selectionTail (settings : CompileSettings) (filter sort limit skip : Value) :
    Logged (List Fragment) := do
  let condition ← whereLine settings filter
  let ordering ← Logged.ofFault (orderLine settings.dialect [] sort)
  let paging ← Logged.ofFault (settings.dialect.paging limit skip)
  pure (condition :: ordering :: paging.map fun line => [.raw line])

/-- Selects the documents that match a filter. -/
def select (settings : CompileSettings) (collection : String)
    (filter sort limit skip : Value) : Logged Statement := do
  let tail ← selectionTail settings filter sort limit skip
  pure (assemble settings.dialect
    ([.raw ("SELECT " ++ Dialect.documentColumn ++ " FROM "), .identifier collection] :: tail))

def count (settings : CompileSettings) (collection : String) (filter : Value) :
    Logged Statement := do
  let condition ← whereLine settings filter
  pure (assemble settings.dialect
    [[.raw "SELECT COUNT(*) AS count FROM ", .identifier collection], condition])

def insert (settings : CompileSettings) (collection : String) (documents : List Value) :
    Logged Statement := do
  let encoded ← Logged.ofFault (documents.mapM Document.encode)
  pure (Statement.insert settings.dialect collection encoded)

/-- The filter that names one document. -/
def idFilter (id : Value) : Value := .object [(idField, id)]

def update (settings : CompileSettings) (collection : String) (id document : Value) :
    Logged Statement := do
  let encoded ← Logged.ofFault (Document.encode document)
  let condition ← whereLine settings (idFilter id)
  pure (assemble settings.dialect
    [ [ .raw "UPDATE ", .identifier collection,
        .raw (" SET " ++ Dialect.documentColumn ++ " = "), .document encoded ],
      condition ])

/-- Removes the document with an id. -/
def delete (settings : CompileSettings) (collection : String) (id : Value) :
    Logged Statement := do
  let condition ← whereLine settings (idFilter id)
  pure (assemble settings.dialect
    [[.raw "DELETE FROM ", .identifier collection], condition])

end Query

end DocStore
