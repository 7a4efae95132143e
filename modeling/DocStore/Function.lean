import DocStore.Document
import DocStore.Engine.Statement
import DocStore.Schema.Catalog
import DocStore.Transaction.Isolation
import DocStore.Update

/-!
# Functions by name

The functions on keys, paths and documents can be called by name with positional arguments
of any kind; each takes a fixed number of them, or may lack the last one.
-/

namespace DocStore

namespace Function

def onText (argument : Value) (function : String → String) : Except Fault Value :=
  argument.asText.map fun text => .text (function text)

def segments (path : Value) : Except Fault Value :=
  path.asText.map fun path => .list ((Sql.splitPath path).map .text)

/-- The name of an isolation level, which null has none of. -/
def isolation : Value → Except Failure Value
  | .null => .ok .null
  | level => do
      let text ← level.asText
      match IsolationLevel.read text with
      | .ok level => pure (.text level.name)
      | .error error => throw (.store error)

def unwound (documents specification : Value) : Except Fault Value := do
  let _ ← Document.unwindField specification
  let documents ← documents.walk
  let unwound ← Document.unwind documents specification
  pure (.list unwound)

def returnedIds (rows : Value) : Except Fault Value := do
  let rows ← rows.walk
  let ids ← Engine.returnedIds rows
  pure (.list ids)

def updated (strict : Bool) (document update : Value) : Logged Value := do
  let updated ← Update.apply strict document update
  pure (.object updated)

def inferred (sample : Value) : Except Fault Value :=
  sample.asObject.map fun members => .object (Schema.infer members)

/-- The names that take arguments. -/
def names : List String :=
  [ "normalize_key", "strip_field_ref", "split_path", "sql_literal", "is_number",
    "encode_document", "decode_document", "project", "equality_fields", "project_document",
    "unwind_documents", "infer_schema", "normalize_isolation_level", "apply_update",
    "inserted_ids_mysql", "inserted_ids_postgres" ]

def call (name : String) (arguments : List Value) : Logged Value :=
  match name, arguments with
  | "normalize_key", [key] => liftM (onText key canonicalKey)
  | "strip_field_ref", [reference] => liftM (onText reference fieldOfReference)
  | "split_path", [path] => liftM (segments path)
  | "sql_literal", [text] => liftM (onText text Sql.literalText)
  | "is_number", [value] => pure (.bool value.isNumber)
  | "encode_document", [document] => liftM ((Document.encode document).map Value.text)
  | "decode_document", [stored] => liftM (Document.decode stored)
  | "project", [document, projection] =>
      liftM ((Document.project document projection).map Value.object)
  | "equality_fields", [filter] => liftM ((Document.equalityFields filter).map Value.object)
  | "project_document", [document, flags] =>
      liftM ((Document.projectFields document flags).map Value.object)
  | "unwind_documents", [documents, specification] => liftM (unwound documents specification)
  | "infer_schema", [sample] => liftM (inferred sample)
  | "normalize_isolation_level", [level] => liftM (isolation level)
  | "apply_update", [document, update] => updated false document update
  | "apply_update", [document, update, strict] => updated strict.isTruthy document update
  | "inserted_ids_mysql", [first, count] =>
      liftM ((Engine.countedIds first count).map Value.list)
  | "inserted_ids_postgres", [rows, _] => liftM (returnedIds rows)
  | name, _ => throw (.fault (if names.contains name then .unsuitableKind else .missingEntry))

end Function

end DocStore
