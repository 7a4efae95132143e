import DocStore.Error
import DocStore.Schema.Finding

/-!
# Schemas of collections

A client keeps validators for some of its collections.  A library makes them of schemas,
and only of well-formed ones; a collection without a validator accepts every document.
-/

namespace DocStore

/-! ## Inferred schemas

A sample document yields a flat schema: every key is required and has the type
of its sample value.
-/

namespace Schema

/-- The name of the JSON type of a value; decimals and bytes have none. -/
def typeName? : Value → Option String
  | .null => some "null"
  | .bool _ => some "boolean"
  | .int _ => some "number"
  | .float _ => some "number"
  | .text _ => some "string"
  | .list _ => some "array"
  | .object _ => some "object"
  | _ => none

def inferredProperties (document : Members) : Members :=
  document.filterMap fun member =>
    (typeName? member.2).map fun name => (member.1, .object [("type", .text name)])

/-- The schema of documents with the shape of a sample. -/
def infer (document : Members) : Members :=
  [ ("type", .text "object"),
    ("properties", .object (inferredProperties document)),
    ("required", .list (document.keys.map Key.toValue)) ]

end Schema

/-! ## Catalogs -/

/-- The validators of collections. -/
abbrev SchemaCatalog := List (Key × Validator)

namespace SchemaCatalog

def get? (collection : Key) : SchemaCatalog → Option Validator
  | [] => none
  | (name, validator) :: catalog =>
      if name.same collection then some validator else get? collection catalog

def contains (catalog : SchemaCatalog) (collection : Key) : Bool :=
  (catalog.get? collection).isSome

def unregister (catalog : SchemaCatalog) (collection : Key) : SchemaCatalog :=
  catalog.filter fun entry => !entry.1.same collection

def invalidSchema (collection : Key) (reason : String) : StoreError :=
  .configuration ("Invalid schema for collection '" ++ collection.shown ++ "'") (some .schema)
    (some reason)

/-- Keeps the validator of a well-formed schema for a collection in the place of its old
one.  The first violation in another schema is the reason against it. -/
def register (library : SchemaLibrary) (catalog : SchemaCatalog) (collection : Key)
    (schema : Value) : Except Failure SchemaCatalog :=
  match library.review schema with
  | .fault fault :: _ => .error (.fault fault)
  | .violation found :: _ => .error (.store (invalidSchema collection found.message))
  | [] => .ok ((collection, library.validator schema) :: catalog.unregister collection)

/-- Keeps the schema inferred from a sample document, and returns it. -/
def registerInferred (library : SchemaLibrary) (catalog : SchemaCatalog) (collection : Key)
    (document : Value) : Except Failure (Members × SchemaCatalog) :=
  match document.asObject with
  | .error fault => .error (.fault fault)
  | .ok members =>
      let schema := Schema.infer members
      (catalog.register library collection (.object schema)).map fun catalog => (schema, catalog)

def accepts (catalog : SchemaCatalog) (collection : Key) (document : Value) :
    Except Fault Bool :=
  match catalog.get? collection with
  | none => .ok true
  | some validator => validator.accepts document

/-- Fails for a document that the validator of its collection does not accept. -/
def validate (catalog : SchemaCatalog) (collection : Key) (document : Value) :
    Except Failure Unit :=
  match catalog.get? collection with
  | none => .ok ()
  | some validator =>
      match validator.violations document with
      | .error fault => .error (.fault fault)
      | .ok [] => .ok ()
      | .ok found =>
          .error (.store (.documentInvalid collection (found.map Violation.message)))

end SchemaCatalog

end DocStore
