import DocStore.Schema.Catalog
import DocStore.Schema.Validity
import DocStore.Value.Access

/-!
# Schemas by name

The catalog of schemas can be used by a verb with positional arguments.  Any key may name a
collection.
-/

namespace DocStore

namespace SchemaCatalog

/-- Answers a verb on a collection, and changes the catalog if it registers or forgets a
schema. -/
def onCollection (library : SchemaLibrary) (catalog : SchemaCatalog) (collection : Key)
    (verb : String) (arguments : List Value) : Except Failure (Value × SchemaCatalog) :=
  match verb, arguments with
  | "register", [schema] => do
      let catalog ← catalog.register library collection schema
      pure (.null, catalog)
  | "register_inferred", [sample] => do
      let (schema, catalog) ← catalog.registerInferred library collection sample
      pure (.object schema, catalog)
  | "unregister", [] => pure (.null, catalog.unregister collection)
  | "contains", [] => pure (.bool (catalog.contains collection), catalog)
  | "is_valid", [document] => do
      let accepted ← catalog.accepts collection document
      pure (.bool accepted, catalog)
  | "validate", [document] => do
      catalog.validate collection document
      pure (.null, catalog)
  | _, _ => throw (.fault .unsuitableKind)

/-- Answers a verb; its first argument names the collection. -/
def call (catalog : SchemaCatalog) (verb : String) (arguments : List Value)
    (library : SchemaLibrary := .draft7) : Except Failure (Value × SchemaCatalog) :=
  match arguments with
  | collection :: arguments => do
      let collection ← collection.asKey
      catalog.onCollection library collection verb arguments
  | [] => throw (.fault .unsuitableKind)

end SchemaCatalog

end DocStore
