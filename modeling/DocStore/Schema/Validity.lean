import DocStore.Schema.Keyword

/-!
# Valid documents and well-formed schemas

A schema is a truth value or an object of keywords, which are checked in the order in
which the schema has them.  A whole schema is of draft 7; schemas inside of it may name
another draft.  A schema is well-formed if the schema of schemas of draft 7 accepts it;
there the formats of texts are checked, so that every pattern can be read.
-/

namespace DocStore

namespace Schema

def refusal (value : Value) : Finding :=
  .here ("False schema does not allow " ++ value.wording)

/-- The findings of a schema inside of another one.  Which of its keywords count is said
by the draft around it, and what they mean by its own draft. -/
def descend (checks : SchemaChecks) (scope : SchemaScope) (viewpoint : Option Viewpoint)
    (schema value : Value) : List Finding :=
  match schema with
  | .bool accepts => if accepts then [] else [refusal value]
  | schema =>
      Finding.attempt
        (do
          let viewpoint ← match viewpoint with
            | some viewpoint => pure viewpoint
            | none => scope.viewpoint.enter { draft := scope.draft, contents := schema }
          let inner ← { scope with viewpoint }.replaced schema
          let members ← schema.asObject
          let keywords ← scope.draft.keywords schema
          pure (inner, members, keywords))
        fun (inner, members, keywords) =>
          Keyword.allFindings checks inner members keywords value

/-- The findings of a schema in the place of another one. -/
def replace (checks : SchemaChecks) (scope : SchemaScope) (schema value : Value) :
    List Finding :=
  match schema with
  | .bool accepts => if accepts then [] else [refusal value]
  | schema =>
      Finding.attempt
        (do
          let inner ← scope.replaced schema
          let members ← schema.asObject
          let keywords ← inner.draft.keywords schema
          pure (inner, members, keywords))
        fun (inner, members, keywords) =>
          Keyword.allFindings checks inner members keywords value

/-- The checks of the parts of a schema, following schemas at most `fuel` deep. -/
def checksWithin : Nat → SchemaChecks
  | 0 =>
      { descend := fun _ _ _ _ => [.fault .endless]
        replace := fun _ _ _ => [.fault .endless]
        depth := 0 }
  | fuel + 1 =>
      { descend := fun scope viewpoint schema value =>
          descend (checksWithin fuel) scope viewpoint schema value
        replace := fun scope schema value => replace (checksWithin fuel) scope schema value
        depth := fuel + 1 }

/-- The number of places in the schemas of schemas. -/
def metaschemaSize : Nat :=
  metaschemas.foldr (fun entry size => entry.2.contents.nodeCount + size) 0

/-- A bound for the depth of a validation that comes to an end: at each depth of the
value every place of the schemas is met at most once in each draft. -/
def depthBound (schema value : Value) : Nat :=
  Draft.all.length * (schema.nodeCount + metaschemaSize + 1) * (value.depth + 1)

def wholeFindings (formats : Bool) (schema value : Value) : List Finding :=
  Finding.attempt
    (do
      let viewpoint ← Viewpoint.ofRoot { draft := .seven, contents := schema }
      let scope : SchemaScope := { draft := .seven, viewpoint, formats }
      match schema with
      | .bool accepts => pure (scope, none, if accepts then [] else [refusal value])
      | schema => do
          let members ← schema.asObject
          let keywords ← scope.draft.keywords schema
          pure (scope, some (members, keywords), []))
    fun (scope, members, findings) =>
      match members with
      | some (members, keywords) =>
          Keyword.allFindings (checksWithin (depthBound schema value)) scope members keywords
            value
      | none => findings

/-- What the validation of a value finds, in the order of the keywords. -/
def findings (schema value : Value) : List Finding := wholeFindings false schema value

end Schema

/-- The schemas of draft 7.  One is well-formed if the schema of schemas accepts it. -/
def SchemaLibrary.draft7 : SchemaLibrary :=
  { review := Schema.wholeFindings true Metaschema.draft7
    validator := Schema.findings }

end DocStore
