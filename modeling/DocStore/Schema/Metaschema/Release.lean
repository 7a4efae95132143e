import DocStore.Schema.Metaschema.Draft

/-!
# The schemas of schemas of the releases

The schemas of schemas of the drafts of 2019 and 2020 are divided by kinds of keyword.  A
schema inside of one means the outermost schema that refers to it; the draft of 2020 finds
it by its anchor `meta`.
-/

namespace DocStore

namespace Metaschema

namespace Release2019

def schema : Value := only "$recursiveRef" (.text "#")

/-- Keywords that identify schemas and refer to them. -/
def core : Value :=
  .object
    [ ("$schema", .text "https://json-schema.org/draft/2019-09/schema"),
      ("$id", .text "https://json-schema.org/draft/2019-09/meta/core"),
      ("$vocabulary", .object [("https://json-schema.org/draft/2019-09/vocab/core", .bool true)]),
      ("$recursiveAnchor", .bool true), ("title", .text "Core vocabulary meta-schema"),
      ("type", .list [.text "object", .text "boolean"]),
      ("properties", .object
        [ ("$id", .object
            [ ("type", .text "string"), ("format", .text "uri-reference"),
              ("pattern", .text "^[^#]*#?$") ]),
          ("$schema", formatted "uri"),
          ("$anchor", .object
            [ ("type", .text "string"), ("pattern", .text "^[A-Za-z][-A-Za-z0-9.:_]*$") ]),
          ("$ref", formatted "uri-reference"), ("$recursiveRef", formatted "uri-reference"),
          ("$recursiveAnchor", switch),
          ("$vocabulary", .object
            [ ("type", .text "object"), ("propertyNames", formatted "uri"),
              ("additionalProperties", typed "boolean") ]),
          ("$comment", typed "string"), ("$defs", tableOf schema) ]) ]

/-- Keywords that apply schemas to parts of a value. -/
def applicator : Value :=
  .object
    [ ("$schema", .text "https://json-schema.org/draft/2019-09/schema"),
      ("$id", .text "https://json-schema.org/draft/2019-09/meta/applicator"),
      ("$vocabulary", .object
        [ ("https://json-schema.org/draft/2019-09/vocab/applicator", .bool true) ]),
      ("$recursiveAnchor", .bool true), ("title", .text "Applicator vocabulary meta-schema"),
      ("type", .list [.text "object", .text "boolean"]),
      ("properties", .object
        [ ("additionalItems", schema), ("unevaluatedItems", schema),
          ("items", .object [("anyOf", .list [schema, reference "#/$defs/schemaArray"])]),
          ("contains", schema), ("additionalProperties", schema),
          ("unevaluatedProperties", schema), ("properties", tableOf schema),
          ("patternProperties", .object
            [ ("type", .text "object"), ("additionalProperties", schema),
              ("propertyNames", .object [("format", .text "regex")]), ("default", .object []) ]),
          ("dependentSchemas", .object
            [ ("type", .text "object"), ("additionalProperties", schema) ]),
          ("propertyNames", schema), ("if", schema), ("then", schema), ("else", schema),
          ("allOf", reference "#/$defs/schemaArray"), ("anyOf", reference "#/$defs/schemaArray"),
          ("oneOf", reference "#/$defs/schemaArray"), ("not", schema) ]),
      ("$defs", .object
        [ ("schemaArray", .object
            [ ("type", .text "array"), ("minItems", .int 1), ("items", schema) ]) ]) ]

/-- Keywords that constrain values. -/
def validation : Value :=
  .object
    [ ("$schema", .text "https://json-schema.org/draft/2019-09/schema"),
      ("$id", .text "https://json-schema.org/draft/2019-09/meta/validation"),
      ("$vocabulary", .object
        [ ("https://json-schema.org/draft/2019-09/vocab/validation", .bool true) ]),
      ("$recursiveAnchor", .bool true), ("title", .text "Validation vocabulary meta-schema"),
      ("type", .list [.text "object", .text "boolean"]),
      ("properties", .object
        [ ("multipleOf", .object [("type", .text "number"), ("exclusiveMinimum", .int 0)]),
          ("maximum", typed "number"), ("exclusiveMaximum", typed "number"),
          ("minimum", typed "number"), ("exclusiveMinimum", typed "number"),
          ("maxLength", reference "#/$defs/nonNegativeInteger"),
          ("minLength", reference "#/$defs/nonNegativeIntegerDefault0"),
          ("pattern", formatted "regex"), ("maxItems", reference "#/$defs/nonNegativeInteger"),
          ("minItems", reference "#/$defs/nonNegativeIntegerDefault0"), ("uniqueItems", switch),
          ("maxContains", reference "#/$defs/nonNegativeInteger"),
          ("minContains", .object
            [ ("$ref", .text "#/$defs/nonNegativeInteger"), ("default", .int 1) ]),
          ("maxProperties", reference "#/$defs/nonNegativeInteger"),
          ("minProperties", reference "#/$defs/nonNegativeIntegerDefault0"),
          ("required", reference "#/$defs/stringArray"),
          ("dependentRequired", .object
            [ ("type", .text "object"),
              ("additionalProperties", reference "#/$defs/stringArray") ]),
          ("const", .bool true),
          ("enum", .object [("type", .text "array"), ("items", .bool true)]),
          ("type", .object
            [ ("anyOf", .list
                [ reference "#/$defs/simpleTypes",
                  .object
                    [ ("type", .text "array"), ("items", reference "#/$defs/simpleTypes"),
                      ("minItems", .int 1), ("uniqueItems", .bool true) ] ]) ]) ]),
      ("$defs", .object
        [ ("nonNegativeInteger", .object [("type", .text "integer"), ("minimum", .int 0)]),
          ("nonNegativeIntegerDefault0", .object
            [ ("$ref", .text "#/$defs/nonNegativeInteger"), ("default", .int 0) ]),
          ("simpleTypes", .object [("enum", .list (simpleTypes.map .text))]),
          ("stringArray", .object
            [ ("type", .text "array"), ("items", typed "string"), ("uniqueItems", .bool true),
              ("default", .list []) ]) ]) ]

/-- Keywords that describe schemas. -/
def metadata : Value :=
  .object
    [ ("$schema", .text "https://json-schema.org/draft/2019-09/schema"),
      ("$id", .text "https://json-schema.org/draft/2019-09/meta/meta-data"),
      ("$vocabulary", .object
        [ ("https://json-schema.org/draft/2019-09/vocab/meta-data", .bool true) ]),
      ("$recursiveAnchor", .bool true), ("title", .text "Meta-data vocabulary meta-schema"),
      ("type", .list [.text "object", .text "boolean"]),
      ("properties", .object
        [ ("title", typed "string"), ("description", typed "string"), ("default", .bool true),
          ("deprecated", switch), ("readOnly", switch), ("writeOnly", switch),
          ("examples", .object [("type", .text "array"), ("items", .bool true)]) ]) ]

/-- The keyword that names a format. -/
def format : Value :=
  .object
    [ ("$schema", .text "https://json-schema.org/draft/2019-09/schema"),
      ("$id", .text "https://json-schema.org/draft/2019-09/meta/format"),
      ("$vocabulary", .object
        [ ("https://json-schema.org/draft/2019-09/vocab/format", .bool true) ]),
      ("$recursiveAnchor", .bool true), ("title", .text "Format vocabulary meta-schema"),
      ("type", .list [.text "object", .text "boolean"]),
      ("properties", .object [("format", typed "string")]) ]

/-- Keywords on the contents of texts. -/
def content : Value :=
  .object
    [ ("$schema", .text "https://json-schema.org/draft/2019-09/schema"),
      ("$id", .text "https://json-schema.org/draft/2019-09/meta/content"),
      ("$vocabulary", .object
        [ ("https://json-schema.org/draft/2019-09/vocab/content", .bool true) ]),
      ("$recursiveAnchor", .bool true), ("title", .text "Content vocabulary meta-schema"),
      ("type", .list [.text "object", .text "boolean"]),
      ("properties", .object
        [ ("contentMediaType", typed "string"), ("contentEncoding", typed "string"),
          ("contentSchema", schema) ]) ]

/-- The schema of schemas, made of the parts above. -/
def whole : Value :=
  .object
    [ ("$schema", .text "https://json-schema.org/draft/2019-09/schema"),
      ("$id", .text "https://json-schema.org/draft/2019-09/schema"),
      ("$vocabulary", .object
        [ ("https://json-schema.org/draft/2019-09/vocab/core", .bool true),
          ("https://json-schema.org/draft/2019-09/vocab/applicator", .bool true),
          ("https://json-schema.org/draft/2019-09/vocab/validation", .bool true),
          ("https://json-schema.org/draft/2019-09/vocab/meta-data", .bool true),
          ("https://json-schema.org/draft/2019-09/vocab/format", .bool false),
          ("https://json-schema.org/draft/2019-09/vocab/content", .bool true) ]),
      ("$recursiveAnchor", .bool true),
      ("title", .text "Core and Validation specifications meta-schema"),
      ("allOf", .list
        [ reference "meta/core", reference "meta/applicator", reference "meta/validation",
          reference "meta/meta-data", reference "meta/format", reference "meta/content" ]),
      ("type", .list [.text "object", .text "boolean"]),
      ("properties", .object
        [ ("definitions", tableOf schema),
          ("dependencies", .object
            [ ("type", .text "object"),
              ("additionalProperties", .object
                [ ("anyOf", .list
                    [schema, reference "meta/validation#/$defs/stringArray"]) ]) ]) ]) ]

/-- All schemas of the draft. -/
def all : List Value :=
  [core, applicator, validation, metadata, format, content, whole]

end Release2019

namespace Release2020

def schema : Value := only "$dynamicRef" (.text "#meta")

/-- Keywords that identify schemas and refer to them. -/
def core : Value :=
  .object
    [ ("$schema", .text "https://json-schema.org/draft/2020-12/schema"),
      ("$id", .text "https://json-schema.org/draft/2020-12/meta/core"),
      ("$vocabulary", .object [("https://json-schema.org/draft/2020-12/vocab/core", .bool true)]),
      ("$dynamicAnchor", .text "meta"), ("title", .text "Core vocabulary meta-schema"),
      ("type", .list [.text "object", .text "boolean"]),
      ("properties", .object
        [ ("$id", .object
            [ ("$ref", .text "#/$defs/uriReferenceString"), ("pattern", .text "^[^#]*#?$") ]),
          ("$schema", reference "#/$defs/uriString"),
          ("$ref", reference "#/$defs/uriReferenceString"),
          ("$anchor", reference "#/$defs/anchorString"),
          ("$dynamicRef", reference "#/$defs/uriReferenceString"),
          ("$dynamicAnchor", reference "#/$defs/anchorString"),
          ("$vocabulary", .object
            [ ("type", .text "object"), ("propertyNames", reference "#/$defs/uriString"),
              ("additionalProperties", typed "boolean") ]),
          ("$comment", typed "string"),
          ("$defs", .object [("type", .text "object"), ("additionalProperties", schema)]) ]),
      ("$defs", .object
        [ ("anchorString", .object
            [ ("type", .text "string"), ("pattern", .text "^[A-Za-z_][-A-Za-z0-9._]*$") ]),
          ("uriString", formatted "uri"), ("uriReferenceString", formatted "uri-reference") ]) ]

/-- Keywords that apply schemas to parts of a value. -/
def applicator : Value :=
  .object
    [ ("$schema", .text "https://json-schema.org/draft/2020-12/schema"),
      ("$id", .text "https://json-schema.org/draft/2020-12/meta/applicator"),
      ("$vocabulary", .object
        [ ("https://json-schema.org/draft/2020-12/vocab/applicator", .bool true) ]),
      ("$dynamicAnchor", .text "meta"), ("title", .text "Applicator vocabulary meta-schema"),
      ("type", .list [.text "object", .text "boolean"]),
      ("properties", .object
        [ ("prefixItems", reference "#/$defs/schemaArray"), ("items", schema),
          ("contains", schema), ("additionalProperties", schema), ("properties", tableOf schema),
          ("patternProperties", .object
            [ ("type", .text "object"), ("additionalProperties", schema),
              ("propertyNames", .object [("format", .text "regex")]), ("default", .object []) ]),
          ("dependentSchemas", tableOf schema), ("propertyNames", schema), ("if", schema),
          ("then", schema), ("else", schema), ("allOf", reference "#/$defs/schemaArray"),
          ("anyOf", reference "#/$defs/schemaArray"), ("oneOf", reference "#/$defs/schemaArray"),
          ("not", schema) ]),
      ("$defs", .object
        [ ("schemaArray", .object
            [ ("type", .text "array"), ("minItems", .int 1), ("items", schema) ]) ]) ]

/-- Keywords on the parts of a value that no other keyword reached. -/
def unevaluated : Value :=
  .object
    [ ("$schema", .text "https://json-schema.org/draft/2020-12/schema"),
      ("$id", .text "https://json-schema.org/draft/2020-12/meta/unevaluated"),
      ("$vocabulary", .object
        [ ("https://json-schema.org/draft/2020-12/vocab/unevaluated", .bool true) ]),
      ("$dynamicAnchor", .text "meta"),
      ("title", .text "Unevaluated applicator vocabulary meta-schema"),
      ("type", .list [.text "object", .text "boolean"]),
      ("properties", .object [("unevaluatedItems", schema), ("unevaluatedProperties", schema)]) ]

/-- Keywords that constrain values. -/
def validation : Value :=
  .object
    [ ("$schema", .text "https://json-schema.org/draft/2020-12/schema"),
      ("$id", .text "https://json-schema.org/draft/2020-12/meta/validation"),
      ("$vocabulary", .object
        [ ("https://json-schema.org/draft/2020-12/vocab/validation", .bool true) ]),
      ("$dynamicAnchor", .text "meta"), ("title", .text "Validation vocabulary meta-schema"),
      ("type", .list [.text "object", .text "boolean"]),
      ("properties", .object
        [ ("type", .object
            [ ("anyOf", .list
                [ reference "#/$defs/simpleTypes",
                  .object
                    [ ("type", .text "array"), ("items", reference "#/$defs/simpleTypes"),
                      ("minItems", .int 1), ("uniqueItems", .bool true) ] ]) ]),
          ("const", .bool true),
          ("enum", .object [("type", .text "array"), ("items", .bool true)]),
          ("multipleOf", .object [("type", .text "number"), ("exclusiveMinimum", .int 0)]),
          ("maximum", typed "number"), ("exclusiveMaximum", typed "number"),
          ("minimum", typed "number"), ("exclusiveMinimum", typed "number"),
          ("maxLength", reference "#/$defs/nonNegativeInteger"),
          ("minLength", reference "#/$defs/nonNegativeIntegerDefault0"),
          ("pattern", formatted "regex"), ("maxItems", reference "#/$defs/nonNegativeInteger"),
          ("minItems", reference "#/$defs/nonNegativeIntegerDefault0"), ("uniqueItems", switch),
          ("maxContains", reference "#/$defs/nonNegativeInteger"),
          ("minContains", .object
            [ ("$ref", .text "#/$defs/nonNegativeInteger"), ("default", .int 1) ]),
          ("maxProperties", reference "#/$defs/nonNegativeInteger"),
          ("minProperties", reference "#/$defs/nonNegativeIntegerDefault0"),
          ("required", reference "#/$defs/stringArray"),
          ("dependentRequired", .object
            [ ("type", .text "object"),
              ("additionalProperties", reference "#/$defs/stringArray") ]) ]),
      ("$defs", .object
        [ ("nonNegativeInteger", .object [("type", .text "integer"), ("minimum", .int 0)]),
          ("nonNegativeIntegerDefault0", .object
            [ ("$ref", .text "#/$defs/nonNegativeInteger"), ("default", .int 0) ]),
          ("simpleTypes", .object [("enum", .list (simpleTypes.map .text))]),
          ("stringArray", .object
            [ ("type", .text "array"), ("items", typed "string"), ("uniqueItems", .bool true),
              ("default", .list []) ]) ]) ]

/-- Keywords that describe schemas. -/
def metadata : Value :=
  .object
    [ ("$schema", .text "https://json-schema.org/draft/2020-12/schema"),
      ("$id", .text "https://json-schema.org/draft/2020-12/meta/meta-data"),
      ("$vocabulary", .object
        [ ("https://json-schema.org/draft/2020-12/vocab/meta-data", .bool true) ]),
      ("$dynamicAnchor", .text "meta"), ("title", .text "Meta-data vocabulary meta-schema"),
      ("type", .list [.text "object", .text "boolean"]),
      ("properties", .object
        [ ("title", typed "string"), ("description", typed "string"), ("default", .bool true),
          ("deprecated", switch), ("readOnly", switch), ("writeOnly", switch),
          ("examples", .object [("type", .text "array"), ("items", .bool true)]) ]) ]

/-- The keyword that names a format. -/
def format : Value :=
  .object
    [ ("$schema", .text "https://json-schema.org/draft/2020-12/schema"),
      ("$id", .text "https://json-schema.org/draft/2020-12/meta/format-annotation"),
      ("$vocabulary", .object
        [ ("https://json-schema.org/draft/2020-12/vocab/format-annotation", .bool true) ]),
      ("$dynamicAnchor", .text "meta"),
      ("title", .text "Format vocabulary meta-schema for annotation results"),
      ("type", .list [.text "object", .text "boolean"]),
      ("properties", .object [("format", typed "string")]) ]

/-- The keyword that names a format, which texts must have. -/
def formatAssertion : Value :=
  .object
    [ ("$schema", .text "https://json-schema.org/draft/2020-12/schema"),
      ("$id", .text "https://json-schema.org/draft/2020-12/meta/format-assertion"),
      ("$vocabulary", .object
        [ ("https://json-schema.org/draft/2020-12/vocab/format-assertion", .bool true) ]),
      ("$dynamicAnchor", .text "meta"),
      ("title", .text "Format vocabulary meta-schema for assertion results"),
      ("type", .list [.text "object", .text "boolean"]),
      ("properties", .object [("format", typed "string")]) ]

/-- Keywords on the contents of texts. -/
def content : Value :=
  .object
    [ ("$schema", .text "https://json-schema.org/draft/2020-12/schema"),
      ("$id", .text "https://json-schema.org/draft/2020-12/meta/content"),
      ("$vocabulary", .object
        [ ("https://json-schema.org/draft/2020-12/vocab/content", .bool true) ]),
      ("$dynamicAnchor", .text "meta"), ("title", .text "Content vocabulary meta-schema"),
      ("type", .list [.text "object", .text "boolean"]),
      ("properties", .object
        [ ("contentEncoding", typed "string"), ("contentMediaType", typed "string"),
          ("contentSchema", schema) ]) ]

/-- The schema of schemas, made of the parts above. -/
def whole : Value :=
  .object
    [ ("$schema", .text "https://json-schema.org/draft/2020-12/schema"),
      ("$id", .text "https://json-schema.org/draft/2020-12/schema"),
      ("$vocabulary", .object
        [ ("https://json-schema.org/draft/2020-12/vocab/core", .bool true),
          ("https://json-schema.org/draft/2020-12/vocab/applicator", .bool true),
          ("https://json-schema.org/draft/2020-12/vocab/unevaluated", .bool true),
          ("https://json-schema.org/draft/2020-12/vocab/validation", .bool true),
          ("https://json-schema.org/draft/2020-12/vocab/meta-data", .bool true),
          ("https://json-schema.org/draft/2020-12/vocab/format-annotation", .bool true),
          ("https://json-schema.org/draft/2020-12/vocab/content", .bool true) ]),
      ("$dynamicAnchor", .text "meta"),
      ("title", .text "Core and Validation specifications meta-schema"),
      ("allOf", .list
        [ reference "meta/core", reference "meta/applicator", reference "meta/unevaluated",
          reference "meta/validation", reference "meta/meta-data",
          reference "meta/format-annotation", reference "meta/content" ]),
      ("type", .list [.text "object", .text "boolean"]),
      ("properties", .object
        [ ("definitions", .object
            [ ("type", .text "object"), ("additionalProperties", schema),
              ("deprecated", .bool true), ("default", .object []) ]),
          ("dependencies", .object
            [ ("type", .text "object"),
              ("additionalProperties", .object
                [ ("anyOf", .list [schema, reference "meta/validation#/$defs/stringArray"]) ]),
              ("deprecated", .bool true), ("default", .object []) ]),
          ("$recursiveAnchor", .object
            [ ("$ref", .text "meta/core#/$defs/anchorString"), ("deprecated", .bool true) ]),
          ("$recursiveRef", .object
            [ ("$ref", .text "meta/core#/$defs/uriReferenceString"),
              ("deprecated", .bool true) ]) ]) ]

/-- All schemas of the draft. -/
def all : List Value :=
  [core, applicator, unevaluated, validation, metadata, format, formatAssertion, content, whole]

end Release2020

end Metaschema

end DocStore
