import DocStore.Schema.Resource

/-!
# The schemas of schemas of the drafts

Every draft describes its own schemas by a schema, whose address can be the target of
references.  Some parts stand in the schemas of several drafts.
-/

namespace DocStore

namespace Metaschema

/-! ## Parts -/

def only (keyword : String) (operand : Value) : Value := .object [(keyword, operand)]

/-- An object with names as keys. -/
def record (members : List (String × Value)) : Value :=
  .object (members.map fun member => (.text member.1, member.2))

def reference (place : String) : Value := only "$ref" (.text place)

def typed (name : String) : Value := only "type" (.text name)

def formatted (format : String) : Value :=
  .object [("type", .text "string"), ("format", .text format)]

/-- Truth values that are false unless they are given. -/
def switch : Value := .object [("type", .text "boolean"), ("default", .bool false)]

/-- Tables, by default empty, of values that a schema accepts. -/
def tableOf (part : Value) : Value :=
  .object [("type", .text "object"), ("additionalProperties", part), ("default", .object [])]

def simpleTypes : List String :=
  ["array", "boolean", "integer", "null", "number", "object", "string"]

/-- The parts that the keywords of drafts 6 and 7 share. -/
def definitions : Members :=
    [ ("schemaArray", .object
        [ ("type", .text "array"), ("minItems", .int 1), ("items", reference "#") ]),
      ("nonNegativeInteger", .object [("type", .text "integer"), ("minimum", .int 0)]),
      ("nonNegativeIntegerDefault0", .object
        [ ("allOf", .list
            [ reference "#/definitions/nonNegativeInteger", .object [("default", .int 0)] ]) ]),
      ("simpleTypes", .object [("enum", .list (simpleTypes.map .text))]),
      ("stringArray", .object
        [ ("type", .text "array"), ("items", typed "string"), ("uniqueItems", .bool true),
          ("default", .list []) ]) ]

/-! ## Draft 3 -/

/-- The schema of the schemas of draft 3. -/
def draft3 : Value :=
  .object
    [ ("$schema", .text "http://json-schema.org/draft-03/schema#"),
      ("id", .text "http://json-schema.org/draft-03/schema#"), ("type", .text "object"),
      ("properties", .object
        [ ("type", .object
            [ ("type", .list [.text "string", .text "array"]),
              ("items", .object [("type", .list [.text "string", reference "#"])]),
              ("uniqueItems", .bool true), ("default", .text "any") ]),
          ("properties", tableOf (.object [("$ref", .text "#"), ("type", .text "object")])),
          ("patternProperties", tableOf (reference "#")),
          ("additionalProperties", .object
            [ ("type", .list [reference "#", .text "boolean"]), ("default", .object []) ]),
          ("items", .object
            [ ("type", .list [reference "#", .text "array"]), ("items", reference "#"),
              ("default", .object []) ]),
          ("additionalItems", .object
            [ ("type", .list [reference "#", .text "boolean"]), ("default", .object []) ]),
          ("required", switch),
          ("dependencies", tableOf
            (.object
              [ ("type", .list [.text "string", .text "array", reference "#"]),
                ("items", typed "string") ])),
          ("minimum", typed "number"), ("maximum", typed "number"), ("exclusiveMinimum", switch),
          ("exclusiveMaximum", switch),
          ("minItems", .object
            [ ("type", .text "integer"), ("minimum", .int 0), ("default", .int 0) ]),
          ("maxItems", .object [("type", .text "integer"), ("minimum", .int 0)]),
          ("uniqueItems", switch), ("pattern", formatted "regex"),
          ("minLength", .object
            [ ("type", .text "integer"), ("minimum", .int 0), ("default", .int 0) ]),
          ("maxLength", typed "integer"), ("enum", typed "array"), ("default", typed "any"),
          ("title", typed "string"), ("description", typed "string"), ("format", typed "string"),
          ("divisibleBy", .object
            [ ("type", .text "number"), ("minimum", .int 0), ("exclusiveMinimum", .bool true),
              ("default", .int 1) ]),
          ("disallow", .object
            [ ("type", .list [.text "string", .text "array"]),
              ("items", .object [("type", .list [.text "string", reference "#"])]),
              ("uniqueItems", .bool true) ]),
          ("extends", .object
            [ ("type", .list [reference "#", .text "array"]), ("items", reference "#"),
              ("default", .object []) ]),
          ("id", typed "string"), ("$ref", typed "string"), ("$schema", formatted "uri") ]),
      ("dependencies", .object
        [ ("exclusiveMinimum", .text "minimum"), ("exclusiveMaximum", .text "maximum") ]),
      ("default", .object []) ]

/-! ## Draft 4 -/

/-- The schema of the schemas of draft 4. -/
def draft4 : Value :=
  .object
    [ ("id", .text "http://json-schema.org/draft-04/schema#"),
      ("$schema", .text "http://json-schema.org/draft-04/schema#"),
      ("description", .text "Core schema meta-schema"),
      ("definitions", .object
        [ ("schemaArray", .object
            [ ("type", .text "array"), ("minItems", .int 1), ("items", reference "#") ]),
          ("positiveInteger", .object [("type", .text "integer"), ("minimum", .int 0)]),
          ("positiveIntegerDefault0", .object
            [ ("allOf", .list
                [ reference "#/definitions/positiveInteger", .object [("default", .int 0)] ]) ]),
          ("simpleTypes", .object [("enum", .list (simpleTypes.map .text))]),
          ("stringArray", .object
            [ ("type", .text "array"), ("items", typed "string"), ("minItems", .int 1),
              ("uniqueItems", .bool true) ]) ]),
      ("type", .text "object"),
      ("properties", record
        [ ("id", formatted "uri"), ("$schema", formatted "uri"), ("title", typed "string"),
          ("description", typed "string"), ("default", .object []),
          ("multipleOf", .object
            [ ("type", .text "number"), ("minimum", .int 0), ("exclusiveMinimum", .bool true) ]),
          ("maximum", typed "number"), ("exclusiveMaximum", typed "boolean"),
          ("minimum", typed "number"), ("exclusiveMinimum", typed "boolean"),
          ("maxLength", reference "#/definitions/positiveInteger"),
          ("minLength", reference "#/definitions/positiveIntegerDefault0"),
          ("pattern", formatted "regex"),
          ("additionalItems", .object
            [ ("anyOf", .list [typed "boolean", reference "#"]), ("default", .object []) ]),
          ("items", .object
            [ ("anyOf", .list [reference "#", reference "#/definitions/schemaArray"]),
              ("default", .object []) ]),
          ("maxItems", reference "#/definitions/positiveInteger"),
          ("minItems", reference "#/definitions/positiveIntegerDefault0"),
          ("uniqueItems", switch), ("maxProperties", reference "#/definitions/positiveInteger"),
          ("minProperties", reference "#/definitions/positiveIntegerDefault0"),
          ("required", reference "#/definitions/stringArray"),
          ("additionalProperties", .object
            [ ("anyOf", .list [typed "boolean", reference "#"]), ("default", .object []) ]),
          ("definitions", tableOf (reference "#")), ("properties", tableOf (reference "#")),
          ("patternProperties", tableOf (reference "#")),
          ("dependencies", .object
            [ ("type", .text "object"),
              ("additionalProperties", .object
                [ ("anyOf", .list [reference "#", reference "#/definitions/stringArray"]) ]) ]),
          ("enum", typed "array"),
          ("type", .object
            [ ("anyOf", .list
                [ reference "#/definitions/simpleTypes",
                  .object
                    [ ("type", .text "array"), ("items", reference "#/definitions/simpleTypes"),
                      ("minItems", .int 1), ("uniqueItems", .bool true) ] ]) ]),
          ("format", typed "string"), ("allOf", reference "#/definitions/schemaArray"),
          ("anyOf", reference "#/definitions/schemaArray"),
          ("oneOf", reference "#/definitions/schemaArray"), ("not", reference "#") ]),
      ("dependencies", .object
        [ ("exclusiveMaximum", .list [.text "maximum"]),
          ("exclusiveMinimum", .list [.text "minimum"]) ]),
      ("default", .object []) ]

/-! ## Draft 6 -/

/-- The schema of the schemas of draft 6. -/
def draft6 : Value :=
  .object
    [ ("$schema", .text "http://json-schema.org/draft-06/schema#"),
      ("$id", .text "http://json-schema.org/draft-06/schema#"),
      ("title", .text "Core schema meta-schema"), ("definitions", .object definitions),
      ("type", .list [.text "object", .text "boolean"]),
      ("properties", record
        [ ("$id", formatted "uri-reference"), ("$schema", formatted "uri"),
          ("$ref", formatted "uri-reference"), ("title", typed "string"),
          ("description", typed "string"), ("default", .object []),
          ("examples", .object [("type", .text "array"), ("items", .object [])]),
          ("multipleOf", .object [("type", .text "number"), ("exclusiveMinimum", .int 0)]),
          ("maximum", typed "number"), ("exclusiveMaximum", typed "number"),
          ("minimum", typed "number"), ("exclusiveMinimum", typed "number"),
          ("maxLength", reference "#/definitions/nonNegativeInteger"),
          ("minLength", reference "#/definitions/nonNegativeIntegerDefault0"),
          ("pattern", formatted "regex"), ("additionalItems", reference "#"),
          ("items", .object
            [ ("anyOf", .list [reference "#", reference "#/definitions/schemaArray"]),
              ("default", .object []) ]),
          ("maxItems", reference "#/definitions/nonNegativeInteger"),
          ("minItems", reference "#/definitions/nonNegativeIntegerDefault0"),
          ("uniqueItems", switch), ("contains", reference "#"),
          ("maxProperties", reference "#/definitions/nonNegativeInteger"),
          ("minProperties", reference "#/definitions/nonNegativeIntegerDefault0"),
          ("required", reference "#/definitions/stringArray"),
          ("additionalProperties", reference "#"), ("definitions", tableOf (reference "#")),
          ("properties", tableOf (reference "#")),
          ("patternProperties", .object
            [ ("type", .text "object"), ("additionalProperties", reference "#"),
              ("propertyNames", .object [("format", .text "regex")]), ("default", .object []) ]),
          ("dependencies", .object
            [ ("type", .text "object"),
              ("additionalProperties", .object
                [ ("anyOf", .list [reference "#", reference "#/definitions/stringArray"]) ]) ]),
          ("propertyNames", reference "#"), ("const", .object []), ("enum", typed "array"),
          ("type", .object
            [ ("anyOf", .list
                [ reference "#/definitions/simpleTypes",
                  .object
                    [ ("type", .text "array"), ("items", reference "#/definitions/simpleTypes"),
                      ("minItems", .int 1), ("uniqueItems", .bool true) ] ]) ]),
          ("format", typed "string"), ("allOf", reference "#/definitions/schemaArray"),
          ("anyOf", reference "#/definitions/schemaArray"),
          ("oneOf", reference "#/definitions/schemaArray"), ("not", reference "#") ]),
      ("default", .object []) ]

/-! ## Draft 7 -/

/-- The schema of the schemas of draft 7. -/
def draft7 : Value :=
  .object
    [ ("$schema", .text "http://json-schema.org/draft-07/schema#"),
      ("$id", .text "http://json-schema.org/draft-07/schema#"),
      ("title", .text "Core schema meta-schema"), ("definitions", .object definitions),
      ("type", .list [.text "object", .text "boolean"]),
      ("properties", record
        [ ("$id", formatted "uri-reference"), ("$schema", formatted "uri"),
          ("$ref", formatted "uri-reference"), ("$comment", typed "string"),
          ("title", typed "string"), ("description", typed "string"), ("default", .bool true),
          ("readOnly", switch),
          ("examples", .object [("type", .text "array"), ("items", .bool true)]),
          ("multipleOf", .object [("type", .text "number"), ("exclusiveMinimum", .int 0)]),
          ("maximum", typed "number"), ("exclusiveMaximum", typed "number"),
          ("minimum", typed "number"), ("exclusiveMinimum", typed "number"),
          ("maxLength", reference "#/definitions/nonNegativeInteger"),
          ("minLength", reference "#/definitions/nonNegativeIntegerDefault0"),
          ("pattern", formatted "regex"), ("additionalItems", reference "#"),
          ("items", .object
            [ ("anyOf", .list [reference "#", reference "#/definitions/schemaArray"]),
              ("default", .bool true) ]),
          ("maxItems", reference "#/definitions/nonNegativeInteger"),
          ("minItems", reference "#/definitions/nonNegativeIntegerDefault0"),
          ("uniqueItems", switch), ("contains", reference "#"),
          ("maxProperties", reference "#/definitions/nonNegativeInteger"),
          ("minProperties", reference "#/definitions/nonNegativeIntegerDefault0"),
          ("required", reference "#/definitions/stringArray"),
          ("additionalProperties", reference "#"), ("definitions", tableOf (reference "#")),
          ("properties", tableOf (reference "#")),
          ("patternProperties", .object
            [ ("type", .text "object"), ("additionalProperties", reference "#"),
              ("propertyNames", .object [("format", .text "regex")]), ("default", .object []) ]),
          ("dependencies", .object
            [ ("type", .text "object"),
              ("additionalProperties", .object
                [ ("anyOf", .list [reference "#", reference "#/definitions/stringArray"]) ]) ]),
          ("propertyNames", reference "#"), ("const", .bool true),
          ("enum", .object [("type", .text "array"), ("items", .bool true)]),
          ("type", .object
            [ ("anyOf", .list
                [ reference "#/definitions/simpleTypes",
                  .object
                    [ ("type", .text "array"), ("items", reference "#/definitions/simpleTypes"),
                      ("minItems", .int 1), ("uniqueItems", .bool true) ] ]) ]),
          ("format", typed "string"), ("contentMediaType", typed "string"),
          ("contentEncoding", typed "string"), ("if", reference "#"), ("then", reference "#"),
          ("else", reference "#"), ("allOf", reference "#/definitions/schemaArray"),
          ("anyOf", reference "#/definitions/schemaArray"),
          ("oneOf", reference "#/definitions/schemaArray"), ("not", reference "#") ]),
      ("default", .bool true) ]

end Metaschema

end DocStore
