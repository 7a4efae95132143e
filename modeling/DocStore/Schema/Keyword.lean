import DocStore.Schema.Keyword.Combination
import DocStore.Schema.Keyword.List
import DocStore.Schema.Keyword.Number
import DocStore.Schema.Keyword.Object

/-!
# Keywords of schemas

Every draft knows some keywords; all others say nothing.
-/

namespace DocStore

namespace Draft

/-- The keywords that all drafts know. -/
def commonKeywords : List String :=
  [ "$ref", "additionalProperties", "enum", "format", "items", "maxItems", "maxLength",
    "maximum", "minItems", "minLength", "minimum", "pattern", "patternProperties", "properties",
    "type", "uniqueItems" ]

/-- The keywords of all drafts but the first. -/
def laterKeywords : List String :=
  [ "allOf", "anyOf", "maxProperties", "minProperties", "multipleOf", "not", "oneOf",
    "required" ]

/-- The keywords that came with draft 6. -/
def newerKeywords : List String :=
  ["const", "contains", "exclusiveMaximum", "exclusiveMinimum", "propertyNames"]

/-- The keywords that came with the draft of 2019. -/
def newestKeywords : List String :=
  ["dependentRequired", "dependentSchemas", "unevaluatedItems", "unevaluatedProperties"]

def knownKeywords : Draft → List String
  | three =>
      commonKeywords
        ++ ["additionalItems", "dependencies", "disallow", "divisibleBy", "extends"]
  | four => commonKeywords ++ laterKeywords ++ ["additionalItems", "dependencies"]
  | six =>
      commonKeywords ++ laterKeywords ++ newerKeywords ++ ["additionalItems", "dependencies"]
  | seven =>
      commonKeywords ++ laterKeywords ++ newerKeywords
        ++ ["additionalItems", "dependencies", "if"]
  | of2019 =>
      commonKeywords ++ laterKeywords ++ newerKeywords ++ newestKeywords
        ++ ["$recursiveRef", "additionalItems", "if"]
  | of2020 =>
      commonKeywords ++ laterKeywords ++ newerKeywords ++ newestKeywords
        ++ ["$dynamicRef", "if", "prefixItems"]

end Draft

namespace Keyword

variable (checks : SchemaChecks)

def findings (task : KeywordTask) (name : String) : List Finding :=
  onAny checks task name
    ++ (match task.value with
        | .text content => onText task name content
        | .list items => onList checks task items name
        | .object members => onObject checks task members name
        | value => if Draft.isNumber value then onNumber task name else [])

/-- The findings of some keywords of a schema, in order. -/
def allFindings (scope : SchemaScope) (schema keywords : Members) (value : Value) :
    List Finding :=
  keywords.flatMap fun (key, operand) =>
    match key with
    | .text name =>
        if scope.draft.knownKeywords.contains name then
          findings checks { scope, schema, operand, value } name
        else []
    | _ => []

end Keyword

end DocStore
