import DocStore.Schema.Keyword.Basic
import DocStore.Schema.Order

/-!
# Keywords on values of every kind

Types, choices, combinations of schemas, and references.
-/

namespace DocStore

namespace Keyword

variable (checks : SchemaChecks) (task : KeywordTask)

/-! ## Types and choices -/

/-- The entries of a keyword that may hold a single one. -/
def entries : Value → Except Fault (List Value)
  | .text name => .ok [.text name]
  | names => names.walk

/-- The violation of a list of types, shown in a row. -/
def typeComplaint (shown : List Value) : Wording :=
  task.value.wording ++ " is not of type " ++ displayRow shown

def types : List Finding :=
  Finding.attempt (entries task.operand) fun names =>
    require (names.anyM fun name => task.scope.draft.hasType task.value name)
      (typeComplaint task names)

/-- Whether a type of the first draft, which may be a schema, accepts the value. -/
def acceptsType (type : Value) : Except Fault Bool :=
  match type with
  | .text "any" => .ok true
  | .object _ => (Finding.violations (inside checks task type task.value)).map List.isEmpty
  | type => task.scope.draft.hasType task.value type

/-- A type of the first draft as it is shown: a schema by its name, if it has one. -/
def shownType : Value → Value
  | .object members => (Members.get? "name" members).getD (.object members)
  | type => type

def typesOrSchemas : List Finding :=
  Finding.attempt (entries task.operand) fun names =>
    require (names.anyM (acceptsType checks task))
      (typeComplaint task (names.map shownType))

/-- Types and schemas that must not accept the value. -/
def disallowed : List Finding :=
  Finding.attempt (entries task.operand) fun names =>
    names.flatMap fun name =>
      forbid (accepts checks task (.object [("type", .list [name])]) task.value)
        (name.wording ++ " is disallowed for " ++ task.value.wording)

/-- One of some values. -/
def enumeration : List Finding :=
  Finding.attempt task.operand.walk fun options =>
    require (options.anyM fun option => option.compareJson task.value)
      (task.value.wording ++ " is not one of " ++ task.operand.wording)

/-- A single value. -/
def constant : List Finding :=
  require (task.value.compareJson task.operand) (task.operand.wording ++ " was expected")

/-! ## Combinations -/

def everySchema : List Finding :=
  Finding.attempt task.operand.walk fun schemas =>
    schemas.flatMap fun schema => inside checks task schema task.value

/-- A schema of the first draft or a list of schemas, all of which count. -/
def extended : List Finding :=
  match task.operand with
  | .object _ => inside checks task task.operand task.value
  | _ => everySchema checks task

/-- The first schema of a list that accepts the value, and the schemas after it. -/
def firstAccepting? : List Value → Except Fault (Option (Value × List Value))
  | [] => .ok none
  | schema :: schemas => do
      let found ← Finding.violations (inside checks task schema task.value)
      if found.isEmpty then pure (some (schema, schemas)) else firstAccepting? schemas

/-- The violation of a list of schemas none of which accepts the value. -/
def noneAccepts : Finding :=
  .here (task.value.wording ++ " is not valid under any of the given schemas")

def someSchema : List Finding :=
  Finding.attempt task.operand.walk fun schemas =>
    Finding.attempt (firstAccepting? checks task schemas) fun found =>
      match found with
      | some _ => []
      | none => [noneAccepts task]

def oneSchema : List Finding :=
  Finding.attempt task.operand.walk fun schemas =>
    Finding.attempt (firstAccepting? checks task schemas) fun found =>
      match found with
      | none => [noneAccepts task]
      | some (first, others) =>
          Finding.attempt (others.filterM fun schema => accepts checks task schema task.value)
            fun more =>
              Finding.require more.isEmpty
                (task.value.wording ++ " is valid under each of "
                  ++ displayRow (more ++ [first]))

/-- A schema that must not accept the value. -/
def negation : List Finding :=
  forbid (accepts checks task task.operand task.value)
    (task.value.wording ++ " should not be valid under " ++ task.operand.wording)

/-- A condition with a consequence and an alternative. -/
def condition : List Finding :=
  Finding.attempt (accepts checks task task.operand task.value) fun holds =>
    match task.schema.get? (if holds then "then" else "else") with
    | some next => inside checks task next task.value
    | none => []

/-! ## References -/

/-- The findings of the schema that a reference led to. -/
def atTarget (found : Except Fault (Value × Viewpoint)) : List Finding :=
  Finding.attempt found fun (schema, viewpoint) =>
    checks.descend task.scope (some viewpoint) schema task.value

/-- The fault of a reference that leads nowhere, whatever it is that does not exist. -/
def unresolved : Fault → Fault
  | .missingResource => .unresolvedReference
  | .missingPlace => .unresolvedReference
  | .missingAnchor => .unresolvedReference
  | .malformedAnchor => .unresolvedReference
  | found => found

def reference : List Finding :=
  atTarget checks task
    ((SchemaResource.addressText task.operand).bind fun reference =>
      (task.scope.viewpoint.lookUp reference).mapError unresolved)

/-- Keywords on values of every kind. -/
def onAny (name : String) : List Finding :=
  match name with
  | "$ref" => reference checks task
  | "$dynamicRef" => reference checks task
  | "$recursiveRef" => atTarget checks task task.scope.viewpoint.lookUpRecursively
  | "type" =>
      if task.scope.draft = .three then typesOrSchemas checks task else types task
  | "disallow" => disallowed checks task
  | "extends" => extended checks task
  | "enum" => enumeration task
  | "const" => constant task
  | "allOf" => everySchema checks task
  | "anyOf" => someSchema checks task
  | "oneOf" => oneSchema checks task
  | "not" => negation checks task
  | "if" => condition checks task
  | _ => []

end Keyword

end DocStore
