import DocStore.Schema.Keyword.Evaluated

/-!
# Keywords on objects
-/

namespace DocStore

namespace Keyword

variable (checks : SchemaChecks) (task : KeywordTask) (members : Members)

def insideMember (schema : Value) (member : Key × Value) : List Finding :=
  insideAt checks task (.key member.1) schema member.2

/-- A key of the early drafts that its schema requires. -/
def requiredBySchema (property : Key × Value) : List Finding :=
  Finding.attempt (property.2.member? "required") fun required =>
    Finding.require (!(required.getD .null).isTruthy)
      (property.1.toValue.wording ++ " is a required property")
      |>.map (Finding.below (.key "required"))

/-- Members that have a schema of their own. -/
def properties : List Finding :=
  Finding.attempt task.operand.asObject fun properties =>
    properties.flatMap fun property =>
      match members.get? property.1 with
      | some part => insideMember checks task property.2 (property.1, part)
      | none => if task.scope.draft = .three then requiredBySchema property else []

/-- Members whose keys match a pattern. -/
def patternProperties : List Finding :=
  Finding.attempt task.operand.asObject fun patterns =>
    patterns.flatMap fun pattern =>
      members.flatMap fun member =>
        Finding.attempt (occurs pattern.1.toValue member.1.toValue) fun found =>
          if found then insideMember checks task pattern.2 member else []

/-- The patterns of a schema for keys, as alternatives of one pattern. -/
def keyPatterns : Except Fault String := do
  let patterns ← ((task.schema.get? "patternProperties").getD (.object [])).walk
  let patterns ← patterns.mapM fun pattern =>
    match pattern with
    | .text pattern => pure pattern
    | _ => throw .unsuitableKind
  pure (String.intercalate "|" patterns)

/-- The keys that neither the properties nor the patterns of a schema name. -/
def additionalKeys : Except Fault (List Key) := do
  let patterns ← keyPatterns task
  let named := (task.schema.get? "properties").getD (.object [])
  members.keys.filterM fun key => do
    let isNamed ← named.holds key.toValue
    if isNamed then pure false
    else if patterns.isEmpty then pure true
    else (occurs (.text patterns) key.toValue).map not

/-- Members that may not stand beside those that have a schema. -/
def additionalViolation (extras : List Value) : List Finding :=
  match task.schema.get? "patternProperties" with
  | some patterns =>
      Finding.attempt patterns.walk fun patterns =>
        [ .here (displayRow (sortByText extras)
            ++ (if extras.length = 1 then " does" else " do")
            ++ " not match any of the regexes: " ++ displayRow (sortByText patterns)) ]
  | none =>
      [.here ("Additional properties are not allowed " ++ unexpected (sortByText extras))]

/-- Members beside those that have a schema. -/
def additionalProperties : List Finding :=
  Finding.attempt (additionalKeys task members) fun extras =>
    match task.operand with
    | .object _ =>
        extras.flatMap fun key =>
          insideMember checks task task.operand (key, members.getD key)
    | operand =>
        if operand.isTruthy || extras.isEmpty then []
        else additionalViolation task (extras.map Key.toValue)

/-- A schema for the keys. -/
def propertyNames : List Finding :=
  members.keys.flatMap fun key => inside checks task task.operand key.toValue

def present (key : Value) (complaint : Wording) : List Finding :=
  require ((Value.object members).holds key) (key.wording ++ complaint)

def required : List Finding :=
  Finding.attempt task.operand.walk fun keys =>
    keys.flatMap fun key => present members key " is a required property"

/-- Keys that must be there with another one. -/
def presentWith (property : Key) (keys : List Value) : List Finding :=
  keys.flatMap fun key =>
    present members key (" is a dependency of " ++ property.toValue.wording)

/-- What one entry of the dependencies demands of an object with its key: a list of keys,
in the first draft also a single one, or a schema. -/
def dependency (entry : Key × Value) : List Finding :=
  match task.scope.draft, entry.2 with
  | .three, .object _ => inside checks task entry.2 task.value
  | .three, .text _ => presentWith members entry.1 [entry.2]
  | .three, keys => Finding.attempt keys.walk (presentWith members entry.1)
  | _, .list keys => presentWith members entry.1 keys
  | _, schema => inside checks task schema task.value

/-- What the entries of a table demand whose keys an object has. -/
def forKeysOf (demand : Key × Value → List Finding) : List Finding :=
  Finding.attempt task.operand.asObject fun entries =>
    entries.flatMap fun entry => if members.contains entry.1 then demand entry else []

def onObject (name : String) : List Finding :=
  match name with
  | "properties" => properties checks task members
  | "patternProperties" => patternProperties checks task members
  | "additionalProperties" => additionalProperties checks task members
  | "unevaluatedProperties" => unevaluatedProperties checks task members
  | "propertyNames" => propertyNames checks task members
  | "required" => required task members
  | "dependencies" => forKeysOf task members (dependency checks task members)
  | "dependentRequired" =>
      forKeysOf task members fun entry =>
        Finding.attempt entry.2.walk (presentWith members entry.1)
  | "dependentSchemas" =>
      forKeysOf task members fun entry => inside checks task entry.2 task.value
  | "minProperties" => atLeast task members.length " does not have enough properties"
  | "maxProperties" => atMost task members.length " has too many properties"
  | _ => []

end Keyword

end DocStore
