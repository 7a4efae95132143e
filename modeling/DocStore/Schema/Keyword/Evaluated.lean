import DocStore.Schema.Keyword.Basic

/-!
# Evaluated parts of a value

Some keywords speak about the elements and the members that no other keyword of a schema
reached, neither directly nor through the schemas that it refers to and whose conditions
the value meets.
-/

namespace DocStore

namespace Keyword

variable (checks : SchemaChecks)

/-- The schemas that a schema refers to beside its keywords. -/
def referredSchemas (scope : SchemaScope) (schema : Members) :
    Except Fault (List (Value × Viewpoint)) := do
  let follow (keyword : String) : Except Fault (List (Value × Viewpoint)) :=
    match schema.getD keyword with
    | .null => .ok []
    | reference => do
        let reference ← SchemaResource.addressText reference
        let found ← scope.viewpoint.lookUp reference
        pure [found]
  let referred ← follow "$ref"
  let further ←
    if scope.draft = .of2020 then follow "$dynamicRef"
    else if schema.contains "$recursiveRef" then do
      let found ← scope.viewpoint.lookUpRecursively
      pure [found]
    else pure []
  pure (referred ++ further)

/-- The schemas of a condition that apply to a value: the condition and its consequence,
or the alternative. -/
def conditionSchemas (scope : SchemaScope) (schema : Members) (value : Value) :
    Except Fault (List Value) :=
  match schema.get? "if" with
  | none => .ok []
  | some condition => do
      let holds ← Finding.valid (checks.replace scope condition value)
      pure (if holds then condition :: (schema.get? "then").toList
        else (schema.get? "else").toList)

/-- The schemas of the combining keywords that accept a value. -/
def acceptingSchemas (scope : SchemaScope) (schema : Members) (value : Value) :
    Except Fault (List Value) := do
  let combined ← ["allOf", "oneOf", "anyOf"].mapM fun (keyword : String) =>
    match schema.get? keyword with
    | some schemas => schemas.walk
    | none => pure []
  combined.flatten.filterM fun part => Finding.valid (checks.descend scope none part value)

/-! ## Elements -/

def acceptedPositions (scope : SchemaScope) (schema : Value) (items : List Value) :
    Except Fault (List Nat) :=
  (List.range items.length).filterM fun position =>
    Finding.valid (checks.replace scope schema (items.getD position .null))

/-- The positions that the keywords on elements reach themselves; `none` stands for all. -/
def listedPositions (draft : Draft) (schema : Members) : Except Fault (Option Nat) :=
  match schema.get? (if draft = .of2020 then "prefixItems" else "items") with
  | none => .ok (some 0)
  | some listed =>
      if draft ≠ .of2020 ∧ (schema.contains "additionalItems" ∨ listed.isObject) then .ok none
      else listed.size.map some

def evaluatedPositions : Nat → SchemaScope → Value → List Value → Except Fault (List Nat)
  | 0, _, _, _ => .error .endless
  | fuel + 1, scope, schema, items =>
      match schema with
      | .bool _ => .ok []
      | schema => do
          let members ← schema.asObject
          let everything := List.range items.length
          if scope.draft = .of2020 ∧ members.contains "items" then pure everything
          else
            let referred ← referredSchemas scope members
            let referred ← referred.mapM fun found => do
              let inner ← scope.referred found
              evaluatedPositions fuel inner found.1 items
            match ← listedPositions scope.draft members with
            | none => pure everything
            | some count =>
                let conditions ← conditionSchemas checks scope members (.list items)
                let conditions ← conditions.mapM fun part =>
                  evaluatedPositions fuel scope part items
                let accepted ← ["contains", "unevaluatedItems"].mapM fun (keyword : String) =>
                  match members.get? keyword with
                  | some part => acceptedPositions checks scope part items
                  | none => pure []
                let combined ← acceptingSchemas checks scope members (.list items)
                let combined ← combined.mapM fun part =>
                  evaluatedPositions fuel scope part items
                pure (referred.flatten ++ List.range count ++ conditions.flatten
                  ++ accepted.flatten ++ combined.flatten)

/-- Elements that no keyword reached are not allowed. -/
def unevaluatedItems (task : KeywordTask) (items : List Value) : List Finding :=
  Finding.attempt
    (evaluatedPositions checks checks.depth task.scope (.object task.schema) items)
    fun reached =>
      let positions := (List.range items.length).filter fun position =>
        !reached.contains position
      let left := positions.map fun position => items.getD position .null
      Finding.require left.isEmpty ("Unevaluated items are not allowed " ++ unexpected left)

/-! ## Members -/

def acceptedKeys (scope : SchemaScope) (schema : Value) (value : Members) :
    Except Fault (List Key) := do
  let accepted ← value.filterM fun member =>
    Finding.valid (checks.descend scope none schema member.2)
  pure (Members.keys accepted)

def matchedKeys (patterns : Value) (value : Members) : Except Fault (List Key) := do
  let patterns ← patterns.walk
  value.keys.filterM fun key => patterns.anyM fun pattern => occurs pattern key.toValue

/-- The schemas in a table of dependencies that apply to an object. -/
def dependentParts (dependencies : Value) (value : Members) : Except Fault (List Value) := do
  let members ← dependencies.asObject
  pure ((members.filter fun member => value.contains member.1).map Prod.snd)

def evaluatedKeys : Nat → SchemaScope → Value → Members → Except Fault (List Key)
  | 0, _, _, _ => .error .endless
  | fuel + 1, scope, schema, value =>
      match schema with
      | .bool _ => .ok []
      | schema => do
          let members ← schema.asObject
          let referred ← referredSchemas scope members
          let referred ← referred.mapM fun found => do
            let inner ← scope.referred found
            evaluatedKeys fuel inner found.1 value
          let named := match members.getD "properties" with
            | .object properties => value.keys.filter fun key => Members.contains properties key
            | _ => []
          let accepted ← ["additionalProperties", "unevaluatedProperties"].mapM fun (keyword : String) =>
            match members.getD keyword with
            | .null => pure []
            | part => acceptedKeys checks scope part value
          let matched ← match members.get? "patternProperties" with
            | some patterns => matchedKeys patterns value
            | none => pure []
          let dependent ← match members.get? "dependentSchemas" with
            | some dependencies => dependentParts dependencies value
            | none => pure []
          let dependent ← dependent.mapM fun part => evaluatedKeys fuel scope part value
          let combined ← acceptingSchemas checks scope members (.object value)
          let combined ← combined.mapM fun part => evaluatedKeys fuel scope part value
          let conditions ← conditionSchemas checks scope members (.object value)
          let conditions ← conditions.mapM fun part => evaluatedKeys fuel scope part value
          pure (referred.flatten ++ named ++ accepted.flatten ++ matched ++ dependent.flatten
            ++ combined.flatten ++ conditions.flatten)

/-- The keys of a value that no keyword reached, each once for every violation of the
schema for such members. -/
def leftKeys (task : KeywordTask) (reached : List Key) (value : Members) :
    Except Fault (List Value) := do
  let left ← (value.filter fun member => !reached.any fun key => key.same member.1).mapM
    fun member => do
      let found ← Finding.violations (inside checks task task.operand member.2)
      pure (found.map fun _ => member.1.toValue)
  pure left.flatten

/-- Members that no keyword reached must be accepted by a schema of their own. -/
def unevaluatedProperties (task : KeywordTask) (value : Members) : List Finding :=
  Finding.attempt
    (do
      let reached ←
        evaluatedKeys checks checks.depth task.scope (.object task.schema) value
      leftKeys checks task reached value)
    fun left =>
      Finding.require left.isEmpty
        (match task.operand with
          | .bool false =>
              "Unevaluated properties are not allowed " ++ unexpected (sortByText left)
          | _ =>
              "Unevaluated properties are not valid under the given schema "
                ++ unexpected left)

end Keyword

end DocStore
