import DocStore.Schema.Keyword.Evaluated
import DocStore.Schema.Order

/-!
# Keywords on lists
-/

namespace DocStore

namespace Keyword

variable (checks : SchemaChecks) (task : KeywordTask) (items : List Value)

/-- Elements that have a schema each. -/
def itemsInTurn : List Finding :=
  Finding.attempt task.operand.walk fun schemas => insidePairs checks task 0 schemas items

/-- Elements behind those that have a schema of their own; the schema `false` is told by
the number of elements that are too many. -/
def itemsBehind : List Finding :=
  Finding.attempt (((task.schema.get? "prefixItems").getD (.list [])).size) fun before =>
    let extra := items.drop before
    if extra.isEmpty then []
    else
      match task.operand with
      | .bool false =>
          [ .here ("Expected at most " ++ toString before
              ++ (if before = 1 then " item" else " items") ++ " but found "
              ++ toString extra.length ++ " extra: "
              ++ (match extra with
                | [single] => single.wording
                | extra => (Value.list extra).wording)) ]
      | schema => insideItems checks task schema before extra

/-- The schema of the elements, or a list of schemas for the elements in turn. -/
def itemSchemas : List Finding :=
  let isList := match task.scope.draft with
    | .three => !task.operand.isObject
    | .four => !task.operand.isObject
    | _ => task.operand matches .list _
  if task.scope.draft = .of2020 then itemsBehind checks task items
  else if isList then itemsInTurn checks task items
  else insideItems checks task task.operand 0 items

/-- Elements beyond those that have a schema of their own. -/
def additionalItems : List Finding :=
  match (task.schema.get? "items").getD (.object []) with
  | .object _ => []
  | schemas =>
      Finding.attempt schemas.size fun before =>
        let extra := items.drop before
        match task.operand with
        | .object _ => insideItems checks task task.operand before extra
        | operand =>
            Finding.require (operand.isTruthy || extra.isEmpty)
              ("Additional items are not allowed " ++ unexpected extra)

/-- Some element must be accepted by a schema. -/
def someItem : List Finding :=
  require (items.anyM fun item => accepts checks task task.operand item)
    ("None of " ++ task.value.wording ++ " are valid under the given schema")

/-- Counts the elements that a schema accepts, up to the first one that is too many. -/
def countAccepted (most : Value) (count : Nat) : List Value → Except Fault (Nat × Bool)
  | [] => .ok (count, false)
  | item :: items => do
      let accepted ← accepts checks task task.operand item
      if accepted then
        let tooMany ← most.isBelow (.natural (count + 1))
        if tooMany then pure (count + 1, true) else countAccepted most (count + 1) items
      else countAccepted most count items

/-- The number of elements that a schema accepts lies between two bounds. -/
def countedItems : List Finding :=
  let least := (task.schema.get? "minContains").getD (.int 1)
  let most := (task.schema.get? "maxContains").getD (.natural items.length)
  Finding.attempt
    (do
      let _ ← task.scope.replaced task.operand
      countAccepted checks task most 0 items)
    fun (count, tooMany) =>
      if tooMany then
        [ .here ("Too many items match the given schema (expected at most "
            ++ most.plainWording ++ ")") ]
      else
        forbid ((Value.natural count).isBelow least)
          (if count = 0 then
            task.value.wording ++ " does not contain items matching the given schema"
          else
            "Too few items match the given schema (expected at least " ++ least.plainWording
              ++ " but only " ++ toString count ++ " matched)")

/-- Elements must be distinct. -/
def uniqueItems : List Finding :=
  if task.operand.isTruthy then
    require (areDistinct items) (task.value.wording ++ " has non-unique elements")
  else []

def onList (name : String) : List Finding :=
  match name with
  | "items" => itemSchemas checks task items
  | "prefixItems" => itemsInTurn checks task items
  | "additionalItems" => additionalItems checks task items
  | "unevaluatedItems" => unevaluatedItems checks task items
  | "contains" =>
      match task.scope.draft with
      | .six => someItem checks task items
      | .seven => someItem checks task items
      | _ => countedItems checks task items
  | "minItems" => atLeast task items.length " is too short"
  | "maxItems" => atMost task items.length " is too long"
  | "uniqueItems" => uniqueItems task items
  | _ => []

end Keyword

end DocStore
