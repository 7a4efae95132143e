import DocStore.Pattern.Match
import DocStore.Pattern.Reader
import DocStore.Schema.Finding
import DocStore.Schema.Order
import DocStore.Schema.Reference

/-!
# Keywords at work

A keyword of a schema constrains values of certain kinds and says nothing about others.
The parts of a schema are checked through `SchemaChecks`, so that what a keyword demands
is said once and without recursion.
-/

namespace DocStore

/-- In what surroundings a schema is checked: the draft in force, from where references
are seen, and whether the formats of texts count. -/
structure SchemaScope where
  draft : Draft
  viewpoint : Viewpoint
  formats : Bool

/-- How the parts of a schema check parts of a value. -/
structure SchemaChecks where
  /-- The findings of a schema inside of the one at hand, or of one that a reference led
  to, seen from a viewpoint of its own. -/
  descend : SchemaScope → Option Viewpoint → Value → Value → List Finding
  /-- The findings of a schema in the place of the one at hand. -/
  replace : SchemaScope → Value → Value → List Finding
  /-- A bound for the depth of what follows. -/
  depth : Nat

/-- A keyword with its operand, its schema and the value that it checks. -/
structure KeywordTask where
  scope : SchemaScope
  schema : Members
  operand : Value
  value : Value

namespace SchemaScope

/-- The surroundings inside of a schema that takes the place of the one at hand; the
schema must have keywords that can be read. -/
def replaced (scope : SchemaScope) (schema : Value) : Except Fault SchemaScope := do
  let draft ← scope.draft.inForce schema
  match schema with
  | .bool _ => pure { scope with draft }
  | schema => do
      let _ ← draft.keywords schema
      pure { scope with draft }

/-- The surroundings inside of a schema that a reference led to. -/
def referred (scope : SchemaScope) (found : Value × Viewpoint) : Except Fault SchemaScope :=
  { scope with viewpoint := found.2 }.replaced found.1

end SchemaScope

namespace Keyword

def displayRow (values : List Value) : Wording :=
  Wording.row ", " (values.map Value.wording)

/-- What was unexpected, in a row, with its verb. -/
def unexpected (values : List Value) : Wording :=
  "(" ++ displayRow values ++ (if values.length = 1 then " was" else " were") ++ " unexpected)"

def occurs (pattern : Value) (subject : Value) : Except Fault Bool :=
  match pattern with
  | .text pattern => do
      let pattern ← Pattern.read pattern
      match subject with
      | .text content => pure (pattern.occursIn content)
      | _ => throw .unsuitableKind
  | _ => .error .unsuitableKind

def sortByText (names : List Value) : List Value :=
  names.mergeSort fun left right => decide (left.plainText ≤ right.plainText)

/-- A violation if a test fails; a fault of the test is passed on. -/
def require (test : Except Fault Bool) (message : Wording) : List Finding :=
  Finding.attempt test fun passed => Finding.require passed message

/-- A violation if a test succeeds. -/
def forbid (test : Except Fault Bool) (message : Wording) : List Finding :=
  require (test.map not) message

variable (checks : SchemaChecks) (task : KeywordTask)

/-- Whether a schema accepts a value in the place of the one at hand. -/
def accepts (schema value : Value) : Except Fault Bool :=
  Finding.valid (checks.replace task.scope schema value)

def inside (schema value : Value) : List Finding :=
  checks.descend task.scope none schema value

/-- The findings of a part of the value at hand. -/
def insideAt (step : Step) (schema value : Value) : List Finding :=
  (inside checks task schema value).map (Finding.below step)

/-- The findings of the elements of a list from a position on. -/
def insideItems (schema : Value) (first : Nat) (items : List Value) : List Finding :=
  (items.mapIdx fun offset item =>
    insideAt checks task (.index (first + offset)) schema item).flatten

/-- The findings of the elements that have a schema of their own. -/
def insidePairs : Nat → List Value → List Value → List Finding
  | position, schema :: schemas, item :: items =>
      insideAt checks task (.index position) schema item
        ++ insidePairs (position + 1) schemas items
  | _, _, _ => []

def atLeast (length : Nat) (complaint : String) : List Finding :=
  forbid ((Value.natural length).isBelow task.operand)
    (task.value.wording
      ++ (if task.operand.equal (.int 1) then " should be non-empty" else complaint))

/-- The findings of a length that must not be above a bound. -/
def atMost (length : Nat) (complaint : String) : List Finding :=
  forbid (task.operand.isBelow (.natural length))
    (task.value.wording
      ++ (if task.operand.equal (.int 0) then " is expected to be empty" else complaint))

end Keyword

end DocStore
