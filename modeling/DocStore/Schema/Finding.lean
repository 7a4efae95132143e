import DocStore.Options.Issue
import DocStore.Value.Equality
import DocStore.Value.Display

/-!
# Findings of a validation

Validation yields a stream of findings: violations with their place in the
document, or a fault that ends it.  Whether a document is valid is decided by
the first finding; a full validation reads the whole stream and orders the
violations by their places.
-/

namespace DocStore

structure Violation where
  place : Place
  message : String
deriving DecidableEq

/-- What a validation comes upon. -/
inductive Finding where
  | violation (violation : Violation)
  | fault (fault : Fault)
deriving DecidableEq

namespace Finding

/-- A violation at the place of the value that is checked; a message that cannot be
worded is a fault. -/
def here : Wording → Finding
  | .ok message => .violation { place := [], message }
  | .error found => .fault found

/-- A finding in a part of a value, seen from the value. -/
def below (step : Step) : Finding → Finding
  | violation found => .violation { found with place := step :: found.place }
  | fault found => .fault found

/-- A violation if a test fails. -/
def require (passed : Bool) (message : Wording) : List Finding :=
  if passed then [] else [here message]

/-- Whether a stream holds nothing; a fault in front of it is passed on. -/
def valid : List Finding → Except Fault Bool
  | [] => .ok true
  | violation _ :: _ => .ok false
  | fault found :: _ => .error found

def attempt {α : Type} (outcome : Except Fault α) (next : α → List Finding) : List Finding :=
  match outcome with
  | .ok answer => next answer
  | .error found => [.fault found]

/-- The violations of a stream, if no fault ends it. -/
def violations : List Finding → Except Fault (List Violation)
  | [] => .ok []
  | violation found :: findings => (violations findings).map (found :: ·)
  | fault found :: _ => .error found

end Finding

/-! ## Order of violations -/

/-- A step as a key; a position is a number. -/
def Step.position : Step → Key
  | .key name => name
  | .index number => .int number
  | .keyItself => .null

/-- Decides about two places by the steps at which they part; a place comes before the
places below it. -/
def decideParting (decide : Key → Key → Bool) (reachesEnd : Bool) : Place → Place → Bool
  | [], [] => false
  | [], _ :: _ => true
  | _ :: _, [] => reachesEnd
  | left :: lefts, right :: rights =>
      if left.position.same right.position then decideParting decide reachesEnd lefts rights
      else decide left.position right.position

/-- Whether two places have an order. -/
def areOrderedPlaces (left right : Place) : Bool :=
  left = right || decideParting Key.areOrdered true left right

def placeLess (left right : Place) : Bool := decideParting Key.less false left right

/-- Violations in the order of their places; those at one place stay in order.  Any two
places must have an order. -/
def sortViolations (violations : List Violation) : Except Fault (List Violation) :=
  if violations.all fun left =>
      violations.all fun right => areOrderedPlaces left.place right.place then
    .ok (violations.mergeSort fun left right => !placeLess right.place left.place)
  else .error .unsuitableKind

/-! ## Validators

The store checks documents by a library.  It makes a validator of every schema that the
library finds nothing wrong with.
-/

/-- What a validator comes upon in a document, in its own order. -/
abbrev Validator := Value → List Finding

namespace Validator

variable (validator : Validator)

def accepts (document : Value) : Except Fault Bool := Finding.valid (validator document)

/-- The violations of a document in the order of their places. -/
def violations (document : Value) : Except Fault (List Violation) := do
  let found ← Finding.violations (validator document)
  sortViolations found

end Validator

structure SchemaLibrary where
  /-- What is wrong with a schema. -/
  review : Value → List Finding
  /-- The validator of a well-formed schema. -/
  validator : Value → Validator

end DocStore
