import DocStore.Document
import DocStore.Log
import DocStore.Value.Arithmetic

/-!
# Updates

An update is an object of operators, each with the fields it changes.  The
operators are applied to a copy of the document in a fixed order, whatever their
order in the update: set, increment, push, pull, unset.
-/

namespace DocStore

def ValueKind.displayName : ValueKind → String
  | null => "NoneType"
  | bool => "bool"
  | int => "int"
  | float => "float"
  | decimal => "Decimal"
  | bytes => "bytes"
  | text => "str"
  | list => "list"
  | object => "dict"

namespace Update

/-- The recognised operators of an update with their operands.  An operator that
is given twice counts once, with its last operand. -/
abbrev Operators := List (UpdateOperator × Value)

def setOperand (operator : UpdateOperator) (operand : Value) : Operators → Operators
  | [] => [(operator, operand)]
  | (known, old) :: operators =>
      if known = operator then (known, operand) :: operators
      else (known, old) :: setOperand operator operand operators

/-- The operand of an operator, if the update has it. -/
def operand? (operator : UpdateOperator) : Operators → Option Value
  | [] => none
  | (known, operand) :: operators =>
      if known = operator then some operand else operand? operator operators

def entry (text : String) : LogEntry := { level := .debug, component := .update, text }

def collect (strict : Bool) (operators : Operators) : Members → Logged Operators
  | [] => pure operators
  | (key, operand) :: update => do
      let key := key.shown
      match UpdateOperator.ofKey? key with
      | some operator => collect strict (setOperand operator operand operators) update
      | none =>
          if strict then Logged.fail (.unsupported key "update")
          else do
            Logged.note (entry ("Skipping unsupported update operator '" ++ key ++ "'"))
            collect strict operators update

/-- The fields that an operand of unset names: the keys of an object, or the
elements of a list, each of which can be a key. -/
def unsetOperand : Value → Except Fault Value
  | .list items => do
      let keys ← items.mapM Value.asKey
      pure (.object (Members.ofPairs (keys.map fun key => (key, Value.text ""))))
  | operand => .ok operand

/-- The value of a field before an increment; a missing field and null count as
zero. -/
def countedFrom (document : Members) (field : Key) : Value :=
  match document.get? field with
  | none => .int 0
  | some .null => .int 0
  | some value => value

def cannotIncrement (field : Key) (current : Value) : StoreError :=
  .invalidUpdate
    ("Cannot apply $inc to field '" ++ field.shown ++ "' holding " ++ current.kind.displayName)
    field.shown (some (.fault .unsuitableKind))

def incrementField (document : Members) (field : Key) (amount : Value) :
    Except Failure Members :=
  let current := countedFrom document field
  match current.add amount with
  | .ok sum => .ok (document.set field sum)
  | .error .unsuitableKind => .error (.store (cannotIncrement field current))
  | .error fault => .error (.fault fault)

/-- Appends an item to the list at a field; any other value there is replaced. -/
def pushField (document : Members) (field : Key) (item : Value) : Members :=
  match document.get? field with
  | some (.list items) => document.set field (.list (items ++ [item]))
  | _ => document.set field (.list [item])

/-- Removes the items of a list that equal an operand of the same kind. -/
def pullItems (operand : Value) : List Value → Except Fault (List Value)
  | [] => .ok []
  | item :: items => do
      let same ← item.compareWithinKind operand
      let kept ← pullItems operand items
      pure (if same then kept else item :: kept)

/-- Removes matching items from the list at a field. -/
def pullField (document : Members) (field : Key) (operand : Value) : Except Fault Members :=
  match document.get? field with
  | some (.list items) =>
      (pullItems operand items).map fun kept => document.set field (.list kept)
  | _ => .ok document

def applyFields (document operand : Members) : UpdateOperator → Except Failure Members
  | .set => .ok (document.merge operand)
  | .increment =>
      operand.foldlM (fun document change => incrementField document change.1 change.2) document
  | .push =>
      .ok (operand.foldl (fun document change => pushField document change.1 change.2) document)
  | .pull =>
      (operand.foldlM (fun document change => pullField document change.1 change.2)
        document).mapError .fault
  | .unset =>
      .ok (operand.foldl (fun document change => document.erase change.1) document)

def fields (operator : UpdateOperator) (operand : Value) : Except Fault Value :=
  match operator with
  | .unset => unsetOperand operand
  | _ => .ok operand

/-- Applies one operator if the update has it; an operand without fields is
reported and ignored. -/
def applyOperator (operators : Operators) (document : Members) (operator : UpdateOperator) :
    Logged Members := do
  match operand? operator operators with
  | none => pure document
  | some operand =>
      match ← Logged.ofFault (fields operator operand) with
      | .object changes =>
          match applyFields document changes operator with
          | .ok updated => pure updated
          | .error failure => throw failure
      | _ => do
          Logged.note (entry ("Ignoring " ++ operator.key ++ ": operand is not a mapping"))
          pure document

/-- The document after an update; the old document is left as it was. -/
def apply (strict : Bool) (document update : Value) : Logged Members := do
  let changes ← Logged.ofFault update.asObject
  let operators ← collect strict [] changes
  let members ← Logged.ofFault document.toMembers
  UpdateOperator.applicationOrder.foldlM (applyOperator operators) members

end Update

end DocStore
