import DocStore.Schema.Address
import DocStore.Value.Access

/-!
# Drafts of the schema language

A schema is written in one of six drafts.  It names its draft by an address; a schema
that names none, or an unknown one, is of the draft in force around it.
-/

namespace DocStore

/-- A draft of the schema language. -/
inductive Draft where
  | three
  | four
  | six
  | seven
  | of2019
  | of2020
deriving DecidableEq, Repr

namespace Draft

def all : List Draft := [three, four, six, seven, of2019, of2020]

def address : Draft → String
  | three => "http://json-schema.org/draft-03/schema"
  | four => "http://json-schema.org/draft-04/schema"
  | six => "http://json-schema.org/draft-06/schema"
  | seven => "http://json-schema.org/draft-07/schema"
  | of2019 => "https://json-schema.org/draft/2019-09/schema"
  | of2020 => "https://json-schema.org/draft/2020-12/schema"

def ofAddress? (address : String) : Option Draft :=
  all.find? fun draft => draft.address == address

/-- The draft that the value of the naming keyword names, if it is known. -/
def ofName? : Value → Except Fault (Option Draft)
  | .text name => (Address.normal name).map ofAddress?
  | .list _ => .error .unsuitableKind
  | .object _ => .error .unsuitableKind
  | .decimal (.nan _ true _) => .error .unsuitableKind
  | .bytes content => if content.all (· < 0x80) then .ok none else .error .malformedUtf8
  | name => if name.isTruthy then .error .notAnObject else .ok none

/-- The draft in force for a schema, given the one in force around it. -/
def inForce (draft : Draft) (schema : Value) : Except Fault Draft :=
  match schema with
  | .bool _ => .ok draft
  | schema => do
      let names ← schema.holds (.text "$schema")
      if names then
        let name ← schema.fetch "$schema"
        let named ← ofName? name
        pure (named.getD draft)
      else pure draft

/-- The draft by which the parts of a schema are found, given the one around it. -/
def ofParts (draft : Draft) (schema : Value) : Except Fault Draft :=
  match schema with
  | .object members =>
      match Members.getD members "$schema" with
      | .null => .ok draft
      | .text name => .ok ((ofAddress? (Address.withoutTrailingSigns name)).getD draft)
      | .bytes _ => .error .unsuitableKind
      | _ => .error .notAnObject
  | _ => .ok draft

/-- Whether a reference hides the keywords beside it. -/
def hidesSiblings : Draft → Bool
  | of2019 => false
  | of2020 => false
  | _ => true

def keywords (draft : Draft) (schema : Value) : Except Fault Members := do
  let members ← schema.asObject
  match members.getD "$ref" with
  | .null => pure members
  | reference => pure (if draft.hidesSiblings then [(.text "$ref", reference)] else members)

/-! ## Types -/

/-- Whether a value is a number; truth values are none. -/
def isNumber : Value → Bool
  | .int _ => true
  | .float _ => true
  | .decimal _ => true
  | _ => false

/-- Whether a value is an integer.  The early drafts go by the notation, the others by
the number. -/
def isInteger (draft : Draft) : Value → Bool
  | .int _ => true
  | .float number =>
      match draft with
      | three => false
      | four => false
      | _ => (Double.ofFloat number).isIntegral
  | _ => false

/-- The test of a type, if the draft knows its name. -/
def typeTest? (draft : Draft) (name : String) : Option (Value → Bool) :=
  match name with
  | "array" => some fun value => value.kind = .list
  | "boolean" => some fun value => value.kind = .bool
  | "integer" => some draft.isInteger
  | "null" => some Value.isNull
  | "number" => some isNumber
  | "object" => some Value.isObject
  | "string" => some fun value => value.kind = .text
  | "any" => if draft = .three then some fun _ => true else none
  | _ => none

def hasType (draft : Draft) (value type : Value) : Except Fault Bool :=
  match type with
  | .text name =>
      match draft.typeTest? name with
      | some test => .ok (test value)
      | none => .error .unknownType
  | type => do
      let _ ← type.asKey
      throw .unknownType

end Draft

end DocStore
