import DocStore.Json.Encode
import DocStore.Operator
import DocStore.Sql.Dialect

/-!
# Conditions

A filter means a condition on one document: tests of single fields under
negation, conjunction and disjunction.  The condition does not depend on the
dialect.  Entries of a filter that contribute nothing stay in it as notes, so
one traversal yields the text, the bound values and what is reported about the
filter, all in the same order.
-/

namespace DocStore

inductive FieldTest where
  /-- The field is missing or null. -/
  | absent (path : String)
  /-- The field has a value other than null. -/
  | present (path : String)
  /-- The field equals a scalar. -/
  | equals (path : String) (operand : Value)
  /-- The field stands in an order to an operand. -/
  | ordered (path : String) (comparison : Comparison) (operand : Value)
  /-- The field equals a list or an object as JSON. -/
  | sameJson (path : String) (operand : Value)
  /-- The field equals one of several scalars of one type. -/
  | oneOf (path : String) (type : JsonType) (operands : List Value)
  /-- No document passes. -/
  | never

/-- An entry of a filter that contributes nothing. -/
inductive FilterNote where
  | unsupported (operator : String)
  | notSequence (operator path : String)
deriving DecidableEq, Repr

inductive Condition where
  | test (test : FieldTest)
  | note (note : FilterNote)
  | enclosed (inner : Condition)
  /-- Holds where the inner condition is false or unknown. -/
  | negation (inner : Condition)
  | conjunction (parts : List Condition)
  | disjunction (parts : List Condition)

/-- What compiling a condition does, step by step. -/
inductive FilterEvent where
  | bind (value : Value)
  | note (note : FilterNote)
  /-- An operand without a JSON text. -/
  | unwritable (fault : Fault)

namespace FieldTest

open Sql

def fragment (dialect : Dialect) : FieldTest → Fragment
  | absent path => dialect.isNull path
  | present path => dialect.isNotNull path
  | equals path operand =>
      dialect.comparable path operand ++ [.raw " = ", .parameter operand.boundForm]
  | ordered path comparison operand =>
      dialect.comparable path operand
        ++ [.raw (" " ++ comparison.sign ++ " "), .parameter operand.boundForm]
  | sameJson path operand =>
      dialect.jsonPath path
        ++ [.raw " = ", .document (String.ofList (Json.write operand))]
  | oneOf path type operands =>
      dialect.typedValue path type ++ .raw " IN "
        :: Fragment.parenthesised
          (Fragment.joined ", " (operands.map fun operand => [.parameter operand.boundForm]))
  | never => [.raw "1 = 0"]

/-- The values that a test binds; an operand without a JSON text ends the
compilation. -/
def events : FieldTest → List FilterEvent
  | equals _ operand => [.bind operand.boundForm]
  | ordered _ _ operand => [.bind operand.boundForm]
  | sameJson _ operand =>
      match Json.encode operand with
      | .ok text => [.bind (.text text)]
      | .error fault => [.unwritable fault]
  | oneOf _ _ operands => operands.map fun operand => .bind operand.boundForm
  | _ => []

end FieldTest

namespace Condition

open Sql

mutual

/-- The text of a condition, or nothing if no part of it contributes. -/
def fragment? (dialect : Dialect) : Condition → Option Fragment
  | test fieldTest => some (fieldTest.fragment dialect)
  | note _ => none
  | enclosed inner => (inner.fragment? dialect).map Fragment.parenthesised
  | negation inner =>
      (inner.fragment? dialect).map fun text =>
        .raw "NOT COALESCE((" :: (text ++ [.raw "), FALSE)"])
  | conjunction parts =>
      match fragments dialect parts with
      | [] => none
      | texts => some (Fragment.joined " AND " texts)
  | disjunction parts =>
      match fragments dialect parts with
      | [] => none
      | texts => some (Fragment.joined " OR " texts)

/-- The texts of the parts that contribute. -/
def fragments (dialect : Dialect) : List Condition → List Fragment
  | [] => []
  | part :: parts =>
      match part.fragment? dialect with
      | some text => text :: fragments dialect parts
      | none => fragments dialect parts

end

mutual

/-- Everything that compiling a condition does, in order. -/
def events : Condition → List FilterEvent
  | test fieldTest => fieldTest.events
  | note filterNote => [.note filterNote]
  | enclosed inner => inner.events
  | negation inner => inner.events
  | conjunction parts => eventsList parts
  | disjunction parts => eventsList parts

def eventsList : List Condition → List FilterEvent
  | [] => []
  | part :: parts => part.events ++ eventsList parts

end

end Condition

end DocStore
