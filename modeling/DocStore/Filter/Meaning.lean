import DocStore.Filter.Condition

/-!
# From filters to conditions

A filter is an object.  Its entries are conjoined; a key that names a combinator
with a well-formed operand combines sub-filters, any other key with a dollar
sign is unknown, and all other keys are field paths.  Below a field stands
either a value to equal or an object of operators.
-/

namespace DocStore

namespace Condition

/-- The field equals a value.  Null stands for a missing field too, and
containers are compared as JSON. -/
def equality (path : String) (operand : Value) : Condition :=
  match operand with
  | .null => .test (.absent path)
  | .list _ => .test (.sameJson path operand)
  | .object _ => .test (.sameJson path operand)
  | _ => .test (.equals path operand)

/-- The field does not equal a value. -/
def inequality (path : String) (operand : Value) : Condition :=
  match operand with
  | .null => .test (.present path)
  | _ => .negation (equality path operand)

/-- The type shared by all operands of a membership test, if they have one. -/
def commonType? (operands : List Value) : Option JsonType :=
  match operands with
  | [] => none
  | first :: rest =>
      first.jsonType?.bind fun type =>
        if rest.all fun operand => operand.jsonType? == some type then some type else none

/-- The field equals one of several values, without parentheses around the
whole. -/
def membership (path : String) (operands : List Value) : Condition :=
  match commonType? operands with
  | some type => .test (.oneOf path type operands)
  | none => .disjunction (operands.map fun operand => .enclosed (equality path operand))

/-- The field is in a list, or outside it.  Nothing is a member of an empty
list. -/
def listed (path operator : String) (negated : Bool) (operand : Value) : Condition :=
  match operand.sequence? with
  | none => .note (.notSequence operator path)
  | some [] => if negated then .conjunction [] else .enclosed (.test .never)
  | some operands =>
      if negated then .enclosed (.negation (membership path operands))
      else .enclosed (membership path operands)

end Condition

namespace Filter

mutual

/-- The condition of a field and what stands below it. -/
def fieldCondition (path : String) : Value → Condition
  | .object operators => .conjunction (operatorConditions path operators)
  | operand => .enclosed (Condition.equality path operand)

def operatorConditions (path : String) : List (Key × Value) → List Condition
  | [] => []
  | (key, operand) :: operators =>
      let key := key.shown
      (match FieldOperator.ofKey? key with
        | some .equal => .enclosed (Condition.equality path operand)
        | some .unequal => .enclosed (Condition.inequality path operand)
        | some (.ordered comparison) => .enclosed (.test (.ordered path comparison operand))
        | some .oneOf => Condition.listed path (canonicalKey key) false operand
        | some .noneOf => Condition.listed path (canonicalKey key) true operand
        | some .not => .enclosed (.negation (fieldCondition path operand))
        | none => .note (.unsupported (canonicalKey key)))
      :: operatorConditions path operators

end

/-- The condition of an entry whose key names no combinator. -/
def unrecognised (key : String) (value : Value) : Condition :=
  if hasDollar key then .note (.unsupported key) else fieldCondition key value

mutual

/-- The condition of a filter; a value that is no object is no filter and
contributes nothing. -/
def condition : Value → Condition
  | .object entries => .conjunction (entryConditions entries)
  | _ => .conjunction []

def entryConditions : List (Key × Value) → List Condition
  | [] => []
  | (key, value) :: entries =>
      let key := key.shown
      (match Combinator.ofKey? key with
        | some .and =>
            if value.sequence?.isSome then .enclosed (.conjunction (subconditions value))
            else unrecognised key value
        | some .or =>
            if value.sequence?.isSome then .enclosed (.disjunction (subconditions value))
            else unrecognised key value
        | some .not =>
            if value.isObject then .negation (condition value)
            else unrecognised key value
        | none => unrecognised key value)
      :: entryConditions entries

/-- The enclosed conditions of the sub-filters of a combinator. -/
def subconditions : Value → List Condition
  | .list items => itemConditions items
  | _ => []

def itemConditions : List Value → List Condition
  | [] => []
  | item :: items => .enclosed (condition item) :: itemConditions items

end

end Filter

end DocStore
