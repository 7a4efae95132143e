import DocStore.Value

/-!
# Equality of values

Two values are equal when they are the same number, the same text or bytes,
lists of equal elements, or objects with equal values at the same keys in any
order.  Numbers are compared exactly across their kinds, and truth values count
as zero and one.
-/

namespace DocStore

/-- Whether a value may not be compared with a number. -/
def Value.isSignaling : Value → Bool
  | .decimal number => number.isSignaling
  | _ => false

/-- Equality of two values that are no containers.  A signaling decimal has no
comparison with a number. -/
def Value.compareScalars : Value → Value → Except Fault Bool
  | .null, .null => .ok true
  | .text left, .text right => .ok (left == right)
  | .bytes left, .bytes right => .ok (left == right)
  | left, right =>
      match left.exactNumber?, right.exactNumber? with
      | some leftNumber, some rightNumber =>
          if left.isSignaling || right.isSignaling then .error .undefinedDecimal
          else .ok (leftNumber.equal rightNumber)
      | _, _ => .ok false

section

variable (scalars : Value → Value → Except Fault Bool)

mutual

/-- Equality of values by an equality of values that are no containers; the first
difference decides. -/
def Value.compareBy : Value → Value → Except Fault Bool
  | .list left, .list right =>
      if left.length = right.length then Value.compareListsBy left right else .ok false
  | .object left, .object right =>
      if left.length = right.length then Value.compareMembersBy left right else .ok false
  | left, right => scalars left right

def Value.compareListsBy : List Value → List Value → Except Fault Bool
  | left :: lefts, right :: rights => do
      let same ← Value.compareBy left right
      if same then Value.compareListsBy lefts rights else pure false
  | _, _ => .ok true

/-- Every member of the first object has an equal member in the second. -/
def Value.compareMembersBy : List (Key × Value) → List (Key × Value) → Except Fault Bool
  | [], _ => .ok true
  | (key, left) :: lefts, rights => do
      match Members.get? key rights with
      | some right => do
          let same ← Value.compareBy left right
          if same then Value.compareMembersBy lefts rights else pure false
      | none => pure false

end

end

/-- Equality of values, across the kinds of number. -/
def Value.compare (left right : Value) : Except Fault Bool :=
  Value.compareBy Value.compareScalars left right

def Value.equal (left right : Value) : Bool :=
  match left.compare right with
  | .ok same => same
  | .error _ => false

/-- The kinds of value that equality across kinds would confuse. -/
inductive ValueKind where
  | null | bool | int | float | decimal | bytes | text | list | object
deriving DecidableEq, Repr

def Value.kind : Value → ValueKind
  | .null => .null
  | .bool _ => .bool
  | .int _ => .int
  | .float _ => .float
  | .decimal _ => .decimal
  | .bytes _ => .bytes
  | .text _ => .text
  | .list _ => .list
  | .object _ => .object

/-- Equality of values of one kind.  Only the outermost kinds are compared:
elements of containers are equal across kinds. -/
def Value.compareWithinKind (left right : Value) : Except Fault Bool :=
  if left.kind = right.kind then left.compare right else .ok false

/-! ## Order of keys

Texts, byte strings and numbers have an order, each among themselves.
-/

/-- Whether two different keys have an order: two texts, two byte strings, or two
numbers. -/
def Key.areOrdered (left right : Key) : Bool :=
  match left, right with
  | .text _, .text _ => true
  | .bytes _, .bytes _ => true
  | left, right => left.number?.isSome && right.number?.isSome

def Key.less (left right : Key) : Bool :=
  match left, right with
  | .text left, .text right => left < right
  | .bytes left, .bytes right => left < right
  | left, right =>
      match left.number?, right.number? with
      | some left, some right => left.less right
      | _, _ => false

/-- Keys in their order, which any two of them must have. -/
def sortKeys (keys : List Key) : Except Fault (List Key) :=
  if keys.all fun left => keys.all fun right => left.same right || left.areOrdered right then
    .ok (keys.mergeSort fun left right => !right.less left)
  else .error .unsuitableKind

end DocStore
