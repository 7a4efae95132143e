import DocStore.Fault
import DocStore.Number.DecimalArithmetic
import DocStore.Number.Numeral

/-!
# Document values

A document is an ordered object of values.  Besides the kinds of JSON a value
may be a decimal or a byte string, which engines return in result rows.  The
members of an object keep the order in which their keys were first written.
The keys of JSON are texts; an object that is made of pairs may have other keys.
-/

namespace DocStore

inductive Key where
  | text (content : String)
  | null
  | bool (flag : Bool)
  | int (number : Int)
  | float (number : Float)
  | decimal (number : Decimal)
  | bytes (content : List UInt8)
deriving Inhabited, DecidableEq

namespace Key

instance : Coe String Key := ⟨text⟩

/-- The exact value of a key that is a number; truth values count as zero and one. -/
def number? : Key → Option Exact
  | bool flag => some (.ofInt (if flag then 1 else 0))
  | int number => some (.ofInt number)
  | float number => some (.ofFloat number)
  | decimal number => some number.exact
  | _ => none

/-- Whether two keys are the same key: equal texts, or equal numbers of any kind. -/
def same : Key → Key → Bool
  | text left, text right => left == right
  | null, null => true
  | bytes left, bytes right => left == right
  | left, right =>
      match left.number?, right.number? with
      | some left, some right => left.equal right
      | _, _ => false

def text? : Key → Option String
  | text content => some content
  | _ => none

/-- A text is the same key as an equal text only. -/
theorem same_text (key : Key) (content : String) :
    key.same (text content) = decide (key = text content) := by
  cases key with
  | text other => by_cases equal : other = content <;> simp [same, equal]
  | _ => simp [same, number?]

end Key

/-- A dynamic value of a document, a filter or a result row. -/
inductive Value where
  | null
  | bool (flag : Bool)
  | int (number : Int)
  | float (number : Float)
  | decimal (number : Decimal)
  | bytes (content : List UInt8)
  | text (content : String)
  | list (items : List Value)
  | object (members : List (Key × Value))
deriving Inhabited

/-- The members of an object, in order. -/
abbrev Members := List (Key × Value)

namespace Members

def get? (key : Key) : Members → Option Value
  | [] => none
  | (name, value) :: members => if name.same key then some value else get? key members

def getD (members : Members) (key : Key) : Value := (members.get? key).getD .null

def contains (members : Members) (key : Key) : Bool := (members.get? key).isSome

def requiredText (members : Members) (key : String) : Except Fault String :=
  match members.getD key with
  | .text content => .ok content
  | _ => .error .unsuitableKind

def keys (members : Members) : List Key := members.map Prod.fst

/-- Replaces the value at a key where it stands, or adds the member at the end. -/
def set (key : Key) (value : Value) : Members → Members
  | [] => [(key, value)]
  | (name, old) :: members =>
      if name.same key then (name, value) :: members
      else (name, old) :: set key value members

def erase (key : Key) (members : Members) : Members :=
  members.filter fun member => !member.1.same key

def merge (members additions : Members) : Members :=
  additions.foldl (fun merged addition => merged.set addition.1 addition.2) members

/-- Members from pairs that may repeat a key: the last value wins and stands at
the first position, with the first form of the key. -/
def ofPairs (pairs : List (Key × Value)) : Members := merge [] pairs

/-- Setting a text key changes the value at that key only. -/
theorem get?_set (key other : String) (value : Value) (members : Members) :
    (members.set key value).get? other =
      if other = key then some value else members.get? other := by
  induction members with
  | nil => simp [set, get?, Key.same_text, eq_comm]
  | cons member members ih =>
      simp only [set, get?, Key.same_text]
      grind [get?, Key.same_text]

/-- Erasing a text key removes the value at that key only. -/
theorem get?_erase (key other : String) (members : Members) :
    (members.erase key).get? other = if other = key then none else members.get? other := by
  induction members with
  | nil => simp [erase, get?]
  | cons member members ih =>
      simp only [erase] at ih
      simp only [erase, List.filter_cons, get?]
      grind [get?, Key.same_text]

/-- Setting a text key keeps the keys, and adds the key at the end if it is new. -/
theorem keys_set (key : String) (value : Value) (members : Members) :
    (members.set key value).keys =
      if .text key ∈ members.keys then members.keys else members.keys ++ [.text key] := by
  induction members with
  | nil => simp [set, keys]
  | cons member members ih =>
      simp only [keys] at ih
      simp only [set, keys]
      grind [Key.same_text]

end Members

def Key.toValue : Key → Value
  | text content => .text content
  | null => .null
  | bool flag => .bool flag
  | int number => .int number
  | float number => .float number
  | decimal number => .decimal number
  | bytes content => .bytes content

namespace Value

/-- Null, false, zero and everything empty are false; all else is true. -/
def isTruthy : Value → Bool
  | .null => false
  | .bool flag => flag
  | .int number => number != 0
  | .float number => number != 0.0
  | .decimal number => !number.isZero
  | .bytes content => !content.isEmpty
  | .text content => !content.isEmpty
  | .list items => !items.isEmpty
  | .object members => !members.isEmpty

/-- A value that may be missing; null stands for a missing one. -/
def optional {α : Type} (make : α → Value) : Option α → Value
  | none => .null
  | some content => make content

def natural (number : Nat) : Value := .int number

def isNull : Value → Bool
  | .null => true
  | _ => false

/-- An integer or a double; truth values are not numbers. -/
def isNumber : Value → Bool
  | .int _ => true
  | .float _ => true
  | _ => false

def members? : Value → Option Members
  | .object members => some members
  | _ => none

def isObject : Value → Bool
  | .object _ => true
  | _ => false

/-- The elements of a list or a byte string. -/
def sequence? : Value → Option (List Value)
  | .list items => some items
  | .bytes content => some (content.map fun byte => .int (Int.ofNat byte.toNat))
  | _ => none

def asObject : Value → Except Fault Members
  | .object members => .ok members
  | _ => .error .notAnObject

/-- The values met when walking over a value: the elements of a sequence, the
characters of a text, the keys of an object. -/
def walk : Value → Except Fault (List Value)
  | .list items => .ok items
  | .bytes content => .ok (content.map fun byte => .int (Int.ofNat byte.toNat))
  | .text content => .ok (content.toList.map fun character => .text (String.singleton character))
  | .object members => .ok ((Members.keys members).map Key.toValue)
  | _ => .error .unsuitableKind

/-- The exact value of a number, truth values counting as zero and one. -/
def exactNumber? : Value → Option Exact
  | .bool flag => some (.ofInt (if flag then 1 else 0))
  | .int number => some (.ofInt number)
  | .float number => some (.ofFloat number)
  | .decimal number => some number.exact
  | _ => none

/-- The integer that a value stands for: numbers lose their fraction, and text
is read as a numeral. -/
def toInteger : Value → Except Fault Int
  | .bool flag => .ok (if flag then 1 else 0)
  | .int number => .ok number
  | .float number =>
      match Double.ofFloat number with
      | .nan => .error .malformedValue
      | double => double.truncate?.elim (.error .outOfRange) .ok
  | .decimal number =>
      match number with
      | .nan _ _ _ => .error .malformedValue
      | number => number.truncate?.elim (.error .outOfRange) .ok
  | .text content => (readInteger? content).elim (.error .malformedValue) .ok
  | .bytes content =>
      if content.all (· < 0x80) then
        (readInteger? (String.ofList (content.map fun byte => Char.ofNat byte.toNat))).elim
          (.error .malformedValue) .ok
      else .error .malformedValue
  | _ => .error .unsuitableKind

end Value

/-! ## Size of values

The number of values inside a value and the depth of their nesting.
-/

mutual

def Value.nodeCount : Value → Nat
  | .list items => Value.nodeCountList items + 1
  | .object members => Value.nodeCountMembers members + 1
  | _ => 1

def Value.nodeCountList : List Value → Nat
  | [] => 0
  | item :: items => item.nodeCount + Value.nodeCountList items

def Value.nodeCountMembers : List (Key × Value) → Nat
  | [] => 0
  | (_, value) :: members => value.nodeCount + Value.nodeCountMembers members

end

mutual

def Value.depth : Value → Nat
  | .list items => Value.depthList items + 1
  | .object members => Value.depthMembers members + 1
  | _ => 1

def Value.depthList : List Value → Nat
  | [] => 0
  | item :: items => max item.depth (Value.depthList items)

def Value.depthMembers : List (Key × Value) → Nat
  | [] => 0
  | (_, value) :: members => max value.depth (Value.depthMembers members)

end

end DocStore
