import DocStore.Text.Cut
import DocStore.Value.Equality

/-!
# Looking into values

Reading parts of a value whose kind is not known.  Each way of reading takes some
kinds of value only, and which fault another kind gives is part of its rule.
-/

namespace DocStore

namespace Value

/-- A value in the place of a key.  Containers and signaling decimals cannot be keys. -/
def asKey : Value → Except Fault Key
  | .text content => .ok (.text content)
  | .null => .ok .null
  | .bool flag => .ok (.bool flag)
  | .int number => .ok (.int number)
  | .float number => .ok (.float number)
  | .decimal (.nan _ true _) => .error .unsuitableKind
  | .decimal number => .ok (.decimal number)
  | .bytes content => .ok (.bytes content)
  | .list _ => .error .unsuitableKind
  | .object _ => .error .unsuitableKind

/-- The text of a value that is one.  Bytes are near enough to a text to be told apart
from all other kinds. -/
def asText : Value → Except Fault String
  | .text content => .ok content
  | .bytes _ => .error .unsuitableKind
  | _ => .error .notAnObject

/-- Whether a part occurs in a value: as a key of an object, an element of a list or a
byte string, or a part of a text. -/
def holds (value part : Value) : Except Fault Bool :=
  match value, part with
  | .object members, part => do
      let key ← part.asKey
      pure (Members.contains members key)
  | .list items, part => items.anyM fun item => item.compare part
  | .text content, .text part => .ok (occursIn part.toList content.toList)
  | .bytes content, .bytes part => .ok (occursIn part content)
  | .bytes content, .int byte =>
      if 0 ≤ byte ∧ byte < 256 then .ok (content.contains (UInt8.ofNat byte.toNat))
      else .error .malformedValue
  | _, _ => .error .unsuitableKind

/-- The member of an object at a key; other kinds of value have no members. -/
def member? (value : Value) (key : Key) : Except Fault (Option Value) :=
  value.asObject.map fun members => members.get? key

/-- The value at a key that is known to occur. -/
def fetch (value : Value) (key : Key) : Except Fault Value :=
  match value with
  | .object members => (Members.get? key members).elim (.error .missingEntry) .ok
  | _ => .error .unsuitableKind

/-- The number of elements, characters or members of a value. -/
def size : Value → Except Fault Nat
  | .list items => .ok items.length
  | .text content => .ok content.length
  | .bytes content => .ok content.length
  | .object members => .ok members.length
  | _ => .error .unsuitableKind

end Value

end DocStore
