import DocStore.Value.Display

/-!
# Writing JSON

The text of a stored document: members in order, a space after each comma and
colon, ASCII characters only.  Characters beyond ASCII are written as UTF-16
escapes, and floats by their shortest digits.
-/

namespace DocStore.Json

/-- Floats as JSON writes them; values that are not finite have names. -/
def numberFormat : FloatFormat :=
  { floatFormat with nanText := "NaN", infinityText := "Infinity" }

def escapeUnit (unit : Nat) : List Char := '\\' :: 'u' :: hexDigits 4 unit

/-- One character of a JSON string. -/
def escapeCharacter (character : Char) : List Char :=
  if character = '"' then ['\\', '"']
  else if character = '\\' then ['\\', '\\']
  else if character = '\n' then ['\\', 'n']
  else if character = '\r' then ['\\', 'r']
  else if character = '\t' then ['\\', 't']
  else if character = '\x08' then ['\\', 'b']
  else if character = '\x0c' then ['\\', 'f']
  else
    let code := character.toNat
    if 0x20 ≤ code ∧ code < 0x7f then [character]
    else if code < 0x10000 then escapeUnit code
    else
      escapeUnit (0xd800 + (code - 0x10000) / 0x400)
        ++ escapeUnit (0xdc00 + (code - 0x10000) % 0x400)

def writeText (text : String) : List Char :=
  '"' :: (text.toList.flatMap escapeCharacter ++ ['"'])

def writeScalar : Value → List Char
  | .null => ['n', 'u', 'l', 'l']
  | .bool true => ['t', 'r', 'u', 'e']
  | .bool false => ['f', 'a', 'l', 's', 'e']
  | .int number => (toString number).toList
  | .float number => (numberFormat.render number).toList
  | .text content => writeText content
  | _ => []

/-- The text of a key; keys of other kinds are written as texts. -/
def keyText : Key → String
  | .text content => content
  | .null => "null"
  | .bool flag => if flag then "true" else "false"
  | .int number => toString number
  | .float number => numberFormat.render number
  | _ => ""

def writeKey (key : Key) : List Char := writeText (keyText key)

mutual

/-- The JSON text of a value. -/
def write : Value → List Char
  | .list [] => ['[', ']']
  | .list (item :: items) => '[' :: (write item ++ writeItems items)
  | .object [] => ['\x7b', '\x7d']
  | .object ((key, value) :: members) =>
      '\x7b' :: (writeKey key ++ ':' :: ' ' :: (write value ++ writeMembers members))
  | scalar => writeScalar scalar

/-- The elements of a list after the first, and its closing bracket. -/
def writeItems : List Value → List Char
  | [] => [']']
  | item :: items => ',' :: ' ' :: (write item ++ writeItems items)

/-- The members of an object after the first, and its closing brace. -/
def writeMembers : List (Key × Value) → List Char
  | [] => ['\x7d']
  | (key, value) :: members =>
      ',' :: ' ' :: (writeKey key ++ ':' :: ' ' :: (write value ++ writeMembers members))

end

/-- What keeps an integer from being written: it has too many digits. -/
def integerObstacle? (number : Int) : Option Fault :=
  if isWritableInteger number then none else some .malformedValue

/-- What keeps a key from being written. -/
def keyObstacle? : Key → Option Fault
  | .int number => integerObstacle? number
  | .decimal _ => some .unsuitableKind
  | .bytes _ => some .unsuitableKind
  | _ => none

mutual

/-- The first thing that keeps a value from being written: a decimal, bytes, or an
integer with too many digits. -/
def obstacle? : Value → Option Fault
  | .int number => integerObstacle? number
  | .decimal _ => some .unsuitableKind
  | .bytes _ => some .unsuitableKind
  | .list items => itemsObstacle? items
  | .object members => membersObstacle? members
  | _ => none

def itemsObstacle? : List Value → Option Fault
  | [] => none
  | item :: items =>
      match obstacle? item with
      | some fault => some fault
      | none => itemsObstacle? items

def membersObstacle? : List (Key × Value) → Option Fault
  | [] => none
  | (key, value) :: members =>
      match keyObstacle? key, obstacle? value with
      | some fault, _ => some fault
      | none, some fault => some fault
      | none, none => membersObstacle? members

end

theorem obstacle?_of_items_cons {item : Value} {items : List Value}
    (encodable : itemsObstacle? (item :: items) = none) :
    obstacle? item = none ∧ itemsObstacle? items = none := by
  unfold itemsObstacle? at encodable
  split at encodable
  · cases encodable
  · exact ⟨‹_›, encodable⟩

theorem obstacle?_of_members_cons {key : Key} {value : Value} {members : List (Key × Value)}
    (encodable : membersObstacle? ((key, value) :: members) = none) :
    keyObstacle? key = none ∧ obstacle? value = none ∧ membersObstacle? members = none := by
  unfold membersObstacle? at encodable
  split at encodable
  · cases encodable
  · cases encodable
  · exact ⟨‹_›, ‹_›, encodable⟩

theorem obstacle?_of_mem_items {items : List Value} (encodable : itemsObstacle? items = none) :
    ∀ item ∈ items, obstacle? item = none := by
  induction items with
  | nil => exact fun _ member => absurd member List.not_mem_nil
  | cons item items ih =>
      obtain ⟨first, others⟩ := obstacle?_of_items_cons encodable
      exact List.forall_mem_cons.mpr ⟨first, ih others⟩

theorem obstacle?_of_mem_members {members : List (Key × Value)}
    (encodable : membersObstacle? members = none) :
    ∀ member ∈ members, obstacle? member.2 = none := by
  induction members with
  | nil => exact fun _ member => absurd member List.not_mem_nil
  | cons member members ih =>
      obtain ⟨_, first, others⟩ := obstacle?_of_members_cons encodable
      exact List.forall_mem_cons.mpr ⟨first, ih others⟩

def encode (value : Value) : Except Fault String :=
  match obstacle? value with
  | some fault => .error fault
  | none => .ok (String.ofList (write value))

theorem obstacle?_of_encode {value : Value} {text : String} (encoded : encode value = .ok text) :
    obstacle? value = none := by
  unfold encode at encoded
  cases obstacle : obstacle? value with
  | none => rfl
  | some fault =>
      rw [obstacle] at encoded
      cases encoded

end DocStore.Json
