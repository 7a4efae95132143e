import DocStore.Number.Shortest
import DocStore.Text.Character
import DocStore.Value

/-!
# Display form of values

The form in which messages show a value: lists in brackets, objects in braces,
texts in quotes with escapes, and numbers by their shortest digits.  The same
quoting serves lists of names.
-/

namespace DocStore

/-- Floats keep a point or an exponent, and are positional from `0.0001` up to
below `1e16`. -/
def floatFormat : FloatFormat :=
  { positionalFrom := -4
    positionalBelow := 16
    exponentDigits := 2
    nanText := "nan"
    infinityText := "inf" }

/-- A number in base sixteen, padded with zeros to a width. -/
def hexDigits (width number : Nat) : List Char :=
  FloatFormat.padLeft width (Nat.toDigits 16 number)

theorem hexDigits_one {number : Nat} (small : number < 16) :
    hexDigits 1 number = [number.digitChar] := by
  rw [hexDigits, Nat.toDigits_of_lt_base small]
  rfl

/-- The last digit of a padded number. -/
theorem hexDigits_succ {width : Nat} (some : 1 ≤ width) (number : Nat) :
    hexDigits (width + 1) number =
      hexDigits width (number / 16) ++ [(number % 16).digitChar] := by
  unfold hexDigits FloatFormat.padLeft
  by_cases small : number < 16
  · obtain ⟨width, rfl⟩ := Nat.exists_eq_succ_of_ne_zero (Nat.ne_of_gt some)
    rw [Nat.toDigits_of_lt_base small, Nat.div_eq_of_lt small, Nat.toDigits_zero,
      Nat.mod_eq_of_lt small]
    simp only [List.length_singleton, Nat.succ_eq_add_one, Nat.add_sub_cancel]
    rw [List.replicate_succ']
  · rw [Nat.toDigits_of_base_le (by decide) (Nat.le_of_not_lt small), List.length_append,
      List.length_singleton, Nat.add_sub_add_right, List.append_assoc]

namespace Display

/-- Single quotes, unless double quotes save an escape. -/
def chooseQuote (text : List Char) : Char :=
  if text.contains '\'' && !text.contains '"' then '"' else '\''

def quoteCharacter (quote character : Char) : List Char :=
  if character = quote ∨ character = '\\' then ['\\', character]
  else if character = '\n' then ['\\', 'n']
  else if character = '\r' then ['\\', 'r']
  else if character = '\t' then ['\\', 't']
  else if isPrintable character then [character]
  else
    let code := character.toNat
    if code < 0x100 then '\\' :: 'x' :: hexDigits 2 code
    else if code < 0x10000 then '\\' :: 'u' :: hexDigits 4 code
    else '\\' :: 'U' :: hexDigits 8 code

def quoted (text : String) : String :=
  let characters := text.toList
  let quote := chooseQuote characters
  String.ofList (quote :: (characters.flatMap (quoteCharacter quote) ++ [quote]))

def quoteByte (quote : Char) (byte : UInt8) : List Char :=
  let character := Char.ofNat byte.toNat
  if byte.toNat < 127 ∨ character = quote then quoteCharacter quote character
  else '\\' :: 'x' :: hexDigits 2 byte.toNat

def quotedBytes (content : List UInt8) : String :=
  let quote := chooseQuote (content.map fun byte => Char.ofNat byte.toNat)
  String.ofList ('b' :: quote :: (content.flatMap (quoteByte quote) ++ [quote]))

/-- Texts in quotes, separated by commas. -/
def quotedNames (names : List String) : String :=
  String.intercalate ", " (names.map quoted)

end Display

def Value.displayScalar : Value → String
  | .null => "None"
  | .bool flag => if flag then "True" else "False"
  | .int number => toString number
  | .float number => floatFormat.render number
  | .decimal number => "Decimal('" ++ number.render ++ "')"
  | .bytes content => Display.quotedBytes content
  | .text content => Display.quoted content
  | .list _ => "[]"
  | .object _ => "\x7b\x7d"

def Key.display (key : Key) : String := key.toValue.displayScalar

def Key.shown : Key → String
  | text content => content
  | decimal number => number.render
  | key => key.display

mutual

def Value.display : Value → String
  | .list items => "[" ++ String.intercalate ", " (Value.displayList items) ++ "]"
  | .object members =>
      "\x7b" ++ String.intercalate ", " (Value.displayMembers members) ++ "\x7d"
  | scalar => scalar.displayScalar

def Value.displayList : List Value → List String
  | [] => []
  | item :: items => item.display :: Value.displayList items

def Value.displayMembers : List (Key × Value) → List String
  | [] => []
  | (key, value) :: members =>
      (key.display ++ ": " ++ value.display) :: Value.displayMembers members

end

/-- The text of a value: a text itself, a decimal without its mark, and the display form
of any other value. -/
def Value.plainText : Value → String
  | .text content => content
  | .decimal number => number.render
  | value => value.display

/-- Display form of a sequence of bound parameters: a single one keeps a comma,
to tell it from a bracketed value. -/
def displayParameters : List Value → String
  | [single] => "(" ++ single.display ++ ",)"
  | parameters => "(" ++ String.intercalate ", " (parameters.map Value.display) ++ ")"

/-! ## Wording of messages

A message shows values.  An integer with too many digits has no text, so a message that
would show one cannot be worded.
-/

/-- Whether a key can be shown. -/
def Key.isWritable : Key → Bool
  | .int number => isWritableInteger number
  | _ => true

mutual

/-- Whether a value can be shown: all integers in it have a text. -/
def Value.isWritable : Value → Bool
  | .int number => isWritableInteger number
  | .list items => Value.areWritable items
  | .object members => Value.areWritableMembers members
  | _ => true

/-- Whether all elements of a list can be shown. -/
def Value.areWritable : List Value → Bool
  | [] => true
  | item :: items => item.isWritable && Value.areWritable items

/-- Whether all members of an object can be shown. -/
def Value.areWritableMembers : List (Key × Value) → Bool
  | [] => true
  | (key, value) :: members =>
      key.isWritable && value.isWritable && Value.areWritableMembers members

end

/-- A message in the making. -/
def Wording : Type := Except Fault String

namespace Wording

/-- A part of a message that is there already. -/
def plain (text : String) : Wording := .ok text

instance : Coe String Wording := ⟨plain⟩

/-- Joins the parts of a message. -/
def append : Wording → Wording → Wording
  | .ok left, .ok right => .ok (left ++ right)
  | .ok _, .error fault => .error fault
  | .error fault, _ => .error fault

instance : Append Wording := ⟨append⟩

/-- Parts of a message with a separator between them. -/
def row (separator : String) : List Wording → Wording
  | [] => .ok ""
  | [last] => last
  | first :: rest => first ++ plain separator ++ row separator rest

end Wording

/-- The display form of a value in a message. -/
def Value.wording (value : Value) : Wording :=
  if value.isWritable then .ok value.display else .error .malformedValue

/-- The text of a value in a message. -/
def Value.plainWording (value : Value) : Wording :=
  if value.isWritable then .ok value.plainText else .error .malformedValue

end DocStore
