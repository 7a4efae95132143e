import DocStore.Value

/-!
# Reading JSON

A reader of JSON texts with the names `NaN`, `Infinity` and `-Infinity` beside
the usual literals.  A number with a point or an exponent is a double, any other
one an integer, which has at most 4300 digits.  Of members with the same key the
last value counts, at the position of the first.
-/

namespace DocStore.Json

/-- The four characters that may surround a token. -/
def isSpace (character : Char) : Bool :=
  character == ' ' || character == '\t' || character == '\n' || character == '\r'

def skipSpace (text : List Char) : List Char := text.dropWhile isSpace

/-- Reads the four digits of a UTF-16 escape. -/
def readUnit? : List Char → Option (Nat × List Char)
  | first :: second :: third :: fourth :: rest => do
      let first ← hexValue? first
      let second ← hexValue? second
      let third ← hexValue? third
      let fourth ← hexValue? fourth
      some (((first * 16 + second) * 16 + third) * 16 + fourth, rest)
  | _ => none

def simpleEscape? (character : Char) : Option Char :=
  match character with
  | '"' => some '"'
  | '\\' => some '\\'
  | '/' => some '/'
  | 'b' => some '\x08'
  | 'f' => some '\x0c'
  | 'n' => some '\n'
  | 'r' => some '\r'
  | 't' => some '\t'
  | _ => none

def isHighSurrogate (unit : Nat) : Bool := 0xd800 ≤ unit && unit < 0xdc00

def isLowSurrogate (unit : Nat) : Bool := 0xdc00 ≤ unit && unit < 0xe000

/-- The character of one UTF-16 unit; a surrogate without its partner is
replaced. -/
def unitCharacter (unit : Nat) : Char :=
  if isHighSurrogate unit || isLowSurrogate unit then '\uFFFD' else Char.ofNat unit

/-- Reads the character of an escape that starts with `u`, a surrogate pair
being one character. -/
def readEscapedUnit? (text : List Char) : Option (Char × List Char) := do
  let (unit, rest) ← readUnit? text
  if isHighSurrogate unit then
    match rest with
    | '\\' :: 'u' :: after =>
        let (low, afterLow) ← readUnit? after
        if isLowSurrogate low then
          some (Char.ofNat (0x10000 + (unit - 0xd800) * 0x400 + (low - 0xdc00)), afterLow)
        else some (unitCharacter unit, rest)
    | _ => some (unitCharacter unit, rest)
  else some (unitCharacter unit, rest)

/-- Reads a string after its opening quote. -/
def readText? : Nat → List Char → Option (List Char × List Char)
  | 0, _ => none
  | _ + 1, [] => none
  | _ + 1, '"' :: rest => some ([], rest)
  | fuel + 1, '\\' :: 'u' :: rest => do
      let (character, rest) ← readEscapedUnit? rest
      let (characters, rest) ← readText? fuel rest
      some (character :: characters, rest)
  | fuel + 1, '\\' :: escape :: rest => do
      let character ← simpleEscape? escape
      let (characters, rest) ← readText? fuel rest
      some (character :: characters, rest)
  | fuel + 1, character :: rest =>
      if character.toNat < 0x20 || character == '\\' then none
      else do
        let (characters, rest) ← readText? fuel rest
        some (character :: characters, rest)

/-- The whole part of a number: a single zero, or digits without a leading
zero. -/
def readWhole? (text : List Char) : Option (List Char × List Char) :=
  match text with
  | '0' :: rest => some (['0'], rest)
  | text =>
      let digits := text.takeWhile Char.isDigit
      if digits.isEmpty then none else some (digits, text.dropWhile Char.isDigit)

/-- The fraction of a number; a point without digits does not belong to it. -/
def readFraction (text : List Char) : List Char × List Char :=
  match text with
  | '.' :: rest =>
      let digits := rest.takeWhile Char.isDigit
      if digits.isEmpty then ([], text) else (digits, rest.dropWhile Char.isDigit)
  | _ => ([], text)

/-- The exponent of a number; a mark without digits does not belong to it. -/
def readExponent (text : List Char) : Option Int × List Char :=
  match text with
  | mark :: rest =>
      if mark = 'e' ∨ mark = 'E' then
        let (negative, after) := Decimal.takeSign rest
        let digits := after.takeWhile Char.isDigit
        if digits.isEmpty then (none, text)
        else
          let magnitude := Int.ofNat (Decimal.natOfDigits digits)
          (some (if negative then -magnitude else magnitude), after.dropWhile Char.isDigit)
      else (none, text)
  | [] => (none, text)

/-- A step of reading that fails on a text that is no JSON. -/
def demand {α : Type} : Option α → Except Fault α
  | some found => .ok found
  | none => .error .malformedJson

/-- Reads a number without its sign.  An integer may not have too many digits. -/
def readMagnitude (negative : Bool) (text : List Char) : Except Fault (Value × List Char) := do
  let (whole, afterWhole) ← demand (readWhole? text)
  let (fraction, afterFraction) := readFraction afterWhole
  let (exponent, rest) := readExponent afterFraction
  if fraction.isEmpty && exponent.isNone then
    if longestNumeral < whole.length then .error .malformedValue
    else
      let magnitude := Int.ofNat (Decimal.natOfDigits whole)
      .ok (.int (if negative then -magnitude else magnitude), rest)
  else
    let digits := Decimal.natOfDigits (whole ++ fraction)
    let scale := exponent.getD 0 - Int.ofNat fraction.length
    .ok (.float (Double.ofDecimal negative digits scale), rest)

/-- The rest of a text after a word that it starts with. -/
def afterWord? : List Char → List Char → Option (List Char)
  | [], text => some text
  | letter :: word, character :: text =>
      if letter = character then afterWord? word text else none
  | _ :: _, [] => none

def literals : List (List Char × Value) :=
  [ ("null".toList, .null), ("true".toList, .bool true), ("false".toList, .bool false),
    ("NaN".toList, .float Double.nanFloat),
    ("Infinity".toList, .float (Double.infinity false)),
    ("-Infinity".toList, .float (Double.infinity true)) ]

def readLiteral? (text : List Char) : Option (Value × List Char) :=
  literals.findSome? fun literal =>
    (afterWord? literal.1 text).map fun rest => (literal.2, rest)

/-- Reads a string after its opening quote. -/
def readString (text : List Char) : Except Fault (String × List Char) := do
  let (characters, rest) ← demand (readText? (text.length + 1) text)
  .ok (String.ofList characters, rest)

def readScalar (text : List Char) : Except Fault (Value × List Char) :=
  match readLiteral? text with
  | some found => .ok found
  | none =>
      match text with
      | '"' :: rest => do
          let (content, rest) ← readString rest
          .ok (.text content, rest)
      | '-' :: rest => readMagnitude true rest
      | _ => readMagnitude false text

/-- Reads the key of a member and the colon after it. -/
def readKey (text : List Char) : Except Fault (String × List Char) :=
  match text with
  | '"' :: rest => do
      let (content, rest) ← readString rest
      match skipSpace rest with
      | ':' :: rest => .ok (content, rest)
      | _ => .error .malformedJson
  | _ => .error .malformedJson

mutual

/-- Reads a value; the fuel bounds the number of nested calls. -/
def readValue : Nat → List Char → Except Fault (Value × List Char)
  | 0, _ => .error .malformedJson
  | fuel + 1, text =>
      match skipSpace text with
      | '[' :: rest =>
          match skipSpace rest with
          | ']' :: rest => .ok (.list [], rest)
          | rest => do
              let (items, rest) ← readItems fuel rest
              .ok (.list items, rest)
      | '\x7b' :: rest =>
          match skipSpace rest with
          | '\x7d' :: rest => .ok (.object [], rest)
          | rest => do
              let (members, rest) ← readMembers fuel rest
              .ok (.object (Members.ofPairs members), rest)
      | text => readScalar text

/-- Reads the elements of a list up to its closing bracket. -/
def readItems : Nat → List Char → Except Fault (List Value × List Char)
  | 0, _ => .error .malformedJson
  | fuel + 1, text => do
      let (item, rest) ← readValue fuel text
      match skipSpace rest with
      | ',' :: rest => do
          let (items, rest) ← readItems fuel rest
          .ok (item :: items, rest)
      | ']' :: rest => .ok ([item], rest)
      | _ => .error .malformedJson

/-- Reads the members of an object up to its closing brace. -/
def readMembers : Nat → List Char → Except Fault (Members × List Char)
  | 0, _ => .error .malformedJson
  | fuel + 1, text => do
      let (key, rest) ← readKey (skipSpace text)
      let (value, rest) ← readValue fuel rest
      match skipSpace rest with
      | ',' :: rest => do
          let (members, rest) ← readMembers fuel rest
          .ok ((.text key, value) :: members, rest)
      | '\x7d' :: rest => .ok ([(.text key, value)], rest)
      | _ => .error .malformedJson

end

/-- Decodes a JSON text that holds one value and blanks around it. -/
def decode (text : String) : Except Fault Value := do
  let characters := text.toList
  let (value, rest) ← readValue (2 * characters.length + 2) characters
  if (skipSpace rest).isEmpty then .ok value else .error .malformedJson

end DocStore.Json
