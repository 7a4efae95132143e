import DocStore.Text.Character

/-!
# Integer numerals

An integer is read from text with padding around it, an optional sign, and
decimal digits of any script, single underscores being allowed between digits.
-/

namespace DocStore

/-- Reads digits up to the end of the text.  `total` is the value so far and
`afterDigit` says whether an underscore may come next. -/
def readDigits? (total : Nat) (afterDigit : Bool) : List Char → Option Nat
  | [] => if afterDigit then some total else none
  | '_' :: rest => if afterDigit then readDigits? total false rest else none
  | character :: rest =>
      match digitValue? character with
      | some digit => readDigits? (total * 10 + digit) true rest
      | none => none

/-- The greatest number of digits of a numeral that is read as an integer, or that an
integer is written with. -/
def longestNumeral : Nat := 4300

/-- Whether an integer has few enough digits to be written. -/
def isWritableInteger (number : Int) : Bool := number.natAbs < Nat.pow 10 longestNumeral

/-- Reads the digits of a natural number, of which there are not too many. -/
def readNatural? (digits : List Char) : Option Nat :=
  if longestNumeral < digits.countP (· != '_') then none else readDigits? 0 false digits

def readInteger? (text : String) : Option Int :=
  match trimPadding text.toList with
  | '-' :: digits => (readNatural? digits).map fun magnitude => -Int.ofNat magnitude
  | '+' :: digits => (readNatural? digits).map Int.ofNat
  | digits => (readNatural? digits).map Int.ofNat

/-- Removes the underscores of a numeral; each must stand between two other
characters. -/
def joinGroups? (text : List Char) : Option (List Char) :=
  let rec join : Bool → List Char → Option (List Char)
    | allowed, [] => if allowed then some [] else none
    | allowed, '_' :: rest => if allowed then join false rest else none
    | _, character :: rest => (join true rest).map (character :: ·)
  join false text

end DocStore
