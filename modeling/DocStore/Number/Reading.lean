import DocStore.Number.Decimal
import DocStore.Number.Numeral

/-!
# Numbers in free notation

Doubles and decimals are read with padding around them, with digits of any script, and with
underscores between digits.
-/

namespace DocStore

/-- A text whose digits of all scripts are ASCII digits. -/
def plainDigits (text : List Char) : List Char :=
  text.map fun character =>
    match digitValue? character with
    | some digit => Char.ofNat ('0'.toNat + digit)
    | none => character

/-- Removes the underscores of a numeral, each of which must stand between two digits;
`afterDigit` says whether the character before the text is one. -/
def joinDigits? (afterDigit : Bool) : List Char → Option (List Char)
  | '_' :: character :: rest =>
      if afterDigit && character.isDigit then
        (joinDigits? true rest).map (character :: ·)
      else none
  | ['_'] => none
  | character :: rest => (joinDigits? character.isDigit rest).map (character :: ·)
  | [] => some []

/-- Reads a double.  A value that is not a number carries no digits. -/
def readFloat? (text : String) : Option Float :=
  match joinDigits? false (trimPadding (plainDigits text.toList)) with
  | none => none
  | some unpadded =>
      match Decimal.read? (String.ofList unpadded) with
      | some (.nan _ signaling _) =>
          if signaling || unpadded.any Char.isDigit then none else some Double.nanFloat
      | some number => some number.toFloat
      | none => none

/-- Reads a decimal, in which underscores do not count. -/
def readDecimal? (text : String) : Option Decimal :=
  Decimal.read? (String.ofList
    ((plainDigits (trimBlanks text.toList)).filter fun character => character ≠ '_'))

end DocStore
