import DocStore.Number.Double

/-!
# Decimal numbers

A decimal keeps its coefficient and its exponent apart, so `1.50` and `1.5` are
different texts of equal numbers.  The module holds the reader and the printer
of decimals and their conversions to the other kinds of number.
-/

namespace DocStore

/-- A decimal number, an infinity, or a value that is not a number together
with its payload. -/
inductive Decimal where
  | finite (negative : Bool) (coefficient : Nat) (exponent : Int)
  | infinite (negative : Bool)
  | nan (negative : Bool) (signaling : Bool) (payload : List Char)
deriving DecidableEq

namespace Decimal

/-- The natural number written by a list of digits. -/
def natOfDigits (digits : List Char) : Nat :=
  digits.foldl (fun total digit => total * 10 + (digit.toNat - '0'.toNat)) 0

/-- Takes an optional sign from the front of a text; `true` means minus. -/
def takeSign : List Char → Bool × List Char
  | '-' :: rest => (true, rest)
  | '+' :: rest => (false, rest)
  | rest => (false, rest)

/-- The exponent part of a numeral: nothing, or `E` with at least one digit. -/
def readExponent? : List Char → Option Int
  | [] => some 0
  | mark :: rest =>
      if mark = 'e' ∨ mark = 'E' then
        let (negative, digits) := takeSign rest
        if digits.isEmpty ∨ !digits.all Char.isDigit then none
        else
          let magnitude := Int.ofNat (natOfDigits digits)
          some (if negative then -magnitude else magnitude)
      else none

def readNumeral? (negative : Bool) (text : List Char) : Option Decimal :=
  let whole := text.takeWhile Char.isDigit
  let afterWhole := text.dropWhile Char.isDigit
  let (fraction, afterFraction) := match afterWhole with
    | '.' :: rest => (rest.takeWhile Char.isDigit, rest.dropWhile Char.isDigit)
    | rest => ([], rest)
  if whole.isEmpty ∧ fraction.isEmpty then none
  else
    (readExponent? afterFraction).map fun exponent =>
      .finite negative (natOfDigits (whole ++ fraction))
        (exponent - Int.ofNat fraction.length)

/-- Reads a decimal; letter case does not matter in the names of the values
that are not finite. -/
def read? (text : String) : Option Decimal :=
  let (negative, body) := takeSign text.toList
  match body.map Char.toLower with
  | ['i', 'n', 'f'] => some (.infinite negative)
  | ['i', 'n', 'f', 'i', 'n', 'i', 't', 'y'] => some (.infinite negative)
  | 'n' :: 'a' :: 'n' :: payload =>
      if payload.all Char.isDigit then
        some (.nan negative false (payload.dropWhile (· == '0')))
      else none
  | 's' :: 'n' :: 'a' :: 'n' :: payload =>
      if payload.all Char.isDigit then
        some (.nan negative true (payload.dropWhile (· == '0')))
      else none
  | _ => readNumeral? negative body

/-- Digits with their point after the first `place` of them, zeros filling the
gap on either side. -/
def placePoint (digits : List Char) (place : Int) : List Char :=
  match place with
  | .ofNat 0 => '0' :: '.' :: digits
  | .ofNat amount =>
      if digits.length ≤ amount then
        digits ++ List.replicate (amount - digits.length) '0'
      else digits.take amount ++ '.' :: digits.drop amount
  | .negSucc amount => '0' :: '.' :: (List.replicate (amount + 1) '0' ++ digits)

/-- The text of a decimal.  The notation is positional unless the exponent is
positive or more than five zeros would follow the point. -/
def render : Decimal → String
  | .infinite negative => (if negative then "-" else "") ++ "Infinity"
  | .nan negative signaling payload =>
      (if negative then "-" else "") ++ (if signaling then "sNaN" else "NaN")
        ++ String.ofList payload
  | .finite negative coefficient exponent =>
      let digits := Nat.toDigits 10 coefficient
      let place := exponent + Int.ofNat digits.length
      let positional := exponent ≤ 0 ∧ -6 < place
      let point : Int := if positional then place else 1
      let suffix : String :=
        if place = point then ""
        else
          let shift := place - point
          "E" ++ (if shift < 0 then "-" else "+") ++ toString shift.natAbs
      (if negative then "-" else "") ++ String.ofList (placePoint digits point) ++ suffix

def exact : Decimal → Exact
  | .nan _ _ _ => .undefined
  | .infinite negative => .infinite negative
  | .finite negative coefficient exponent =>
      let signed : Int := if negative then -Int.ofNat coefficient else Int.ofNat coefficient
      match exponent with
      | .ofNat amount => .ratio (signed * Int.ofNat (Nat.pow 10 amount)) 1
      | .negSucc amount => .ratio signed (Nat.pow 10 (amount + 1))

/-- The integer part of a finite decimal, toward zero. -/
def truncate? : Decimal → Option Int
  | .finite negative coefficient exponent =>
      let magnitude := match exponent with
        | .ofNat amount => coefficient * Nat.pow 10 amount
        | .negSucc amount => coefficient / Nat.pow 10 (amount + 1)
      some (if negative then -Int.ofNat magnitude else Int.ofNat magnitude)
  | _ => none

def isIntegral : Decimal → Bool
  | .finite _ coefficient (.negSucc amount) => coefficient % Nat.pow 10 (amount + 1) == 0
  | .finite _ _ (.ofNat _) => true
  | _ => false

/-- The nearest double. -/
def toFloat : Decimal → Float
  | .finite negative coefficient exponent => Double.ofDecimal negative coefficient exponent
  | .infinite negative => Double.infinity negative
  | .nan _ _ _ => Double.nanFloat

def isZero : Decimal → Bool
  | .finite _ coefficient _ => coefficient == 0
  | _ => false

end Decimal

end DocStore
