import DocStore.Fault
import DocStore.Number.Decimal

/-!
# Arithmetic of decimals

Sums and remainders of decimals are exact up to twenty-eight digits; a sum of more
digits is rounded, a half going to the even neighbour.  Operations without a result
are faults.
-/

namespace DocStore

namespace Decimal

/-- The greatest number of digits of a computed decimal. -/
def precision : Nat := 28

/-- The greatest exponent of the first digit of a computed decimal. -/
def greatestExponent : Int := 999999

/-- The least exponent of the last digit of a computed decimal. -/
def leastExponent : Int := -greatestExponent - precision + 1

def digitCount (coefficient : Nat) : Nat := (Nat.toDigits 10 coefficient).length

/-- A power of ten that moves an exponent down to another one. -/
def scale (above below : Int) : Nat := Nat.pow 10 (above - below).toNat

def roundTo (coefficient : Nat) (exponent target : Int) : Nat :=
  if target ≤ exponent then coefficient * scale exponent target
  else if digitCount coefficient < (target - exponent).toNat then 0
  else Double.roundHalfEven coefficient (scale target exponent)

/-- A finite decimal within the precision and the range of exponents. -/
def fit (negative : Bool) (coefficient : Nat) (exponent : Int) : Except Fault Decimal :=
  if coefficient = 0 then
    .ok (.finite negative 0 (min (max exponent leastExponent) greatestExponent))
  else
    let lowest := max (exponent + digitCount coefficient - precision) leastExponent
    let (coefficient, exponent) :=
      if lowest ≤ exponent then (coefficient, exponent)
      else
        let rounded := roundTo coefficient exponent lowest
        if precision < digitCount rounded then (rounded / 10, lowest + 1) else (rounded, lowest)
    if greatestExponent < exponent + digitCount coefficient - 1 then .error .oversizedDecimal
    else .ok (.finite negative coefficient exponent)

/-- A value that is not a number with as much of its payload as fits. -/
def fitPayload (negative : Bool) (payload : List Char) : Decimal :=
  .nan negative false
    ((payload.drop (payload.length - precision)).dropWhile (· == '0'))

/-- The operand that an operation passes on because it is not a number. -/
def passedOn? : Decimal → Decimal → Option (Except Fault Decimal)
  | .nan _ true _, _ => some (.error .undefinedDecimal)
  | _, .nan _ true _ => some (.error .undefinedDecimal)
  | .nan negative false payload, _ => some (.ok (fitPayload negative payload))
  | _, .nan negative false payload => some (.ok (fitPayload negative payload))
  | _, _ => none

/-- A summand that cannot reach the digits of a far greater one counts as one unit below
them. -/
def reduced (coefficient : Nat) (exponent : Int) (greater : Nat) (greaterExponent : Int) :
    Nat × Int :=
  let lowest := greaterExponent + min (-1) ((digitCount greater : Int) - precision - 2)
  if (digitCount coefficient : Int) + exponent - 1 < lowest then (1, lowest)
  else (coefficient, exponent)

/-- The sum of two finite decimals that are not zero. -/
def addFinite (leftNegative : Bool) (left : Nat) (leftExponent : Int)
    (rightNegative : Bool) (right : Nat) (rightExponent : Int) : Except Fault Decimal :=
  let ((left, leftExponent), (right, rightExponent)) :=
    if leftExponent < rightExponent then
      (reduced left leftExponent right rightExponent, (right, rightExponent))
    else ((left, leftExponent), reduced right rightExponent left leftExponent)
  let exponent := min leftExponent rightExponent
  let signed (negative : Bool) (magnitude : Nat) : Int :=
    if negative then -Int.ofNat magnitude else Int.ofNat magnitude
  let sum := signed leftNegative (left * scale leftExponent exponent)
    + signed rightNegative (right * scale rightExponent exponent)
  fit (decide (sum < 0)) sum.natAbs exponent

/-- A finite decimal plus a zero: the exponent goes down to that of the zero as far as
the precision allows. -/
def addZero (negative : Bool) (coefficient : Nat) (exponent zeroExponent : Int) :
    Except Fault Decimal :=
  let target := max (min exponent zeroExponent) (exponent - precision - 1)
  fit negative (roundTo coefficient exponent target) target

/-- The sum of two decimals. -/
def add (left right : Decimal) : Except Fault Decimal :=
  match passedOn? left right with
  | some result => result
  | none =>
      match left, right with
      | .infinite leftSign, .infinite rightSign =>
          if leftSign = rightSign then .ok (.infinite leftSign) else .error .undefinedDecimal
      | .finite leftSign leftDigits leftExponent, .finite rightSign rightDigits rightExponent =>
          if leftDigits = 0 then
            if rightDigits = 0 then
              fit (leftSign && rightSign) 0 (min leftExponent rightExponent)
            else addZero rightSign rightDigits rightExponent leftExponent
          else if rightDigits = 0 then addZero leftSign leftDigits leftExponent rightExponent
          else addFinite leftSign leftDigits leftExponent rightSign rightDigits rightExponent
      | .infinite sign, _ => .ok (.infinite sign)
      | _, other => .ok other

/-- Whether a computed decimal is other than zero, once it is brought within the precision
and the range of exponents. -/
def isNonzero (coefficient : Nat) (exponent : Int) : Except Fault Bool := do
  match ← fit false coefficient exponent with
  | .finite _ coefficient _ => return coefficient != 0
  | _ => return true

/-- Whether a division leaves a remainder; the quotient must not have more digits than
the precision allows. -/
def leavesRemainder (dividend divisor : Decimal) : Except Fault Bool :=
  match passedOn? dividend divisor with
  | some result => result.map fun _ => true
  | none =>
      match dividend, divisor with
      | .finite _ top topExponent, .finite _ bottom bottomExponent =>
          if bottom = 0 then .error .undefinedDecimal
          else if top = 0 then .ok false
          else
            let excess := (topExponent + digitCount top) - (bottomExponent + digitCount bottom)
            if excess ≤ -2 then isNonzero top topExponent
            else if precision < excess then .error .undefinedDecimal
            else
              let exponent := min topExponent bottomExponent
              let top := top * scale topExponent exponent
              let bottom := bottom * scale bottomExponent exponent
              if Nat.pow 10 precision ≤ top / bottom then .error .undefinedDecimal
              else isNonzero (top % bottom) exponent
      | .finite _ top topExponent, _ => isNonzero top topExponent
      | _, _ => .error .undefinedDecimal

def ofInt (number : Int) : Decimal := .finite (decide (number < 0)) number.natAbs 0

/-- Whether a decimal may not be compared, not even for equality. -/
def isSignaling : Decimal → Bool
  | .nan _ signaling _ => signaling
  | _ => false

/-- Whether a value is not a number. -/
def isNaN : Decimal → Bool
  | .nan .. => true
  | _ => false

end Decimal

end DocStore
