/-!
# Doubles as exact numbers

A binary64 value is read apart into a sign, a significand and a power of two,
and the double nearest to a ratio of natural numbers is computed exactly.  No
operation of this module depends on the rounding of another one, so every later
comparison and conversion of numbers is a statement about integers.
-/

namespace DocStore

/-- The number that a binary64 value stands for.  A finite value is
`significand * 2 ^ exponent` with its sign kept apart, since zero has two. -/
inductive Double where
  | nan
  | infinite (negative : Bool)
  | finite (negative : Bool) (significand : Nat) (exponent : Int)
deriving Repr, DecidableEq

namespace Double

def fractionBits : Nat := 52

def leastExponent : Int := -1074

/-- Reads the fields of the binary format. -/
def ofFloat (x : Float) : Double :=
  let bits := x.toBits.toNat
  let negative := bits / Nat.pow 2 63 == 1
  let biased := bits / Nat.pow 2 fractionBits % Nat.pow 2 11
  let fraction := bits % Nat.pow 2 fractionBits
  if biased = 2047 then
    if fraction = 0 then .infinite negative else .nan
  else if biased = 0 then
    .finite negative fraction leastExponent
  else
    .finite negative (Nat.pow 2 fractionBits + fraction) (Int.ofNat biased - 1075)

/-- `numerator / denominator` rounded to a natural number, a half going to the
even neighbour. -/
def roundHalfEven (numerator denominator : Nat) : Nat :=
  let quotient := numerator / denominator
  let remainder := numerator % denominator
  if 2 * remainder < denominator then quotient
  else if denominator < 2 * remainder then quotient + 1
  else if quotient % 2 = 0 then quotient
  else quotient + 1

def scaleDown (numerator denominator : Nat) (exponent : Int) : Nat × Nat :=
  match exponent with
  | .ofNat amount => (numerator, denominator * Nat.pow 2 amount)
  | .negSucc amount => (numerator * Nat.pow 2 (amount + 1), denominator)

/-- The exponent of the last significand bit in the double next to
`numerator / denominator`. -/
def lastExponent (numerator denominator : Nat) : Int :=
  let length : Int := Int.ofNat numerator.log2 - Int.ofNat denominator.log2
  let (top, bottom) := scaleDown numerator denominator length
  let leading := if top < bottom then length - 1 else length
  max (leading - Int.ofNat fractionBits) leastExponent

/-- The bits of the nonnegative double nearest to `numerator / denominator`,
with a tie going to the even significand.  A ratio beyond the greatest double
gives the bits of infinity. -/
def nearestBits (numerator denominator : Nat) : Nat :=
  if numerator = 0 then 0
  else
    let exponent := lastExponent numerator denominator
    let (top, bottom) := scaleDown numerator denominator exponent
    let bits :=
      (exponent - leastExponent).toNat * Nat.pow 2 fractionBits
        + roundHalfEven top bottom
    min bits (2047 * Nat.pow 2 fractionBits)

def nearest (negative : Bool) (numerator denominator : Nat) : Float :=
  let magnitude := nearestBits numerator denominator
  Float.ofBits (UInt64.ofNat (if negative then magnitude + Nat.pow 2 63 else magnitude))

def ofDecimal (negative : Bool) (digits : Nat) (exponent : Int) : Float :=
  if digits = 0 then nearest negative 0 1
  else
    match exponent with
    | .ofNat amount =>
        if 400 < amount then nearest negative (Nat.pow 10 400) 1
        else nearest negative (digits * Nat.pow 10 amount) 1
    | .negSucc amount =>
        if digits.log2 + 400 < amount then nearest negative 0 1
        else nearest negative digits (Nat.pow 10 (amount + 1))

/-- The double nearest to an integer, or `none` where it lies beyond the
greatest finite double. -/
def ofInt? (n : Int) : Option Float :=
  let rounded := nearest (decide (n < 0)) n.natAbs 1
  if rounded.isInf then none else some rounded

/-- The quiet value that is not a number. -/
def nanFloat : Float := Float.ofBits 0x7ff8000000000000

/-- Infinity of either sign. -/
def infinity (negative : Bool) : Float :=
  Float.ofBits (if negative then 0xfff0000000000000 else 0x7ff0000000000000)

/-- The integer part of a double, toward zero; `none` for values that are not
finite. -/
def truncate? : Double → Option Int
  | .finite negative significand exponent =>
      let magnitude := match exponent with
        | .ofNat amount => significand * Nat.pow 2 amount
        | .negSucc amount => significand / Nat.pow 2 (amount + 1)
      some (if negative then -Int.ofNat magnitude else Int.ofNat magnitude)
  | _ => none

def isIntegral : Double → Bool
  | .finite _ significand (.negSucc amount) =>
      significand % Nat.pow 2 (amount + 1) == 0
  | .finite _ _ (.ofNat _) => true
  | _ => false

end Double

/-! ## Exact comparison of numbers

Integers, doubles and decimals are compared as rational numbers, without
rounding either side to the kind of the other.
-/

/-- A rational number, an infinity, or a value equal to nothing. -/
inductive Exact where
  | undefined
  | infinite (negative : Bool)
  | ratio (numerator : Int) (denominator : Nat)

namespace Exact

def ofInt (n : Int) : Exact := .ratio n 1

def ofDouble : Double → Exact
  | .nan => .undefined
  | .infinite negative => .infinite negative
  | .finite negative significand exponent =>
      let signed : Int := if negative then -Int.ofNat significand else Int.ofNat significand
      match exponent with
      | .ofNat amount => .ratio (signed * Int.ofNat (Nat.pow 2 amount)) 1
      | .negSucc amount => .ratio signed (Nat.pow 2 (amount + 1))

def ofFloat (x : Float) : Exact := ofDouble (Double.ofFloat x)

/-- Equality of numbers; an undefined number equals nothing. -/
def equal : Exact → Exact → Bool
  | .infinite left, .infinite right => left == right
  | .ratio leftTop leftBottom, .ratio rightTop rightBottom =>
      leftTop * rightBottom == rightTop * leftBottom
  | _, _ => false

theorem equal_comm (left right : Exact) : left.equal right = right.equal left := by
  cases left <;> cases right <;> simp only [equal]
  · exact Bool.beq_comm
  · exact Bool.beq_comm

/-- Strict order of numbers; an undefined number is comparable with nothing. -/
def less : Exact → Exact → Bool
  | .undefined, _ => false
  | _, .undefined => false
  | .infinite left, .infinite right => left && !right
  | .infinite left, .ratio _ _ => left
  | .ratio _ _, .infinite right => !right
  | .ratio leftTop leftBottom, .ratio rightTop rightBottom =>
      decide (leftTop * rightBottom < rightTop * leftBottom)

def isIntegral : Exact → Bool
  | .ratio numerator denominator => numerator % (denominator : Int) == 0
  | _ => false

end Exact

end DocStore
