import DocStore.Number.Double

/-!
# Shortest decimal digits of a double

The digits written for a double are the fewest that read back as the same
double, and among those of that length the nearest to its exact value.  For
each count of digits the two neighbours of the value on that decimal grid are
tested against the interval of reals that round to the double.
-/

namespace DocStore

/-- Digits `d₁ d₂ … dₙ` as one natural number, and the power of ten of the
first of them. -/
structure ShortDigits where
  digits : Nat
  leading : Int

namespace ShortDigits

/-- Number of decimal digits of a natural number; zero has one. -/
def digitCount (n : Nat) : Nat := (Nat.toDigits 10 n).length

def scaleDown (numerator denominator : Nat) (exponent : Int) : Nat × Nat :=
  match exponent with
  | .ofNat amount => (numerator, denominator * Nat.pow 10 amount)
  | .negSucc amount => (numerator * Nat.pow 10 (amount + 1), denominator)

/-- The power of ten of the first digit of `numerator / denominator`, a ratio
that is at least `10 ^ (-400)`. -/
def leadingExponent (numerator denominator : Nat) : Int :=
  Int.ofNat (digitCount (numerator * Nat.pow 10 400 / denominator)) - 401

/-- The reals that round to a double: four times each end and four times the
value itself, over the unit `denominator`.  The ends belong to the interval
exactly when `closed` holds. -/
structure Interval where
  lower : Nat
  value : Nat
  upper : Nat
  denominator : Nat
  closed : Bool

/-- The interval of the double `significand * 2 ^ exponent`.  Below a power of
two the neighbouring double is half as far away. -/
def Interval.of (significand : Nat) (exponent : Int) : Interval :=
  let narrow :=
    significand == Nat.pow 2 Double.fractionBits && exponent != Double.leastExponent
  let (scale, denominator) := match exponent with
    | .ofNat amount => (Nat.pow 2 amount, 4)
    | .negSucc amount => (1, 4 * Nat.pow 2 (amount + 1))
  { lower := (4 * significand - if narrow then 1 else 2) * scale
    value := 4 * significand * scale
    upper := (4 * significand + 2) * scale
    denominator := denominator
    closed := significand % 2 == 0 }

def Interval.admits (interval : Interval) (candidate : Nat) (grid : Int) : Bool :=
  let (low, lowUnit) := scaleDown interval.lower interval.denominator grid
  let (high, highUnit) := scaleDown interval.upper interval.denominator grid
  if interval.closed then low ≤ candidate * lowUnit && candidate * highUnit ≤ high
  else low < candidate * lowUnit && candidate * highUnit < high

/-- The candidate on the grid `10 ^ grid` that reads back and is nearest to the
value; of two equally near ones the even one. -/
def Interval.onGrid? (interval : Interval) (grid : Int) : Option Nat :=
  let (top, bottom) := scaleDown interval.value interval.denominator grid
  let below := top / bottom
  let nearestOne := Double.roundHalfEven top bottom
  let other := if nearestOne = below then below + 1 else below
  if interval.admits nearestOne grid then some nearestOne
  else if interval.admits other grid then some other
  else none

/-- Tries grids of growing fineness. -/
def search (interval : Interval) (leading : Int) : Nat → Int → Nat × Int
  | 0, grid => (Double.roundHalfEven (scaleDown interval.value interval.denominator grid).1
      (scaleDown interval.value interval.denominator grid).2, grid)
  | attempts + 1, grid =>
      match interval.onGrid? grid with
      | some digits => (digits, grid)
      | none => search interval leading attempts (grid - 1)

/-- Drops trailing zeros, counting them into the grid. -/
def dropZeros : Nat → Nat → Int → Nat × Int
  | 0, digits, grid => (digits, grid)
  | fuel + 1, digits, grid =>
      if digits ≠ 0 ∧ digits % 10 = 0 then dropZeros fuel (digits / 10) (grid + 1)
      else (digits, grid)

/-- Digits on a grid without their trailing zeros. -/
def trimmed (found : Nat × Int) : ShortDigits :=
  let kept := dropZeros 20 found.1 found.2
  { digits := kept.1
    leading := kept.2 + Int.ofNat (digitCount kept.1) - 1 }

def of (significand : Nat) (exponent : Int) : ShortDigits :=
  let interval := Interval.of significand exponent
  let leading := leadingExponent interval.value interval.denominator
  trimmed (search interval leading 16 leading)

end ShortDigits

/-- How a float is written: positionally while the power of ten of its first
digit lies in `[positionalFrom, positionalBelow)`, and otherwise with an
exponent of at least `exponentDigits` digits. -/
structure FloatFormat where
  positionalFrom : Int
  positionalBelow : Int
  exponentDigits : Nat
  nanText : String
  infinityText : String

namespace FloatFormat

/-- Pads a text of digits with zeros on the left. -/
def padLeft (width : Nat) (digits : List Char) : List Char :=
  List.replicate (width - digits.length) '0' ++ digits

/-- Positional form; an integral value keeps one zero after its point. -/
def positional (digits : List Char) (leading : Int) : List Char :=
  match leading with
  | .ofNat place =>
      let whole := digits.take (place + 1)
      let padded := whole ++ List.replicate (place + 1 - whole.length) '0'
      let fraction := digits.drop (place + 1)
      padded ++ '.' :: (if fraction.isEmpty then ['0'] else fraction)
  | .negSucc places => '0' :: '.' :: (List.replicate places '0' ++ digits)

/-- Form with an exponent; a single digit has no point. -/
def scientific (format : FloatFormat) (digits : List Char) (leading : Int) : List Char :=
  let mantissa := match digits with
    | first :: rest@(_ :: _) => first :: '.' :: rest
    | short => short
  let sign := if leading < 0 then '-' else '+'
  mantissa ++ 'e' :: sign ::
    padLeft format.exponentDigits (Nat.toDigits 10 leading.natAbs)

/-- The text of a nonnegative double. -/
def magnitude (format : FloatFormat) (significand : Nat) (exponent : Int) : List Char :=
  if significand = 0 then ['0', '.', '0']
  else
    let short := ShortDigits.of significand exponent
    let digits := Nat.toDigits 10 short.digits
    if format.positionalFrom ≤ short.leading ∧ short.leading < format.positionalBelow then
      positional digits short.leading
    else scientific format digits short.leading

/-- The text of a double. -/
def render (format : FloatFormat) (x : Float) : String :=
  match Double.ofFloat x with
  | .nan => format.nanText
  | .infinite negative => (if negative then "-" else "") ++ format.infinityText
  | .finite negative significand exponent =>
      let magnitude := format.magnitude significand exponent
      String.ofList (if negative then '-' :: magnitude else magnitude)

end FloatFormat

/-- A double with exactly `places` digits after its point; a half goes to the
even neighbour.  Values that are not finite are written by name. -/
def fixedPlaces (places : Nat) (x : Float) : String :=
  match Double.ofFloat x with
  | .nan => "nan"
  | .infinite negative => if negative then "-inf" else "inf"
  | .finite negative significand exponent =>
      let (top, bottom) := match exponent with
        | .ofNat amount => (significand * Nat.pow 2 amount, 1)
        | .negSucc amount => (significand, Nat.pow 2 (amount + 1))
      let scaled := Double.roundHalfEven (top * Nat.pow 10 places) bottom
      let whole := Nat.toDigits 10 (scaled / Nat.pow 10 places)
      let fraction :=
        FloatFormat.padLeft places (Nat.toDigits 10 (scaled % Nat.pow 10 places))
      let magnitude := if places = 0 then whole else whole ++ '.' :: fraction
      String.ofList (if negative then '-' :: magnitude else magnitude)

end DocStore
