import Mathlib
import DocStore.Number.Shortest
import DocStore.Proofs.Double.Bits

/-!
# Shortest digits read back

Every candidate that the search accepts is rounded to the double, and so are the
seventeen digits that it falls back on.
-/

namespace DocStore

namespace ShortDigits

open Double (IsPositive IsNarrow RoundsTo)

theorem scaleDown_pos {numerator denominator : Nat} (positive : 0 < denominator)
    (grid : Int) : 0 < (scaleDown numerator denominator grid).2 := by
  cases grid with
  | ofNat amount => exact Nat.mul_pos positive (Nat.pow_pos (by decide))
  | negSucc amount => exact positive

/-- Scaling down divides by a power of ten. -/
theorem scaleDown_ratio (numerator denominator : Nat) (grid : Int) :
    ((scaleDown numerator denominator grid).1 : ℚ) /
        (scaleDown numerator denominator grid).2 =
      numerator / denominator / 10 ^ grid := by
  cases grid with
  | ofNat amount =>
      change (numerator : ℚ) / ((denominator * 10 ^ amount : Nat) : ℚ) = _
      rw [Int.ofNat_eq_natCast, zpow_natCast]
      push_cast
      rw [div_div]
  | negSucc amount =>
      change ((numerator * 10 ^ (amount + 1) : Nat) : ℚ) / (denominator : ℚ) = _
      rw [zpow_negSucc]
      push_cast
      rw [div_inv_eq_mul]
      ring

/-! ## Digits -/

theorem pow_digitCount_le {number : Nat} (positive : 0 < number) :
    10 ^ (digitCount number - 1) ≤ number := by
  by_contra above
  rcases Nat.eq_zero_or_pos (digitCount number - 1) with none | some
  · rw [none] at above
    omega
  · have short : digitCount number ≤ digitCount number - 1 :=
      (Nat.length_toDigits_le_iff (by decide) some).mpr (Nat.lt_of_not_le above)
    omega

theorem pow_digitCount_scaled_le {numerator denominator scale : Nat}
    (positive : 0 < denominator) (large : denominator ≤ numerator * scale) :
    (10 : ℚ) ^ (digitCount (numerator * scale / denominator) - 1) ≤
      numerator / denominator * scale :=
  calc (10 : ℚ) ^ (digitCount (numerator * scale / denominator) - 1)
      ≤ (numerator * scale / denominator : Nat) := by
        exact_mod_cast pow_digitCount_le (Nat.div_pos large positive)
    _ ≤ ((numerator * scale : Nat) : ℚ) / denominator := Nat.cast_div_le
    _ = numerator / denominator * scale := by
        push_cast
        ring

/-- The leading exponent is not above the number. -/
theorem pow_leadingExponent_le {numerator denominator : Nat} (positive : 0 < denominator)
    (large : 1 / 10 ^ 400 ≤ (numerator : ℚ) / denominator) :
    (10 : ℚ) ^ leadingExponent numerator denominator ≤ numerator / denominator := by
  obtain ⟨scale, isScale⟩ : ∃ scale : Nat, scale = 10 ^ 400 := ⟨_, rfl⟩
  have scaleRat : (scale : ℚ) = 10 ^ 400 := by rw [isScale, Nat.cast_pow, Nat.cast_ofNat]
  have denominatorPos : (0 : ℚ) < denominator := by exact_mod_cast positive
  have least : (10 : ℚ) ^ (digitCount (numerator * scale / denominator) - 1) ≤
      numerator / denominator * scale := by
    refine pow_digitCount_scaled_le positive ?_
    rw [← scaleRat, div_le_div_iff₀ (by rw [scaleRat]; positivity) denominatorPos,
      one_mul] at large
    exact_mod_cast large
  have counted : 0 < digitCount (numerator * scale / denominator) :=
    List.length_pos_of_ne_nil Nat.toDigits_ne_nil
  have shifted : leadingExponent numerator denominator =
      ((digitCount (numerator * scale / denominator) - 1 : Nat) : Int) - 400 := by
    simp only [leadingExponent, Nat.pow_eq, ← isScale, Int.ofNat_eq_natCast]
    omega
  rw [shifted, zpow_sub₀ (by norm_num), zpow_natCast,
    show (400 : Int) = ((400 : Nat) : Int) from rfl, zpow_natCast,
    div_le_iff₀ (by positivity), ← scaleRat]
  exact least

/-- Dropping zeros keeps the number. -/
theorem dropZeros_value (fuel digits : Nat) (grid : Int) :
    ((dropZeros fuel digits grid).1 : ℚ) * 10 ^ (dropZeros fuel digits grid).2 =
      digits * 10 ^ grid := by
  induction fuel generalizing digits grid with
  | zero => rfl
  | succ fuel ih =>
      rw [dropZeros]
      split
      · rename_i zero
        have whole : digits = digits / 10 * 10 := by omega
        rw [ih, zpow_add₀ (by norm_num), zpow_one]
        conv_rhs => rw [whole]
        push_cast
        ring
      · rfl

theorem trimmed_value (found : Nat × Int) :
    ((trimmed found).digits : ℚ) *
        10 ^ ((trimmed found).leading + 1 - digitCount (trimmed found).digits) =
      found.1 * 10 ^ found.2 := by
  have grid : (trimmed found).leading + 1 - digitCount (trimmed found).digits =
      (dropZeros 20 found.1 found.2).2 := by
    simp only [trimmed, Int.ofNat_eq_natCast]
    omega
  rw [grid]
  exact dropZeros_value 20 found.1 found.2

/-! ## The interval of a double -/

theorem interval_eq (significand : Nat) (exponent : Int) :
    ∃ scale denominator : Nat, 0 < denominator ∧ (scale : ℚ) / denominator = 2 ^ exponent / 4 ∧
      Interval.of significand exponent =
        { lower := (4 * significand - if significand == 2 ^ 52 && exponent != -1074
            then 1 else 2) * scale
          value := 4 * significand * scale
          upper := (4 * significand + 2) * scale
          denominator := denominator
          closed := significand % 2 == 0 } := by
  cases exponent with
  | ofNat amount =>
      refine ⟨2 ^ amount, 4, by decide, ?_, rfl⟩
      rw [Int.ofNat_eq_natCast, zpow_natCast]
      norm_num
  | negSucc amount =>
      refine ⟨1, 4 * 2 ^ (amount + 1), Nat.mul_pos (by decide) (Nat.pow_pos (by decide)), ?_, rfl⟩
      rw [zpow_negSucc]
      push_cast
      field_simp

/-- A candidate that is admitted lies between the ends, and strictly between the ends
of an open interval. -/
theorem Interval.between_of_admits {interval : Interval} (positive : 0 < interval.denominator)
    {candidate : Nat} {grid : Int} (admitted : interval.admits candidate grid = true) :
    ((interval.lower : ℚ) / interval.denominator ≤ candidate * 10 ^ grid ∧
        candidate * 10 ^ grid ≤ (interval.upper : ℚ) / interval.denominator) ∧
      (interval.closed = false →
        (interval.lower : ℚ) / interval.denominator < candidate * 10 ^ grid ∧
          candidate * 10 ^ grid < (interval.upper : ℚ) / interval.denominator) := by
  have lowerPos : (0 : ℚ) < (scaleDown interval.lower interval.denominator grid).2 := by
    exact_mod_cast scaleDown_pos positive grid
  have upperPos : (0 : ℚ) < (scaleDown interval.upper interval.denominator grid).2 := by
    exact_mod_cast scaleDown_pos positive grid
  have unitPos : (0 : ℚ) < 10 ^ grid := by positivity
  rw [← div_le_iff₀ unitPos, ← le_div_iff₀ unitPos, ← div_lt_iff₀ unitPos,
    ← lt_div_iff₀ unitPos, ← scaleDown_ratio, ← scaleDown_ratio, div_le_iff₀ lowerPos,
    le_div_iff₀ upperPos, div_lt_iff₀ lowerPos, lt_div_iff₀ upperPos]
  simp only [admits] at admitted
  split at admitted
  · rename_i isClosed
    simp only [Bool.and_eq_true, decide_eq_true_eq] at admitted
    refine ⟨⟨by exact_mod_cast admitted.1, by exact_mod_cast admitted.2⟩, fun isOpen => ?_⟩
    rw [isOpen] at isClosed
    cases isClosed
  · simp only [Bool.and_eq_true, decide_eq_true_eq] at admitted
    have strictly : ((scaleDown interval.lower interval.denominator grid).1 : ℚ) <
        candidate * (scaleDown interval.lower interval.denominator grid).2 ∧
        candidate * ((scaleDown interval.upper interval.denominator grid).2 : ℚ) <
          (scaleDown interval.upper interval.denominator grid).1 :=
      ⟨by exact_mod_cast admitted.1, by exact_mod_cast admitted.2⟩
    exact ⟨⟨strictly.1.le, strictly.2.le⟩, fun _ => strictly⟩

theorem Interval.admits_of_onGrid? {interval : Interval} {grid : Int} {candidate : Nat}
    (found : interval.onGrid? grid = some candidate) :
    interval.admits candidate grid = true := by
  simp only [onGrid?] at found
  split_ifs at found <;> cases found <;> assumption

/-- What holds of every admitted candidate and of the last rounding holds of the digits
that the search finds. -/
theorem search_induction {interval : Interval} {leading : Int} (property : Nat → Int → Prop)
    (admitted : ∀ candidate grid, interval.admits candidate grid = true →
      property candidate grid)
    (attempts : Nat) (grid : Int)
    (last : property
      (Double.roundHalfEven
        (scaleDown interval.value interval.denominator (grid - attempts)).1
        (scaleDown interval.value interval.denominator (grid - attempts)).2)
      (grid - attempts)) :
    property (search interval leading attempts grid).1
      (search interval leading attempts grid).2 := by
  induction attempts generalizing grid with
  | zero => simpa [search] using last
  | succ attempts ih =>
      rw [search]
      split
      · rename_i candidate found
        exact admitted candidate grid (Interval.admits_of_onGrid? found)
      · refine ih (grid - 1) ?_
        rw [show grid - 1 - (attempts : Int) = grid - (attempts + 1 : Nat) by omega]
        exact last

/-- The number on a grid next to the value of an interval. -/
theorem rounded_near {interval : Interval} (positive : 0 < interval.denominator) (grid : Int) :
    |(Double.roundHalfEven (scaleDown interval.value interval.denominator grid).1
        (scaleDown interval.value interval.denominator grid).2 : ℚ) * 10 ^ grid -
      interval.value / interval.denominator| ≤ 10 ^ grid / 2 := by
  have unitPos : (0 : ℚ) < 10 ^ grid := by positivity
  have scaled := scaleDown_ratio interval.value interval.denominator grid
  have bottomPos : 0 < (scaleDown interval.value interval.denominator grid).2 :=
    scaleDown_pos positive grid
  generalize (scaleDown interval.value interval.denominator grid).1 = top at *
  generalize (scaleDown interval.value interval.denominator grid).2 = bottom at *
  obtain ⟨above, below⟩ := @Double.roundHalfEven_near top bottom bottomPos
  generalize Double.roundHalfEven top bottom = rounded at *
  have aboveRat : 2 * (top : ℚ) ≤ 2 * (rounded * bottom) + bottom := by exact_mod_cast above
  have belowRat : 2 * ((rounded : ℚ) * bottom) ≤ 2 * top + bottom := by exact_mod_cast below
  have bottomRat : (0 : ℚ) < bottom := by exact_mod_cast bottomPos
  have inUnits : (interval.value : ℚ) / interval.denominator = top / bottom * 10 ^ grid := by
    rw [scaled]
    field_simp
  have cleared : (top : ℚ) = top / bottom * bottom := by field_simp
  have distance : |(rounded : ℚ) - top / bottom| ≤ 1 / 2 := by
    rw [abs_le]
    constructor
    · nlinarith
    · nlinarith
  rw [inUnits, ← sub_mul, abs_mul, abs_of_pos unitPos]
  nlinarith

section Search

variable {significand : Nat} {exponent : Int} (isPositive : IsPositive significand exponent)

include isPositive

/-- What is in the interval of a double is rounded to it. -/
theorem roundsTo_of_admits {candidate : Nat} {grid : Int}
    (admitted : (Interval.of significand exponent).admits candidate grid = true) :
    RoundsTo significand exponent (candidate * 10 ^ grid) := by
  obtain ⟨scale, denominator, positive, unit, isInterval⟩ := interval_eq significand exponent
  rw [isInterval] at admitted
  obtain ⟨⟨least, greatest⟩, strictly⟩ := Interval.between_of_admits positive admitted
  dsimp only at least greatest strictly
  have unitPos : (0 : ℚ) < 2 ^ exponent := by positivity
  have some : (1 : ℚ) ≤ significand := by exact_mod_cast isPositive.positive
  have ends (amount : ℕ) :
      ((amount * scale : ℕ) : ℚ) / denominator = amount / 4 * 2 ^ exponent := by
    push_cast
    rw [mul_div_assoc, unit]
    ring
  rw [ends, ← le_div_iff₀ unitPos] at least
  rw [ends, ← div_le_iff₀ unitPos] at greatest
  rw [ends, ends, ← lt_div_iff₀ unitPos, ← div_lt_iff₀ unitPos] at strictly
  have widths : ((4 * significand - if significand == 2 ^ 52 && exponent != -1074
      then 1 else 2 : Nat) : ℚ) =
        4 * significand - if significand == 2 ^ 52 && exponent != -1074 then 1 else 2 := by
    have := isPositive.positive
    split
    · rw [Nat.cast_sub (by omega)]
      push_cast
      ring
    · rw [Nat.cast_sub (by omega)]
      push_cast
      ring
  rw [widths] at least strictly
  push_cast at greatest strictly
  constructor
  · split at least <;> linarith
  · intro narrow
    rw [if_pos (by simpa [IsNarrow] using narrow)] at least
    linarith
  · linarith
  · intro odd
    obtain ⟨strictBelow, strictAbove⟩ := strictly (by simp [odd])
    refine ⟨?_, by linarith⟩
    split at strictBelow <;> linarith

/-- Rounding on a grid that is fine enough stays in the interval of a double. -/
theorem roundsTo_of_near {candidate : ℚ} {unit : ℚ}
    (near : |candidate - significand * 2 ^ exponent| ≤ unit / 2)
    (fine : unit * 10 ^ 16 ≤ significand * 2 ^ exponent) :
    RoundsTo significand exponent candidate := by
  have unitPos : (0 : ℚ) < 2 ^ exponent := by positivity
  have bounded : (significand : ℚ) + 1 ≤ 2 ^ 53 := by exact_mod_cast isPositive.bounded
  obtain ⟨scaled, isScaled⟩ : ∃ scaled, candidate = scaled * 2 ^ exponent :=
    ⟨candidate / 2 ^ exponent, by field_simp⟩
  have inUnits : candidate / 2 ^ exponent = scaled := by
    rw [isScaled]
    field_simp
  have distance : |scaled - significand| * 2 ^ exponent ≤ unit / 2 := by
    rw [isScaled, ← sub_mul, abs_mul, abs_of_pos unitPos] at near
    exact near
  have close : |scaled - significand| * (2 * 10 ^ 16) ≤ significand := by
    have product : |scaled - significand| * (2 * 10 ^ 16) * 2 ^ exponent ≤
        significand * 2 ^ exponent := by linarith
    exact le_of_mul_le_mul_right product unitPos
  obtain ⟨below, above⟩ := abs_le.mp (le_refl |scaled - significand|)
  norm_num at bounded
  constructor
  · rw [inUnits]
    linarith
  · intro narrow
    have isPower : (significand : ℚ) = 2 ^ 52 := by exact_mod_cast narrow.1
    rw [inUnits]
    norm_num at isPower
    linarith
  · rw [inUnits]
    linarith
  · intro _
    rw [inUnits]
    exact ⟨by linarith, by linarith⟩

omit isPositive in
theorem interval_value : ((Interval.of significand exponent).value : ℚ) /
    (Interval.of significand exponent).denominator = significand * 2 ^ exponent ∧
      0 < (Interval.of significand exponent).denominator := by
  obtain ⟨scale, denominator, positive, unit, isInterval⟩ := interval_eq significand exponent
  rw [isInterval]
  refine ⟨?_, positive⟩
  push_cast
  rw [mul_div_assoc, unit]
  ring

/-- A positive double is not too small for the leading exponent. -/
theorem value_large : 1 / 10 ^ 400 ≤ (significand : ℚ) * 2 ^ exponent := by
  have some : (1 : ℚ) ≤ significand := by exact_mod_cast isPositive.positive
  calc (1 : ℚ) / 10 ^ 400 ≤ 1 / 2 ^ 1200 :=
        one_div_le_one_div_of_le (by positivity) (Double.two_pow_le_ten_pow 400)
    _ = 2 ^ (-1200 : Int) := by
        rw [one_div, zpow_neg, show (1200 : Int) = ((1200 : Nat) : Int) from rfl, zpow_natCast]
    _ ≤ 2 ^ exponent := zpow_le_zpow_right₀ (by norm_num) (by have := isPositive.least; omega)
    _ ≤ significand * 2 ^ exponent := le_mul_of_one_le_left (by positivity) some

/-- The digits that the search finds are rounded to the double. -/
theorem roundsTo_search {interval : Interval}
    (isInterval : interval = Interval.of significand exponent) :
    RoundsTo significand exponent
      ((search interval (leadingExponent interval.value interval.denominator) 16
          (leadingExponent interval.value interval.denominator)).1 *
        10 ^ (search interval (leadingExponent interval.value interval.denominator) 16
          (leadingExponent interval.value interval.denominator)).2) := by
  obtain ⟨isValue, positive⟩ := @interval_value significand exponent
  rw [← isInterval] at isValue positive
  have leading := pow_leadingExponent_le positive (isValue ▸ value_large isPositive)
  rw [isValue] at leading
  refine search_induction (fun candidate grid =>
    RoundsTo significand exponent (candidate * 10 ^ grid)) ?_ 16 _ ?_
  · intro candidate grid admitted
    rw [isInterval] at admitted
    exact roundsTo_of_admits isPositive admitted
  · refine roundsTo_of_near isPositive (isValue ▸ rounded_near positive _) ?_
    rw [← zpow_natCast, ← zpow_add₀ (by norm_num)]
    simpa using leading

/-- The digits of a double are rounded to it. -/
theorem roundsTo_of :
    RoundsTo significand exponent ((ShortDigits.of significand exponent).digits *
      10 ^ ((ShortDigits.of significand exponent).leading + 1 -
        digitCount (ShortDigits.of significand exponent).digits)) := by
  have rounds := roundsTo_search isPositive rfl
  rw [← trimmed_value] at rounds
  exact rounds

end Search

end ShortDigits

end DocStore
