import Mathlib
import DocStore.Number.Double

/-!
# The double nearest to a ratio

The bits of a double number all doubles of one sign in their order.  A ratio that
lies nearer to a double than to its neighbours, or halfway to one of them while the
significand is even, is rounded to that double.
-/

namespace DocStore

namespace Double

/-! ## Rounding to integers -/

/-- Between the halves around an integer a ratio is rounded to it; the halves belong to
even integers. -/
theorem roundHalfEven_eq {numerator denominator number : Nat}
    (below : 2 * number * denominator ≤ 2 * numerator + denominator)
    (above : 2 * numerator ≤ (2 * number + 1) * denominator)
    (strictly : number % 2 = 1 → 2 * number * denominator < 2 * numerator + denominator ∧
      2 * numerator < (2 * number + 1) * denominator)
    (positive : 0 < denominator) :
    roundHalfEven numerator denominator = number := by
  have divided := Nat.div_add_mod numerator denominator
  have small := Nat.mod_lt numerator positive
  unfold roundHalfEven
  dsimp only
  generalize numerator / denominator = quotient at divided ⊢
  generalize numerator % denominator = remainder at divided small ⊢
  have notBelow : quotient ≤ number := by
    by_contra less
    have : (2 * number + 1) * denominator + denominator ≤ 2 * (denominator * quotient) := by
      nlinarith
    omega
  have notAbove : number ≤ quotient + 1 := by
    by_contra more
    have : 2 * (denominator * quotient) + 4 * denominator ≤ 2 * number * denominator := by
      nlinarith
    omega
  have near : number = quotient ∨ number = quotient + 1 := by omega
  rcases near with rfl | rfl
  · have twice : 2 * number * denominator = 2 * (denominator * number) := by ring
    have half : (2 * number + 1) * denominator = 2 * (denominator * number) + denominator := by
      ring
    rw [twice, half] at strictly
    rw [half] at above
    split
    · rfl
    · split
      · omega
      · rw [if_pos (by omega)]
  · have twice : 2 * (quotient + 1) * denominator =
        2 * (denominator * quotient) + 2 * denominator := by ring
    have half : (2 * (quotient + 1) + 1) * denominator =
        2 * (denominator * quotient) + 3 * denominator := by ring
    rw [twice, half] at strictly
    rw [twice] at below
    split
    · omega
    · split
      · rfl
      · rw [if_neg (by omega)]

/-- Rounding moves a ratio by half a unit at most. -/
theorem roundHalfEven_near {numerator denominator : Nat} (positive : 0 < denominator) :
    2 * numerator ≤ 2 * (roundHalfEven numerator denominator * denominator) + denominator ∧
      2 * (roundHalfEven numerator denominator * denominator) ≤ 2 * numerator + denominator := by
  have divided := Nat.div_add_mod numerator denominator
  have small := Nat.mod_lt numerator positive
  unfold roundHalfEven
  dsimp only
  generalize numerator / denominator = quotient at divided ⊢
  generalize numerator % denominator = remainder at divided small ⊢
  have down : quotient * denominator = denominator * quotient := Nat.mul_comm _ _
  have up : (quotient + 1) * denominator = denominator * quotient + denominator := by ring
  split
  · omega
  · split
    · omega
    · split <;> omega

/-! ## The binary exponent of a ratio -/

theorem scaleDown_pos {numerator denominator : Nat} (positive : 0 < denominator)
    (exponent : Int) : 0 < (scaleDown numerator denominator exponent).2 := by
  cases exponent with
  | ofNat amount => exact Nat.mul_pos positive (Nat.pow_pos (by decide))
  | negSucc amount => exact positive

/-- Scaling down divides by a power of two. -/
theorem scaleDown_ratio (numerator denominator : Nat) (exponent : Int) :
    ((scaleDown numerator denominator exponent).1 : ℚ) /
        (scaleDown numerator denominator exponent).2 =
      numerator / denominator / 2 ^ exponent := by
  cases exponent with
  | ofNat amount =>
      change (numerator : ℚ) / ((denominator * 2 ^ amount : Nat) : ℚ) = _
      rw [Int.ofNat_eq_natCast, zpow_natCast]
      push_cast
      rw [div_div]
  | negSucc amount =>
      change ((numerator * 2 ^ (amount + 1) : Nat) : ℚ) / (denominator : ℚ) = _
      rw [zpow_negSucc]
      push_cast
      rw [div_inv_eq_mul]
      ring

/-- Only one power of two is the last one that a number reaches. -/
theorem leading_unique {number : ℚ} {left right : Int}
    (leftLeast : (2 : ℚ) ^ left ≤ number) (leftBelow : number < 2 ^ (left + 1))
    (rightLeast : (2 : ℚ) ^ right ≤ number) (rightBelow : number < 2 ^ (right + 1)) :
    left = right := by
  have forward : left < right + 1 :=
    (zpow_lt_zpow_iff_right₀ (by norm_num)).mp (leftLeast.trans_lt rightBelow)
  have backward : right < left + 1 :=
    (zpow_lt_zpow_iff_right₀ (by norm_num)).mp (rightLeast.trans_lt leftBelow)
  omega

theorem log2_bounds {number : Nat} (positive : 0 < number) :
    (2 : ℚ) ^ (number.log2 : Int) ≤ number ∧ (number : ℚ) < 2 ^ ((number.log2 : Int) + 1) := by
  have least : 2 ^ number.log2 ≤ number := Nat.log2_self_le (Nat.ne_of_gt positive)
  have below : number < 2 ^ (number.log2 + 1) := Nat.lt_log2_self
  rw [zpow_natCast, ← Nat.cast_succ, zpow_natCast]
  exact ⟨by exact_mod_cast least, by exact_mod_cast below⟩

/-- The ratio lies between two powers of two, of which the lower one tells the
exponent. -/
theorem lastExponent_eq {numerator denominator : Nat} (positive : 0 < denominator)
    {leading : Int} (atLeast : (2 : ℚ) ^ leading ≤ numerator / denominator)
    (below : (numerator : ℚ) / denominator < 2 ^ (leading + 1)) :
    lastExponent numerator denominator = max (leading - 52) (-1074) := by
  have denominatorPos : (0 : ℚ) < denominator := by exact_mod_cast positive
  have ratioPos : (0 : ℚ) < numerator / denominator := lt_of_lt_of_le (by positivity) atLeast
  have numeratorPos : 0 < numerator := by
    by_contra none
    rw [Nat.eq_zero_of_not_pos none] at ratioPos
    simp at ratioPos
  obtain ⟨topLeast, topBelow⟩ := log2_bounds numeratorPos
  obtain ⟨bottomLeast, bottomBelow⟩ := log2_bounds positive
  let length : Int := Int.ofNat numerator.log2 - Int.ofNat denominator.log2
  have ratioBelow : (numerator : ℚ) / denominator < 2 ^ (length + 1) := by
    rw [div_lt_iff₀ denominatorPos]
    calc (numerator : ℚ) < 2 ^ ((numerator.log2 : Int) + 1) := topBelow
      _ = 2 ^ (length + 1) * 2 ^ (denominator.log2 : Int) := by
          rw [← zpow_add₀ (by norm_num)]
          congr 1
          simp only [length, Int.ofNat_eq_natCast]
          ring
      _ ≤ 2 ^ (length + 1) * denominator := by gcongr
  have ratioLeast : (2 : ℚ) ^ (length - 1) ≤ numerator / denominator := by
    rw [le_div_iff₀ denominatorPos]
    calc (2 : ℚ) ^ (length - 1) * denominator
        ≤ 2 ^ (length - 1) * 2 ^ ((denominator.log2 : Int) + 1) := by gcongr
      _ = 2 ^ (numerator.log2 : Int) := by
          rw [← zpow_add₀ (by norm_num)]
          congr 1
          simp only [length, Int.ofNat_eq_natCast]
          ring
      _ ≤ numerator := topLeast
  have scaled := scaleDown_ratio numerator denominator length
  have scaledPos : (0 : ℚ) < (scaleDown numerator denominator length).2 := by
    exact_mod_cast scaleDown_pos positive length
  have compared : (scaleDown numerator denominator length).1 <
      (scaleDown numerator denominator length).2 ↔
        (numerator : ℚ) / denominator < 2 ^ length := by
    rw [← div_lt_one (by positivity : (0 : ℚ) < 2 ^ length), ← scaled, div_lt_one scaledPos]
    exact Nat.cast_lt.symm
  have exact : (if (scaleDown numerator denominator length).1 <
      (scaleDown numerator denominator length).2 then length - 1 else length) = leading := by
    split
    · rename_i less
      refine leading_unique ratioLeast ?_ atLeast below
      rw [Int.sub_add_cancel]
      exact compared.mp less
    · rename_i more
      exact leading_unique (not_lt.mp (compared.not.mp more)) ratioBelow atLeast below
  unfold lastExponent
  change max ((if (scaleDown numerator denominator length).1 <
    (scaleDown numerator denominator length).2 then length - 1 else length) - 52) (-1074) = _
  rw [exact]

/-! ## Rounding to doubles -/

/-- The significands and exponents of positive finite doubles. -/
structure IsPositive (significand : Nat) (exponent : Int) : Prop where
  positive : 0 < significand
  bounded : significand < 2 ^ 53
  full : -1074 < exponent → 2 ^ 52 ≤ significand
  least : -1074 ≤ exponent
  greatest : exponent ≤ 971

/-- Below a power of two the neighbouring double is half as far away. -/
def IsNarrow (significand : Nat) (exponent : Int) : Prop :=
  significand = 2 ^ 52 ∧ exponent ≠ -1074

/-- A number lies between the halves around a double, in units of its last bit.  The
halves belong to even significands. -/
structure RoundsTo (significand : Nat) (exponent : Int) (number : ℚ) : Prop where
  below : 2 * (significand : ℚ) - 1 ≤ 2 * (number / 2 ^ exponent)
  belowNarrow : IsNarrow significand exponent →
    4 * (significand : ℚ) - 1 ≤ 4 * (number / 2 ^ exponent)
  above : 2 * (number / 2 ^ exponent) ≤ 2 * (significand : ℚ) + 1
  strictly : significand % 2 = 1 →
    2 * (significand : ℚ) - 1 < 2 * (number / 2 ^ exponent) ∧
      2 * (number / 2 ^ exponent) < 2 * (significand : ℚ) + 1

/-- Rounding a scaled ratio to the integer that it is near to. -/
theorem roundHalfEven_scaleDown {numerator denominator : Nat} (positive : 0 < denominator)
    {exponent : Int} {number : Nat}
    (below : 2 * (number : ℚ) - 1 ≤ 2 * (numerator / denominator / 2 ^ exponent))
    (above : 2 * ((numerator : ℚ) / denominator / 2 ^ exponent) ≤ 2 * (number : ℚ) + 1)
    (strictly : number % 2 = 1 →
      2 * (number : ℚ) - 1 < 2 * (numerator / denominator / 2 ^ exponent) ∧
        2 * ((numerator : ℚ) / denominator / 2 ^ exponent) < 2 * (number : ℚ) + 1) :
    roundHalfEven (scaleDown numerator denominator exponent).1
      (scaleDown numerator denominator exponent).2 = number := by
  have scaledPos : 0 < (scaleDown numerator denominator exponent).2 :=
    scaleDown_pos positive exponent
  rw [← scaleDown_ratio] at below above strictly
  generalize (scaleDown numerator denominator exponent).1 = top at *
  generalize (scaleDown numerator denominator exponent).2 = bottom at *
  have bottomPos : (0 : ℚ) < bottom := by exact_mod_cast scaledPos
  have cleared : (top : ℚ) = top / bottom * bottom := by field_simp
  refine roundHalfEven_eq ?_ ?_ ?_ scaledPos
  · have : 2 * (number : ℚ) * bottom ≤ 2 * top + bottom := by
      rw [cleared]
      nlinarith
    exact_mod_cast this
  · have : 2 * (top : ℚ) ≤ (2 * number + 1) * bottom := by
      rw [cleared]
      nlinarith
    exact_mod_cast this
  · intro odd
    obtain ⟨strictBelow, strictAbove⟩ := strictly odd
    have first : 2 * (number : ℚ) * bottom < 2 * top + bottom := by
      rw [cleared]
      nlinarith
    have second : 2 * (top : ℚ) < (2 * number + 1) * bottom := by
      rw [cleared]
      nlinarith
    exact ⟨by exact_mod_cast first, by exact_mod_cast second⟩

section NearestBits

variable {significand numerator denominator : Nat} {exponent : Int}
  (isPositive : IsPositive significand exponent) (positive : 0 < denominator)
  (rounds : RoundsTo significand exponent (numerator / denominator))

include isPositive positive rounds

/-- A ratio that is rounded to a double has its exponent, or lies just below a power of
two. -/
theorem lastExponent_cases :
    lastExponent numerator denominator = exponent ∨
      (significand = 2 ^ 52 ∧ -1074 < exponent ∧
        (numerator : ℚ) / denominator / 2 ^ exponent < 2 ^ 52 ∧
        lastExponent numerator denominator = exponent - 1) := by
  have unitPos : (0 : ℚ) < 2 ^ exponent := by positivity
  have bounded : (significand : ℚ) + 1 ≤ 2 ^ 53 := by exact_mod_cast isPositive.bounded
  have least := isPositive.least
  set ratio : ℚ := numerator / denominator with isRatio
  have inUnits : ratio = ratio / 2 ^ exponent * 2 ^ exponent := by field_simp
  have significandPos : (1 : ℚ) ≤ significand := by exact_mod_cast isPositive.positive
  have ratioPos : 0 < ratio := by
    rw [inUnits]
    have := rounds.below
    have : 0 < ratio / 2 ^ exponent := by linarith
    positivity
  obtain ⟨leading, atLeast, below⟩ :=
    exists_mem_Ico_zpow ratioPos (by norm_num : (1 : ℚ) < 2)
  have leadingBelow : leading ≤ exponent + 52 := by
    have ratioBelow : ratio < 2 ^ (exponent + 53) := by
      rw [inUnits, zpow_add₀ (by norm_num), mul_comm]
      have := rounds.above
      gcongr
      norm_num at bounded ⊢
      linarith
    have := (zpow_lt_zpow_iff_right₀ (by norm_num : (1 : ℚ) < 2)).mp
      (atLeast.trans_lt ratioBelow)
    omega
  rw [lastExponent_eq positive atLeast below]
  by_cases inside : (2 : ℚ) ^ 52 ≤ ratio / 2 ^ exponent ∨ exponent = -1074
  · left
    rcases inside with large | isLeast
    · have ratioLeast : (2 : ℚ) ^ (exponent + 52) ≤ ratio := by
        rw [inUnits, zpow_add₀ (by norm_num), mul_comm]
        gcongr
        exact_mod_cast large
      have := (zpow_lt_zpow_iff_right₀ (by norm_num : (1 : ℚ) < 2)).mp
        (ratioLeast.trans_lt below)
      omega
    · omega
  · right
    rw [not_or, not_le] at inside
    obtain ⟨small, notLeast⟩ := inside
    have full := isPositive.full (by omega)
    have isPower : significand = 2 ^ 52 := by
      refine Nat.le_antisymm ?_ full
      by_contra more
      have : (2 : ℚ) ^ 52 + 1 ≤ significand := by exact_mod_cast Nat.lt_of_not_le more
      have := rounds.below
      linarith
    have narrow := rounds.belowNarrow ⟨isPower, notLeast⟩
    refine ⟨isPower, by omega, small, ?_⟩
    have ratioBelow : ratio < 2 ^ (exponent + 52) := by
      rw [inUnits, zpow_add₀ (by norm_num), mul_comm]
      gcongr
      exact_mod_cast small
    have ratioLeast : (2 : ℚ) ^ (exponent + 51) ≤ ratio := by
      rw [inUnits, zpow_add₀ (by norm_num), mul_comm]
      gcongr
      rw [isPower] at narrow
      norm_num at narrow ⊢
      linarith
    have upper := (zpow_lt_zpow_iff_right₀ (by norm_num : (1 : ℚ) < 2)).mp
      (atLeast.trans_lt ratioBelow)
    have lower := (zpow_lt_zpow_iff_right₀ (by norm_num : (1 : ℚ) < 2)).mp
      (ratioLeast.trans_lt below)
    omega

/-- The bits of the double that a ratio is rounded to. -/
theorem nearestBits_eq :
    nearestBits numerator denominator =
      (exponent + 1074).toNat * 2 ^ 52 + significand := by
  have significandPos : (1 : ℚ) ≤ significand := by exact_mod_cast isPositive.positive
  have notZero : numerator ≠ 0 := by
    rintro rfl
    have := rounds.below
    simp at this
    linarith
  have bounded := isPositive.bounded
  have least := isPositive.least
  have greatest := isPositive.greatest
  have bits : (lastExponent numerator denominator - leastExponent).toNat * Nat.pow 2 fractionBits
      + roundHalfEven (scaleDown numerator denominator (lastExponent numerator denominator)).1
        (scaleDown numerator denominator (lastExponent numerator denominator)).2 =
        (exponent + 1074).toNat * 2 ^ 52 + significand := by
    rcases lastExponent_cases isPositive positive rounds with
      same | ⟨isPower, aboveLeast, small, before⟩
    · rw [same, roundHalfEven_scaleDown positive rounds.below rounds.above rounds.strictly]
      rfl
    · have half : (numerator : ℚ) / denominator / 2 ^ (exponent - 1) =
          2 * (numerator / denominator / 2 ^ exponent) := by
        rw [zpow_sub₀ (by norm_num), zpow_one]
        field_simp
      have narrow := rounds.belowNarrow ⟨isPower, by omega⟩
      -- The significand of the lower exponent is rounded up to a carry.
      have carried : roundHalfEven (scaleDown numerator denominator (exponent - 1)).1
          (scaleDown numerator denominator (exponent - 1)).2 = 2 ^ 53 := by
        refine roundHalfEven_scaleDown positive ?_ ?_ (fun odd => by norm_num at odd)
        · rw [half]
          rw [isPower] at narrow
          push_cast at narrow ⊢
          linarith
        · rw [half]
          push_cast
          linarith
      rw [before, carried, isPower]
      have shifted : (exponent + 1074).toNat = (exponent - 1 - leastExponent).toNat + 1 := by
        unfold leastExponent
        omega
      rw [shifted]
      change _ * 2 ^ 52 + 2 ^ 53 = _
      ring
  have finite : (exponent + 1074).toNat * 2 ^ 52 + significand ≤ 2047 * 2 ^ 52 := by
    omega
  unfold nearestBits
  rw [if_neg notZero]
  change min _ (2047 * 2 ^ 52) = _
  rw [← bits] at finite ⊢
  exact Nat.min_eq_left finite

end NearestBits

end Double

end DocStore
