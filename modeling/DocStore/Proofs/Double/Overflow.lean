import Mathlib
import DocStore.Proofs.Double.Nearest

/-!
# Integers beyond the doubles

An integer has no nearest finite double exactly from the middle on between the greatest
double and the next power of two; the middle itself goes up.
-/

namespace DocStore

namespace Double

/-! ## Infinite doubles -/

theorem isInf_infinity (negative : Bool) : (infinity negative).isInf = true := by
  cases negative <;> decide +kernel

/-- Bits without the greatest exponent are those of a finite double. -/
theorem isInf_ofBits {bits : UInt64} (exponent : bits.toNat / 2 ^ 52 % 2 ^ 11 ≠ 2047) :
    (Float.ofBits bits).isInf = false := by
  have notFull : @Float.Model.UnpackedFloat.unpackExponent .binary64 bits.toBitVec ≠ -1#11 := by
    intro full
    apply exponent
    simpa [Float.Model.UnpackedFloat.unpackExponent, BitVec.extractLsb, Nat.shiftRight_eq_div_pow]
      using congrArg BitVec.toNat full
  -- such bits are valid, so that the double has them
  let double : Float := ⟨⟨bits, ⟨fun full => absurd full notFull⟩⟩⟩
  have same : Float.ofBits bits = double := Float.ofBits_toBits double
  rw [same]
  change (Float.Model.UnpackedFloat.unpack .binary64 bits.toBitVec).isInf = false
  unfold Float.Model.UnpackedFloat.unpack
  dsimp only
  rw [if_neg notFull]
  split_ifs <;> rfl

theorem nearestBits_le (numerator denominator : Nat) :
    nearestBits numerator denominator ≤ 2047 * 2 ^ 52 := by
  unfold nearestBits
  split
  · exact Nat.zero_le _
  · exact Nat.min_le_right _ _

theorem isInf_nearest_iff (negative : Bool) (numerator denominator : Nat) :
    (nearest negative numerator denominator).isInf = true ↔
      nearestBits numerator denominator = 2047 * 2 ^ 52 := by
  constructor
  · intro isInf
    by_contra finite
    have below := Nat.lt_of_le_of_ne (nearestBits_le numerator denominator) finite
    refine absurd isInf (Bool.eq_false_iff.mp (isInf_ofBits ?_))
    rw [UInt64.toNat_ofNat']
    cases negative with
    | false => rw [if_neg Bool.false_ne_true]; omega
    | true => rw [if_pos rfl, Nat.pow_eq]; omega
  · intro full
    have same : nearest negative numerator denominator = infinity negative := by
      unfold nearest infinity
      rw [full]
      cases negative <;> rfl
    rw [same, isInf_infinity]

/-! ## Whole numbers -/

/-- An even number is reached from half a unit below it on. -/
theorem le_roundHalfEven_iff {numerator denominator number : Nat} (even : number % 2 = 0)
    (positive : 0 < denominator) :
    number ≤ roundHalfEven numerator denominator ↔
      2 * number * denominator ≤ 2 * numerator + denominator := by
  have divided := Nat.div_add_mod numerator denominator
  have small := Nat.mod_lt numerator positive
  unfold roundHalfEven
  dsimp only
  generalize numerator / denominator = quotient at divided ⊢
  generalize numerator % denominator = remainder at divided small ⊢
  rcases Nat.lt_trichotomy number (quotient + 1) with below | rfl | above
  · have reached : number * denominator ≤ denominator * quotient := by
      rw [Nat.mul_comm]
      exact Nat.mul_le_mul_left _ (Nat.le_of_lt_succ below)
    have twice : 2 * number * denominator = 2 * (number * denominator) := Nat.mul_assoc ..
    refine iff_of_true ?_ (by omega)
    split_ifs <;> omega
  · have twice : 2 * (quotient + 1) * denominator =
        2 * (denominator * quotient) + 2 * denominator := by ring
    split_ifs <;> omega
  · have missed : denominator * (quotient + 2) ≤ number * denominator := by
      rw [Nat.mul_comm]
      exact Nat.mul_le_mul_right _ above
    have twice : 2 * number * denominator = 2 * (number * denominator) := Nat.mul_assoc ..
    rw [Nat.mul_add] at missed
    refine iff_of_false ?_ (by omega)
    split_ifs <;> omega

/-- The first whole number that is rounded beyond the doubles: the middle between the greatest
double and the next power of two. -/
def firstBeyond : Nat := (2 ^ 54 - 1) * 2 ^ 970

theorem two_pow_le_firstBeyond : 2 ^ (53 + 970) ≤ firstBeyond :=
  (pow_add 2 53 970).trans_le (Nat.mul_le_mul_right (2 ^ 970) (by decide))

theorem firstBeyond_le_two_pow : firstBeyond ≤ 2 ^ (54 + 970) :=
  (Nat.mul_le_mul_right (2 ^ 970) (by decide)).trans_eq (pow_add 2 54 970).symm

theorem scaleDown_natCast (numerator denominator amount : Nat) :
    scaleDown numerator denominator amount = (numerator, denominator * 2 ^ amount) := rfl

section Whole

variable {number : Nat} (positive : 0 < number)

include positive

theorem lastExponent_whole : lastExponent number 1 = number.log2 - 52 := by
  obtain ⟨atLeast, below⟩ := log2_bounds positive
  rw [← div_one (number : ℚ), ← Nat.cast_one] at atLeast below
  rw [lastExponent_eq one_pos atLeast below]
  omega

/-- In units of its last bit a whole number has the size of a significand. -/
theorem scaleDown_whole :
    2 ^ 52 * (scaleDown number 1 (number.log2 - 52)).2 ≤
        (scaleDown number 1 (number.log2 - 52)).1 ∧
      (scaleDown number 1 (number.log2 - 52)).1 <
        2 ^ 53 * (scaleDown number 1 (number.log2 - 52)).2 := by
  obtain ⟨atLeast, below⟩ := log2_bounds positive
  have bottomPos : 0 < (scaleDown number 1 (number.log2 - 52)).2 := scaleDown_pos one_pos _
  have ratio := scaleDown_ratio number 1 (number.log2 - 52)
  rw [Nat.cast_one, div_one] at ratio
  generalize (scaleDown number 1 (number.log2 - 52)).1 = top at *
  generalize (scaleDown number 1 (number.log2 - 52)).2 = bottom at *
  have bottomPos : (0 : ℚ) < bottom := by exact_mod_cast bottomPos
  have unitPos : (0 : ℚ) < 2 ^ ((number.log2 : Int) - 52) := by positivity
  have units (amount : Int) : (2 : ℚ) ^ amount * 2 ^ ((number.log2 : Int) - 52) =
      2 ^ (amount + (number.log2 - 52)) := (zpow_add₀ two_ne_zero _ _).symm
  have least : (2 : ℚ) ^ (52 : Int) ≤ top / bottom := by
    rw [ratio, le_div_iff₀ unitPos, units, add_sub_cancel]
    exact atLeast
  have greatest : (top : ℚ) / bottom < 2 ^ (53 : Int) := by
    rw [ratio, div_lt_iff₀ unitPos, units, show (53 : Int) + (number.log2 - 52) = number.log2 + 1
      by ring]
    exact below
  rw [le_div_iff₀ bottomPos] at least
  rw [div_lt_iff₀ bottomPos] at greatest
  exact ⟨by exact_mod_cast least, by exact_mod_cast greatest⟩

theorem nearestBits_whole :
    nearestBits number 1 =
      min ((number.log2 + 1022) * 2 ^ 52 +
        roundHalfEven (scaleDown number 1 (number.log2 - 52)).1
          (scaleDown number 1 (number.log2 - 52)).2) (2047 * 2 ^ 52) := by
  have shifted : ((number.log2 : Int) - 52 - leastExponent).toNat = number.log2 + 1022 := by
    unfold leastExponent
    omega
  unfold nearestBits
  rw [if_neg (Nat.ne_of_gt positive), lastExponent_whole positive]
  dsimp only
  rw [shifted]
  rfl

end Whole

/-- The bits of infinity are nearest to the whole numbers from the first one beyond the doubles
on. -/
theorem nearestBits_whole_iff (number : Nat) :
    nearestBits number 1 = 2047 * 2 ^ 52 ↔ firstBeyond ≤ number := by
  rcases Nat.eq_zero_or_pos number with rfl | positive
  · refine iff_of_false (by decide) (Nat.not_le.mpr ?_)
    exact (pow_pos two_pos _).trans_le two_pow_le_firstBeyond
  obtain ⟨least, greatest⟩ := scaleDown_whole positive
  have bottomPos : 0 < (scaleDown number 1 (number.log2 - 52)).2 := scaleDown_pos one_pos _
  have reaches (bound : Nat) (even : bound % 2 = 0) :=
    @le_roundHalfEven_iff (scaleDown number 1 (number.log2 - 52)).1 _ bound even bottomPos
  have power (bound : Nat) : number.log2 < bound ↔ number < 2 ^ bound :=
    Nat.log2_lt (Nat.ne_of_gt positive)
  rw [nearestBits_whole positive, min_eq_right_iff]
  -- only between the last two powers of two does the rounding decide
  rcases Nat.lt_trichotomy number.log2 (53 + 970) with below | same | above
  · have missed := reaches (2 ^ 53 + 2) (by norm_num)
    refine iff_of_false (by omega) (Nat.not_le.mpr ?_)
    exact ((power (53 + 970)).mp below).trans_le two_pow_le_firstBeyond
  · rw [same] at reaches ⊢
    have scaled : scaleDown number 1 (((53 + 970 : Nat) : Int) - 52) = (number, 1 * 2 ^ 971) :=
      scaleDown_natCast number 1 971
    have reached := reaches (2 ^ 53) (by norm_num)
    rw [scaled] at reached ⊢
    dsimp only at reached ⊢
    have carried : 2047 * 2 ^ 52 ≤ (53 + 970 + 1022) * 2 ^ 52 +
        roundHalfEven number (1 * 2 ^ 971) ↔ 2 ^ 53 ≤ roundHalfEven number (1 * 2 ^ 971) := by
      omega
    rw [carried, reached, firstBeyond, pow_succ _ 970]
    generalize 2 ^ 970 = unit
    omega
  · have reached := reaches (2 ^ 52) (by norm_num)
    refine iff_of_true (by omega) (firstBeyond_le_two_pow.trans ?_)
    exact Nat.not_lt.mp (mt (power (54 + 970)).mpr (Nat.not_lt.mpr above))

/-- An integer has no nearest double exactly if it is beyond the doubles. -/
theorem ofInt?_eq_none_iff (number : Int) :
    ofInt? number = none ↔ firstBeyond ≤ number.natAbs := by
  rw [← nearestBits_whole_iff, ← isInf_nearest_iff (decide (number < 0))]
  unfold ofInt?
  dsimp only
  split <;> simp_all

end Double

end DocStore
