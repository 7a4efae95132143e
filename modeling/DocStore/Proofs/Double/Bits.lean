import Mathlib
import DocStore.Proofs.Double.Nearest

/-!
# The bits of a double

The exact value that is read off a double determines its bits, so a ratio that is
rounded to the exact value gives back the double.
-/

namespace DocStore

namespace Double

variable {x : Float}

theorem eq_ofBits_of_toNat {bits : UInt64} (same : x.toBits.toNat = bits.toNat) :
    x = Float.ofBits bits := by
  rw [← UInt64.toNat_inj.mp same, Float.ofBits_toBits]

/-- There is one value that is not a number. -/
theorem eq_nanFloat (biased : x.toBits.toNat / 2 ^ 52 % 2 ^ 11 = 2047)
    (fraction : x.toBits.toNat % 2 ^ 52 ≠ 0) : x = nanFloat := by
  have packed : Float.Model.UnpackedFloat.packedNaN .binary64 = 0x7ff8000000000000#64 := by
    decide
  have exponentBits : @Float.Model.UnpackedFloat.unpackExponent .binary64 x.toBits.toBitVec =
      -1#11 := by
    apply BitVec.eq_of_toNat_eq
    simpa [Float.Model.UnpackedFloat.unpackExponent, BitVec.extractLsb, Nat.shiftRight_eq_div_pow]
      using biased
  have mantissaBits : @Float.Model.UnpackedFloat.unpackMantissa .binary64 x.toBits.toBitVec ≠
      0#52 := by
    intro none
    apply fraction
    simpa [Float.Model.UnpackedFloat.unpackMantissa, BitVec.extractLsb] using
      congrArg BitVec.toNat none
  have quiet : x.toBits.toBitVec = _ := x.toModel.valid.eq_packedNaN exponentBits mantissaBits
  rw [packed] at quiet
  rw [← Float.ofBits_toBits x, UInt64.toBitVec_inj.mp quiet]
  rfl

/-! ## Reading the fields -/

/-- The bits of a double that is read as a finite number. -/
structure HasBits (x : Float) (negative : Bool) (significand : Nat) (exponent : Int) : Prop where
  value : (significand = 0 ∧ exponent = -1074) ∨ IsPositive significand exponent
  bits : x.toBits.toNat = (if negative then 2 ^ 63 else 0) +
    ((exponent + 1074).toNat * 2 ^ 52 + significand)

theorem ofFloat_eq (x : Float) :
    ofFloat x =
      if x.toBits.toNat / 2 ^ 52 % 2 ^ 11 = 2047 then
        if x.toBits.toNat % 2 ^ 52 = 0 then .infinite (x.toBits.toNat / 2 ^ 63 == 1) else .nan
      else if x.toBits.toNat / 2 ^ 52 % 2 ^ 11 = 0 then
        .finite (x.toBits.toNat / 2 ^ 63 == 1) (x.toBits.toNat % 2 ^ 52) (-1074)
      else
        .finite (x.toBits.toNat / 2 ^ 63 == 1) (2 ^ 52 + x.toBits.toNat % 2 ^ 52)
          ((x.toBits.toNat / 2 ^ 52 % 2 ^ 11 : Nat) - 1075) := rfl

theorem toNat_toBits (x : Float) :
    x.toBits.toNat = (if x.toBits.toNat / 2 ^ 63 == 1 then 2 ^ 63 else 0) +
      (x.toBits.toNat / 2 ^ 52 % 2 ^ 11 * 2 ^ 52 + x.toBits.toNat % 2 ^ 52) := by
  have := x.toBits.toNat_lt
  split
  · rename_i sign
    have := beq_iff_eq.mp sign
    omega
  · rename_i sign
    have := mt beq_iff_eq.mpr sign
    omega

section Fields

variable {negative : Bool}

theorem hasBits_of_finite {significand : Nat} {exponent : Int}
    (read : ofFloat x = .finite negative significand exponent) :
    HasBits x negative significand exponent := by
  have split := toNat_toBits x
  rw [ofFloat_eq] at read
  split_ifs at read with full empty least
  · cases read
    rw [least, Nat.zero_mul] at split
    constructor
    · rcases Nat.eq_zero_or_pos (x.toBits.toNat % 2 ^ 52) with zero | positive
      · exact .inl ⟨zero, rfl⟩
      · exact .inr ⟨positive, by omega, by omega, by omega, by omega⟩
    · rw [neg_add_cancel, Int.toNat_zero, Nat.zero_mul]
      exact split
  · cases read
    have shifted : (((x.toBits.toNat / 2 ^ 52 % 2 ^ 11 : Nat) : Int) - 1075 + 1074).toNat =
        x.toBits.toNat / 2 ^ 52 % 2 ^ 11 - 1 := by omega
    constructor
    · exact .inr ⟨by omega, by omega, by omega, by omega, by omega⟩
    · rw [shifted]
      refine split.trans (congrArg _ ?_)
      omega

theorem eq_of_infinite (read : ofFloat x = .infinite negative) : x = infinity negative := by
  have split := toNat_toBits x
  rw [ofFloat_eq] at read
  split_ifs at read with full empty
  injection read with sign
  rw [sign, full, empty] at split
  apply eq_ofBits_of_toNat
  rw [split]
  cases negative <;> rfl

theorem eq_of_nan (read : ofFloat x = .nan) : x = nanFloat := by
  rw [ofFloat_eq] at read
  split_ifs at read with full empty
  exact eq_nanFloat full empty

theorem nearest_of_bits {numerator denominator significand : Nat} {exponent : Int}
    (hasBits : HasBits x negative significand exponent)
    (bits : nearestBits numerator denominator =
      (exponent + 1074).toNat * 2 ^ 52 + significand) :
    nearest negative numerator denominator = x := by
  have split := hasBits.bits
  rw [← bits] at split
  have whole : (if negative then nearestBits numerator denominator + 2 ^ 63
      else nearestBits numerator denominator) = x.toBits.toNat := by
    rw [split]
    cases negative with
    | false => rw [if_neg Bool.false_ne_true, if_neg Bool.false_ne_true, Nat.zero_add]
    | true => rw [if_pos rfl, if_pos rfl, Nat.add_comm]
  simp only [nearest, Nat.pow_eq]
  rw [whole, UInt64.ofNat_toNat, Float.ofBits_toBits]

/-- A ratio that is rounded to the exact value of a double gives back the double. -/
theorem nearest_eq {significand numerator denominator : Nat} {exponent : Int}
    (hasBits : HasBits x negative significand exponent)
    (isPositive : IsPositive significand exponent) (positive : 0 < denominator)
    (rounds : RoundsTo significand exponent (numerator / denominator)) :
    nearest negative numerator denominator = x :=
  nearest_of_bits hasBits (nearestBits_eq isPositive positive rounds)

theorem nearest_zero (hasBits : HasBits x negative 0 (-1074)) :
    nearest negative 0 1 = x :=
  nearest_of_bits hasBits rfl

/-! ## Decimals -/

theorem two_pow_le_ten_pow (amount : Nat) : (2 : ℚ) ^ (3 * amount) ≤ 10 ^ amount := by
  rw [pow_mul]
  exact pow_le_pow_left₀ (by norm_num) (by norm_num) amount

/-- A number that is rounded to a finite double is not too great. -/
theorem RoundsTo.le {significand : Nat} {exponent : Int} {number : ℚ}
    (rounds : RoundsTo significand exponent number)
    (isPositive : IsPositive significand exponent) : number ≤ 2 ^ 1024 := by
  have bounded : (significand : ℚ) + 1 ≤ 2 ^ 53 := by exact_mod_cast isPositive.bounded
  have above := rounds.above
  calc number = number / 2 ^ exponent * 2 ^ exponent := by field_simp
    _ ≤ 2 ^ 53 * 2 ^ (971 : Int) := by
        have unit : (2 : ℚ) ^ exponent ≤ 2 ^ (971 : Int) :=
          zpow_le_zpow_right₀ (by norm_num) isPositive.greatest
        have scaled : number / 2 ^ exponent ≤ 2 ^ 53 := by linarith
        exact mul_le_mul scaled unit (by positivity) (by positivity)
    _ = 2 ^ 1024 := by
        rw [← zpow_natCast, ← zpow_natCast, ← zpow_add₀ (by norm_num)]
        norm_num only

/-- A number that is rounded to a positive double is not too small. -/
theorem RoundsTo.ge {significand : Nat} {exponent : Int} {number : ℚ}
    (rounds : RoundsTo significand exponent number)
    (isPositive : IsPositive significand exponent) : 1 / 2 ^ 1075 ≤ number := by
  have positive : (1 : ℚ) ≤ significand := by exact_mod_cast isPositive.positive
  have below := rounds.below
  calc (1 : ℚ) / 2 ^ 1075 = 1 / 2 * 2 ^ (-1074 : Int) := by
        rw [zpow_neg, one_div, one_div, ← mul_inv, inv_inj]
        rw [show (1074 : Int) = ((1074 : Nat) : Int) from rfl, zpow_natCast, ← pow_succ']
    _ ≤ number / 2 ^ exponent * 2 ^ exponent := by
        have unit : (2 : ℚ) ^ (-1074 : Int) ≤ 2 ^ exponent :=
          zpow_le_zpow_right₀ (by norm_num) isPositive.least
        have scaled : 1 / 2 ≤ number / 2 ^ exponent := by linarith
        exact mul_le_mul scaled unit (by positivity) (by linarith)
    _ = number := by field_simp

/-- A decimal that is rounded to the exact value of a double is read as it. -/
theorem ofDecimal_eq {significand digits : Nat} {exponent scale : Int}
    (hasBits : HasBits x negative significand exponent)
    (isPositive : IsPositive significand exponent)
    (rounds : RoundsTo significand exponent (digits * 10 ^ scale)) :
    ofDecimal negative digits scale = x := by
  have atMost := rounds.le isPositive
  have atLeast := rounds.ge isPositive
  have notZero : digits ≠ 0 := by
    rintro rfl
    rw [Nat.cast_zero, zero_mul] at atLeast
    exact absurd atLeast (not_le.mpr (by positivity))
  have one : (1 : ℚ) ≤ digits := by exact_mod_cast Nat.pos_of_ne_zero notZero
  cases scale with
  | ofNat amount =>
      rw [Int.ofNat_eq_natCast, zpow_natCast] at rounds atMost
      have moderate : ¬400 < amount := by
        intro large
        have great : (2 : ℚ) ^ 1203 ≤ digits * 10 ^ amount :=
          calc (2 : ℚ) ^ 1203 ≤ 10 ^ 401 := two_pow_le_ten_pow 401
            _ ≤ 10 ^ amount := pow_le_pow_right₀ (by norm_num) large
            _ ≤ digits * 10 ^ amount := le_mul_of_one_le_left (by positivity) one
        have greater : (2 : ℚ) ^ 1024 < 2 ^ 1203 :=
          pow_lt_pow_right₀ (by norm_num) (by norm_num)
        exact absurd (great.trans atMost) (not_le.mpr greater)
      simp only [ofDecimal, if_neg notZero, if_neg moderate]
      refine nearest_eq hasBits isPositive Nat.one_pos ?_
      simpa using rounds
  | negSucc amount =>
      rw [zpow_negSucc, ← div_eq_mul_inv] at rounds atLeast
      have moderate : ¬digits.log2 + 400 < amount := by
        intro large
        have short : (digits : ℚ) < 2 ^ (digits.log2 + 1) := by
          exact_mod_cast Nat.lt_log2_self
        have small : (digits : ℚ) / 10 ^ (amount + 1) < 1 / 2 ^ 1203 := by
          rw [div_lt_div_iff₀ (by positivity) (by positivity), one_mul]
          calc (digits : ℚ) * 2 ^ 1203 < 2 ^ (digits.log2 + 1) * 2 ^ 1203 := by gcongr
            _ ≤ 2 ^ (3 * (amount + 1)) := by
                rw [← pow_add]
                exact pow_le_pow_right₀ (by norm_num) (by omega)
            _ ≤ 10 ^ (amount + 1) := two_pow_le_ten_pow (amount + 1)
        have smaller : (1 : ℚ) / 2 ^ 1203 < 1 / 2 ^ 1075 :=
          one_div_lt_one_div_of_lt (by positivity)
            (pow_lt_pow_right₀ (by norm_num) (by norm_num))
        exact absurd atLeast (not_le.mpr (small.trans smaller))
      simp only [ofDecimal, if_neg notZero, if_neg moderate]
      refine nearest_eq hasBits isPositive (Nat.pow_pos (by decide)) ?_
      simpa using rounds

end Fields

end Double

end DocStore
