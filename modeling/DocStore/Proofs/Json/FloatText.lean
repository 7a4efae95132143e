import Mathlib
import DocStore.Proofs.Double.Shortest
import DocStore.Proofs.Json.Number

/-!
# Doubles of JSON, read back

A finite double is written by its shortest digits, with a point among them or with
an exponent behind them.  Either text stands for the same number as the digits, and
that number is rounded to the double.
-/

namespace DocStore

namespace Json

open Decimal (natOfDigits)

/-- A text is read as a decimal that equals a number. -/
def ReadsDecimal (negative : Bool) (text : List Char) (number : ℚ) : Prop :=
  ∀ rest, Closes rest → ∃ (digits : Nat) (scale : Int), (digits : ℚ) * 10 ^ scale = number ∧
    readMagnitude negative (text ++ rest) =
      .ok (.float (Double.ofDecimal negative digits scale), rest)

section Digits

variable (negative : Bool) {first : Char} {others : List Char} (notZero : first ≠ '0')
  (areDigits : ∀ character ∈ first :: others, character.isDigit = true)

include notZero areDigits

/-- The point stands behind all digits, after some zeros. -/
theorem readsDecimal_integral (place : Nat) (short : (first :: others).length ≤ place + 1) :
    ReadsDecimal negative (FloatFormat.positional (first :: others) (.ofNat place))
      (natOfDigits (first :: others) * 10 ^ ((place : Int) + 1 - (first :: others).length)) := by
  intro rest closes
  obtain ⟨zeros, isZeros⟩ : ∃ zeros, zeros = place + 1 - (first :: others).length := ⟨_, rfl⟩
  have written : FloatFormat.positional (first :: others) (.ofNat place) ++ rest =
      (first :: (others ++ List.replicate zeros '0')) ++ '.' :: (['0'] ++ rest) := by
    simp only [FloatFormat.positional, List.take_of_length_le short,
      List.drop_eq_nil_of_le short, ← isZeros]
    simp
  have allDigits : ∀ character ∈ first :: (others ++ List.replicate zeros '0'),
      character.isDigit = true := by
    intro character member
    rcases List.mem_append.mp (List.cons_append ▸ member : character ∈
      (first :: others) ++ List.replicate zeros '0') with digit | zero
    · exact areDigits character digit
    · rw [List.eq_of_mem_replicate zero]
      rfl
  have read := readMagnitude_point negative
    (fun _ stops => readWhole?_digits notZero allDigits stops) (List.cons_ne_nil '0' [])
    (by simp) closes
  rw [← written] at read
  refine ⟨_, _, ?_, read⟩
  have exponent : (place : Int) + 1 - (first :: others).length = zeros := by omega
  have last : natOfDigits ['0'] = 0 := rfl
  rw [exponent, ← List.cons_append, Decimal.natOfDigits_append, Decimal.natOfDigits_append,
    Decimal.natOfDigits_zeros, List.length_replicate, last, zpow_natCast]
  push_cast
  simp only [List.length_cons, List.length_nil]
  norm_num
  ring

/-- The point stands between two digits. -/
theorem readsDecimal_between (place : Nat) (long : place + 1 < (first :: others).length) :
    ReadsDecimal negative (FloatFormat.positional (first :: others) (.ofNat place))
      (natOfDigits (first :: others) * 10 ^ ((place : Int) + 1 - (first :: others).length)) := by
  intro rest closes
  have nonempty : others.drop place ≠ [] := by
    rw [ne_eq, List.drop_eq_nil_iff]
    simp only [List.length_cons] at long
    omega
  have noZeros : place + 1 - ((first :: others).take (place + 1)).length = 0 := by
    rw [List.length_take]
    omega
  have isEmpty : (others.drop place).isEmpty = false := by simpa using nonempty
  have written : FloatFormat.positional (first :: others) (.ofNat place) ++ rest =
      (first :: others.take place) ++ '.' :: (others.drop place ++ rest) := by
    simp only [FloatFormat.positional, noZeros]
    simp [isEmpty]
  have wholeDigits : ∀ character ∈ first :: others.take place, character.isDigit = true :=
    fun character member => areDigits character
      ((List.take_sublist (place + 1) (first :: others)).subset member)
  have fractionDigits : ∀ character ∈ others.drop place, character.isDigit = true :=
    fun character member => areDigits character
      (List.mem_cons_of_mem _ ((List.drop_sublist place others).subset member))
  have read := readMagnitude_point negative
    (fun _ stops => readWhole?_digits notZero wholeDigits stops) nonempty fractionDigits closes
  rw [← written] at read
  refine ⟨_, _, ?_, read⟩
  rw [List.cons_append, List.take_append_drop, List.length_drop]
  congr 2
  simp only [List.length_cons] at long ⊢
  omega

omit notZero in
/-- The point stands before all digits. -/
theorem readsDecimal_below (places : Nat) :
    ReadsDecimal negative (FloatFormat.positional (first :: others) (.negSucc places))
      (natOfDigits (first :: others) * 10 ^ (-(places : Int) - (first :: others).length)) := by
  intro rest closes
  have written : FloatFormat.positional (first :: others) (.negSucc places) ++ rest =
      ['0'] ++ '.' :: ((List.replicate places '0' ++ first :: others) ++ rest) := by
    simp [FloatFormat.positional]
  have allDigits : ∀ character ∈ List.replicate places '0' ++ first :: others,
      character.isDigit = true := by
    intro character member
    rcases List.mem_append.mp member with zero | digit
    · rw [List.eq_of_mem_replicate zero]
      rfl
    · exact areDigits character digit
  have isWhole (after : List Char) (_ : NoDigit after) :
      readWhole? (['0'] ++ after) = some (['0'], after) := rfl
  have read := readMagnitude_point negative isWhole (by simp) allDigits closes
  rw [← written] at read
  refine ⟨_, _, ?_, read⟩
  have zero : natOfDigits ['0'] = 0 := rfl
  rw [Decimal.natOfDigits_append, Decimal.natOfDigits_append, Decimal.natOfDigits_zeros, zero,
    List.length_append, List.length_replicate]
  simp only [Nat.mul_zero, Nat.zero_add]
  congr 2
  omega

/-- The exponent stands behind the digits. -/
theorem readsDecimal_scientific (leading : Int) :
    ReadsDecimal negative (numberFormat.scientific (first :: others) leading)
      (natOfDigits (first :: others) * 10 ^ (leading + 1 - (first :: others).length)) := by
  intro rest closes
  obtain ⟨zeros, isZeros⟩ : ∃ zeros, zeros = 2 - (Nat.toDigits 10 leading.natAbs).length :=
    ⟨_, rfl⟩
  have written : numberFormat.scientific (first :: others) leading ++ rest =
      [first] ++ ((if others = [] then [] else '.' :: others) ++
        'e' :: (if decide (leading < 0) then '-' else '+') ::
          ((List.replicate zeros '0' ++ Nat.toDigits 10 leading.natAbs) ++ rest)) := by
    rw [isZeros]
    cases others <;>
      simp [FloatFormat.scientific, FloatFormat.padLeft, numberFormat, floatFormat]
  have isWhole (after : List Char) (stops : NoDigit after) :
      readWhole? ([first] ++ after) = some ([first], after) :=
    readWhole?_digits notZero (fun character member => areDigits character
      (List.mem_cons.mpr (.inl (List.mem_singleton.mp member)))) stops
  have exponentDigits : ∀ character ∈ List.replicate zeros '0' ++
      Nat.toDigits 10 leading.natAbs, character.isDigit = true := by
    intro character member
    rcases List.mem_append.mp member with zero | digit
    · rw [List.eq_of_mem_replicate zero]
      rfl
    · exact isDigit_toDigits _ character digit
  have read := readMagnitude_exponent negative (decide (leading < 0)) isWhole
    (fun character member => areDigits character (List.mem_cons_of_mem _ member))
    (by simp [Nat.toDigits_ne_nil]) exponentDigits closes
  rw [← written] at read
  refine ⟨_, _, ?_, read⟩
  have amount : natOfDigits (List.replicate zeros '0' ++ Nat.toDigits 10 leading.natAbs) =
      leading.natAbs := by
    rw [Decimal.natOfDigits_append, Decimal.natOfDigits_zeros, Decimal.natOfDigits_toDigits,
      Nat.mul_zero, Nat.zero_add]
  rw [amount]
  simp only [List.singleton_append, decide_eq_true_eq, List.length_cons]
  congr 2
  omega

/-- Where the point or the exponent stands depends on the leading exponent only. -/
theorem readsDecimal_magnitude (leading : Int) :
    ReadsDecimal negative
      (if numberFormat.positionalFrom ≤ leading ∧ leading < numberFormat.positionalBelow then
        FloatFormat.positional (first :: others) leading
      else numberFormat.scientific (first :: others) leading)
      (natOfDigits (first :: others) * 10 ^ (leading + 1 - (first :: others).length)) := by
  split
  · cases leading with
    | ofNat place =>
        rcases Nat.lt_or_ge (place + 1) (first :: others).length with long | short
        · exact readsDecimal_between negative notZero areDigits place long
        · exact readsDecimal_integral negative notZero areDigits place short
    | negSucc places =>
        have exponent : Int.negSucc places + 1 - (first :: others).length =
            -(places : Int) - (first :: others).length := by omega
        rw [exponent]
        exact readsDecimal_below negative areDigits places
  · exact readsDecimal_scientific negative notZero areDigits leading

end Digits

open Double (HasBits IsPositive RoundsTo)

theorem readMagnitude_zero {x : Float} {negative : Bool}
    (hasBits : HasBits x negative 0 (-1074)) {rest : List Char} (closes : Closes rest) :
    readMagnitude negative (numberFormat.magnitude 0 (-1074) ++ rest) = .ok (.float x, rest) := by
  have isWhole (after : List Char) (_ : NoDigit after) :
      readWhole? (['0'] ++ after) = some (['0'], after) := rfl
  have read := readMagnitude_point negative isWhole (List.cons_ne_nil '0' []) (by simp) closes
  have zero : Double.ofDecimal negative (natOfDigits (['0'] ++ ['0'])) (-(['0'].length : Int)) =
      x := Double.nearest_zero hasBits
  rw [zero] at read
  exact read

theorem readMagnitude_positive {x : Float} {negative : Bool} {significand : Nat} {exponent : Int}
    (hasBits : HasBits x negative significand exponent)
    (isPositive : IsPositive significand exponent) {rest : List Char} (closes : Closes rest) :
    readMagnitude negative (numberFormat.magnitude significand exponent ++ rest) =
      .ok (.float x, rest) := by
  have rounds := ShortDigits.roundsTo_of isPositive
  obtain ⟨short, isShort⟩ : ∃ short, ShortDigits.of significand exponent = short := ⟨_, rfl⟩
  rw [isShort] at rounds
  have positive : 0 < short.digits := by
    by_contra none
    have atLeast := rounds.ge isPositive
    rw [Nat.eq_zero_of_not_pos none, Nat.cast_zero, zero_mul] at atLeast
    exact absurd atLeast (not_le.mpr (by positivity))
  obtain ⟨first, others, digits, notZero⟩ := toDigits_eq_cons positive
  have areDigits := isDigit_toDigits short.digits
  have back := Decimal.natOfDigits_toDigits short.digits
  rw [digits] at areDigits back
  obtain ⟨number, scale, same, read⟩ :=
    readsDecimal_magnitude negative notZero areDigits short.leading rest closes
  rw [back, ← digits] at same
  have isFloat : Double.ofDecimal negative number scale = x := by
    refine Double.ofDecimal_eq hasBits isPositive ?_
    rw [same]
    exact rounds
  rw [isFloat, ← digits] at read
  simp only [FloatFormat.magnitude, if_neg (Nat.ne_of_gt isPositive.positive), isShort]
  exact read

/-- The text of a finite double is read back. -/
theorem readScalar_finite {x : Float} {negative : Bool} {significand : Nat} {exponent : Int}
    (read : Double.ofFloat x = .finite negative significand exponent) {rest : List Char}
    (closes : Closes rest) :
    readScalar ((numberFormat.render x).toList ++ rest) = .ok (.float x, rest) := by
  have hasBits := Double.hasBits_of_finite read
  have written : (numberFormat.render x).toList =
      if negative then '-' :: numberFormat.magnitude significand exponent
      else numberFormat.magnitude significand exponent := by
    simp only [FloatFormat.render, read, String.toList_ofList]
  have isRead : readMagnitude negative (numberFormat.magnitude significand exponent ++ rest) =
      .ok (.float x, rest) := by
    rcases hasBits.value with ⟨rfl, rfl⟩ | isPositive
    · exact readMagnitude_zero hasBits closes
    · exact readMagnitude_positive hasBits isPositive closes
  have scalar := readScalar_of_readMagnitude isRead
  rw [written]
  cases negative with
  | false =>
      rw [if_neg Bool.false_ne_true] at scalar ⊢
      exact scalar
  | true =>
      rw [if_pos rfl] at scalar ⊢
      rw [List.cons_append]
      exact scalar

/-- A double is read back. -/
theorem readScalar_float (x : Float) {rest : List Char} (closes : Closes rest) :
    readScalar ((numberFormat.render x).toList ++ rest) = .ok (.float x, rest) := by
  cases read : Double.ofFloat x with
  | nan =>
      have written : (numberFormat.render x).toList = ['N', 'a', 'N'] := by
        simp [FloatFormat.render, read, numberFormat]
      rw [written, Double.eq_of_nan read]
      simp [readScalar, readLiteral?, literals, afterWord?]
  | infinite negative =>
      have written : (numberFormat.render x).toList =
          (if negative then ['-'] else []) ++ ['I', 'n', 'f', 'i', 'n', 'i', 't', 'y'] := by
        cases negative <;> simp [FloatFormat.render, read, numberFormat]
      rw [written, Double.eq_of_infinite read]
      cases negative <;> simp [readScalar, readLiteral?, literals, afterWord?]
  | finite negative significand exponent => exact readScalar_finite read closes

end Json

end DocStore
