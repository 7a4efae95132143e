import Mathlib.Tactic
import DocStore.Json.Decode
import DocStore.Json.Encode

/-!
# Numerals of JSON, read back

A numeral is read up to what closes the value that it is.  The digits of a natural
number start with a zero only for zero itself, which is what JSON asks for.
-/

namespace DocStore

/-! ## Digits -/

theorem Decimal.natOfDigits_eq (digits : List Char) :
    Decimal.natOfDigits digits = Nat.ofDigitChars 10 digits 0 := by
  rw [Decimal.natOfDigits, Nat.ofDigitChars_eq_foldl]
  simp only [Nat.mul_comm]

@[simp] theorem Decimal.natOfDigits_toDigits (number : Nat) :
    Decimal.natOfDigits (Nat.toDigits 10 number) = number := by
  rw [natOfDigits_eq, Nat.ofDigitChars_ten_toDigits]

theorem Decimal.natOfDigits_append (left right : List Char) :
    Decimal.natOfDigits (left ++ right) =
      10 ^ right.length * Decimal.natOfDigits left + Decimal.natOfDigits right := by
  rw [natOfDigits_eq, natOfDigits_eq, natOfDigits_eq, Nat.ofDigitChars_append,
    Nat.ofDigitChars_eq_ofDigitChars_zero]

theorem Decimal.natOfDigits_zeros (count : Nat) :
    Decimal.natOfDigits (List.replicate count '0') = 0 := by
  rw [natOfDigits_eq, Nat.ofDigitChars_replicate_zero, Nat.mul_zero]

theorem isDigit_toDigits (number : Nat) :
    ∀ character ∈ Nat.toDigits 10 number, character.isDigit = true :=
  fun _ member => Nat.isDigit_of_mem_toDigits (by decide) (by decide) member

/-- The digits of a positive number start with another digit than zero. -/
theorem toDigits_eq_cons {number : Nat} (positive : 0 < number) :
    ∃ first rest, Nat.toDigits 10 number = first :: rest ∧ first ≠ '0' := by
  induction number using Nat.strong_induction_on with
  | _ number ih =>
      by_cases small : number < 10
      · refine ⟨number.digitChar, [], Nat.toDigits_of_lt_base small, ?_⟩
        rw [ne_eq, Nat.digitChar_eq_zero]
        omega
      · obtain ⟨first, rest, digits, notZero⟩ := ih (number / 10) (by omega) (by omega)
        refine ⟨first, rest ++ [(number % 10).digitChar], ?_, notZero⟩
        rw [Nat.toDigits_of_base_le (by decide) (by omega), digits, List.cons_append]

namespace Json

/-- What stands behind a value: nothing, or a character that no value starts with or
goes on with. -/
def Closes (rest : List Char) : Prop :=
  rest = [] ∨ ∃ character after, rest = character :: after ∧
    (character = ',' ∨ character = ']' ∨ character = '\x7d')

/-- A text does not go on with a digit. -/
def NoDigit (text : List Char) : Prop :=
  ∀ character after, text = character :: after → character.isDigit = false

theorem noDigit_cons {character : Char} {after : List Char}
    (other : character.isDigit = false) : NoDigit (character :: after) := by
  intro _ _ same
  cases same
  exact other

theorem Closes.noDigit {rest : List Char} (closes : Closes rest) : NoDigit rest := by
  rcases closes with rfl | ⟨character, after, rfl, rfl | rfl | rfl⟩
  · intro _ _ same
    cases same
  all_goals exact noDigit_cons rfl

theorem takeWhile_digits {digits rest : List Char}
    (areDigits : ∀ character ∈ digits, character.isDigit = true) (stops : NoDigit rest) :
    (digits ++ rest).takeWhile Char.isDigit = digits := by
  rw [List.takeWhile_append_of_pos areDigits]
  cases rest with
  | nil => simp
  | cons character after => simp [stops character after rfl]

theorem dropWhile_digits {digits rest : List Char}
    (areDigits : ∀ character ∈ digits, character.isDigit = true) (stops : NoDigit rest) :
    (digits ++ rest).dropWhile Char.isDigit = rest := by
  rw [List.dropWhile_append_of_pos areDigits]
  cases rest with
  | nil => rfl
  | cons character after => simp [stops character after rfl]

/-! ## Parts of a numeral -/

theorem readWhole?_digits {first : Char} {digits rest : List Char} (notZero : first ≠ '0')
    (areDigits : ∀ character ∈ first :: digits, character.isDigit = true)
    (stops : NoDigit rest) :
    readWhole? (first :: digits ++ rest) = some (first :: digits, rest) := by
  rw [readWhole?]
  · rw [takeWhile_digits areDigits stops, dropWhile_digits areDigits stops]
    rfl
  · intro _ same
    cases same
    exact notZero rfl

theorem readWhole?_toDigits (number : Nat) {rest : List Char} (stops : NoDigit rest) :
    readWhole? (Nat.toDigits 10 number ++ rest) = some (Nat.toDigits 10 number, rest) := by
  have areDigits := isDigit_toDigits number
  rcases Nat.eq_zero_or_pos number with rfl | positive
  · rfl
  · obtain ⟨first, digits, written, notZero⟩ := toDigits_eq_cons positive
    rw [written] at areDigits ⊢
    exact readWhole?_digits notZero areDigits stops

theorem readFraction_digits {digits rest : List Char} (nonempty : digits ≠ [])
    (areDigits : ∀ character ∈ digits, character.isDigit = true) (stops : NoDigit rest) :
    readFraction ('.' :: (digits ++ rest)) = (digits, rest) := by
  simp [readFraction, takeWhile_digits areDigits stops, dropWhile_digits areDigits stops, nonempty]

theorem readFraction_of_closes {rest : List Char} (closes : Closes rest) :
    readFraction rest = ([], rest) := by
  rcases closes with rfl | ⟨character, after, rfl, rfl | rfl | rfl⟩ <;> rfl

theorem readExponent_digits {digits rest : List Char} (negative : Bool) (nonempty : digits ≠ [])
    (areDigits : ∀ character ∈ digits, character.isDigit = true) (stops : NoDigit rest) :
    readExponent ('e' :: (if negative then '-' else '+') :: (digits ++ rest)) =
      (.some (if negative then -(Decimal.natOfDigits digits : Int)
        else Decimal.natOfDigits digits), rest) := by
  cases negative <;>
    simp [readExponent, Decimal.takeSign, takeWhile_digits areDigits stops,
      dropWhile_digits areDigits stops, nonempty]

theorem readExponent_of_closes {rest : List Char} (closes : Closes rest) :
    readExponent rest = (none, rest) := by
  rcases closes with rfl | ⟨character, after, rfl, rfl | rfl | rfl⟩ <;> rfl

/-! ## Whole numerals -/

section Parts

variable {text afterWhole afterFraction rest whole fraction : List Char} {exponent : Option Int}
  (isWhole : readWhole? text = some (whole, afterWhole))
  (isFraction : readFraction afterWhole = (fraction, afterFraction))
  (isExponent : readExponent afterFraction = (exponent, rest))

include isWhole isFraction isExponent

theorem readMagnitude_of_parts (negative : Bool) :
    readMagnitude negative text =
      if fraction.isEmpty && exponent.isNone then
        if longestNumeral < whole.length then .error .malformedValue
        else
          .ok (.int (if negative then -Int.ofNat (Decimal.natOfDigits whole)
            else Int.ofNat (Decimal.natOfDigits whole)), rest)
      else
        .ok (.float (Double.ofDecimal negative (Decimal.natOfDigits (whole ++ fraction))
          (exponent.getD 0 - Int.ofNat fraction.length)), rest) := by
  have demanded : demand (readWhole? text) = .ok (whole, afterWhole) := by
    rw [isWhole]
    rfl
  simp only [readMagnitude, demanded, bind, Except.bind, isFraction, isExponent]

end Parts

theorem length_toDigits_le {number count : Nat} (positive : 0 < count)
    (below : number < Nat.pow 10 count) : (Nat.toDigits 10 number).length ≤ count :=
  (Nat.length_toDigits_le_iff (by decide) positive).mpr below

theorem readMagnitude_toDigits (negative : Bool) {number : Nat} {rest : List Char}
    (closes : Closes rest) (writable : number < Nat.pow 10 longestNumeral) :
    readMagnitude negative (Nat.toDigits 10 number ++ rest) =
      .ok (.int (if negative then -(number : Int) else number), rest) := by
  have short : ¬longestNumeral < (Nat.toDigits 10 number).length :=
    Nat.not_lt.mpr (length_toDigits_le (by decide) writable)
  rw [readMagnitude_of_parts (readWhole?_toDigits number closes.noDigit)
    (readFraction_of_closes closes) (readExponent_of_closes closes)]
  simp [short]

/-- A numeral with a point. -/
theorem readMagnitude_point (negative : Bool) {whole fraction rest : List Char}
    (isWhole : ∀ after, NoDigit after → readWhole? (whole ++ after) = some (whole, after))
    (nonempty : fraction ≠ []) (areDigits : ∀ character ∈ fraction, character.isDigit = true)
    (closes : Closes rest) :
    readMagnitude negative (whole ++ '.' :: (fraction ++ rest)) =
      .ok (.float (Double.ofDecimal negative (Decimal.natOfDigits (whole ++ fraction))
        (-(fraction.length : Int))), rest) := by
  have isEmpty : fraction.isEmpty = false := by simpa using nonempty
  rw [readMagnitude_of_parts (isWhole _ (noDigit_cons rfl))
    (readFraction_digits nonempty areDigits closes.noDigit) (readExponent_of_closes closes), isEmpty]
  simp

/-- A numeral with an exponent. -/
theorem readMagnitude_exponent (negative below : Bool) {whole fraction digits rest : List Char}
    (isWhole : ∀ after, NoDigit after → readWhole? (whole ++ after) = some (whole, after))
    (fractionDigits : ∀ character ∈ fraction, character.isDigit = true) (nonempty : digits ≠ [])
    (areDigits : ∀ character ∈ digits, character.isDigit = true) (closes : Closes rest) :
    readMagnitude negative
        (whole ++ ((if fraction = [] then [] else '.' :: fraction) ++
          'e' :: (if below then '-' else '+') :: (digits ++ rest))) =
      .ok (.float (Double.ofDecimal negative (Decimal.natOfDigits (whole ++ fraction))
        ((if below then -(Decimal.natOfDigits digits : Int) else Decimal.natOfDigits digits)
          - fraction.length)), rest) := by
  have exponent := readExponent_digits below nonempty areDigits closes.noDigit
  by_cases none : fraction = []
  · subst none
    have noFraction : readFraction ('e' :: (if below then '-' else '+') :: (digits ++ rest)) =
        ([], 'e' :: (if below then '-' else '+') :: (digits ++ rest)) := rfl
    rw [if_pos rfl, List.nil_append, readMagnitude_of_parts (isWhole _ (noDigit_cons rfl))
      noFraction exponent]
    simp
  · have isEmpty : fraction.isEmpty = false := by simpa using none
    rw [if_neg none, List.cons_append, readMagnitude_of_parts (isWhole _ (noDigit_cons rfl))
      (readFraction_digits none fractionDigits (noDigit_cons rfl)) exponent, isEmpty]
    simp

/-! ## Numerals are no literals -/

theorem isDigit_of_readMagnitude {negative : Bool} {text : List Char} {found : Value × List Char}
    (read : readMagnitude negative text = .ok found) :
    ∃ character after, text = character :: after ∧ character.isDigit = true := by
  cases whole : readWhole? text with
  | none =>
      simp only [readMagnitude, whole, demand, bind, Except.bind] at read
      cases read
  | some parts =>
      cases text with
      | nil => cases whole
      | cons character after =>
          refine ⟨character, after, rfl, ?_⟩
          by_contra other
          have zero : character ≠ '0' := by
            rintro rfl
            exact other rfl
          rw [readWhole?] at whole
          · simp [other] at whole
          · intro _ same
            cases same
            exact zero rfl

theorem readLiteral?_digit {character : Char} (isDigit : character.isDigit = true)
    (after : List Char) : readLiteral? (character :: after) = none := by
  have other (letter : Char) (isLetter : letter.isDigit = false) : letter ≠ character := by
    rintro rfl
    rw [isLetter] at isDigit
    cases isDigit
  simp [readLiteral?, literals, afterWord?, other]

theorem readLiteral?_minus {character : Char} (isDigit : character.isDigit = true)
    (after : List Char) : readLiteral? ('-' :: character :: after) = none := by
  have other : 'I' ≠ character := by
    rintro rfl
    cases isDigit
  simp [readLiteral?, literals, afterWord?, other]

theorem readScalar_of_readMagnitude {negative : Bool} {text : List Char}
    {found : Value × List Char} (read : readMagnitude negative text = .ok found) :
    readScalar (if negative then '-' :: text else text) = .ok found := by
  obtain ⟨character, after, rfl, isDigit⟩ := isDigit_of_readMagnitude read
  cases negative with
  | true =>
      rw [if_pos rfl, readScalar, readLiteral?_minus isDigit]
      exact read
  | false =>
      rw [if_neg Bool.false_ne_true, readScalar, readLiteral?_digit isDigit]
      · exact read
      · rintro _ same
        cases same
        cases isDigit
      · rintro _ same
        cases same
        cases isDigit

end Json

end DocStore
