import DocStore.Proofs.Lexer
import DocStore.Value.Display

/-!
# Texts of numbers

A number is written with digits and a few letters, and with a sign or a point only before
one of them.  So no two signs stand together in its text, and the lexer comes out of
it with complete tokens.
-/

namespace DocStore

open Sql

/-- A digit, or a letter of an exponent or of the name of a double that is not finite. -/
def isNumeralPart (character : Char) : Bool :=
  character.isDigit || ['e', 'i', 'n', 'f', 'a'].contains character

theorem isNamePart_of_isNumeralPart {character : Char}
    (isPart : isNumeralPart character = true) : isNamePart character = true := by
  rcases Bool.or_eq_true_iff.mp isPart with digit | letter
  · simp [isNamePart, Char.isAlphanum, digit]
  · simp only [List.contains_iff_mem, List.mem_cons, List.not_mem_nil, or_false] at letter
    rcases letter with rfl | rfl | rfl | rfl | rfl <;> decide

/-- Digits and the letters of numerals, each with a sign or a point before it or none. -/
inductive IsNumeral : List Char → Prop where
  | nil : IsNumeral []
  | name {character : Char} {text : List Char} (isPart : isNumeralPart character = true) :
      IsNumeral text → IsNumeral (character :: text)
  | sign {sign character : Char} {text : List Char} (isSign : sign ∈ ['-', '+', '.'])
      (isPart : isNumeralPart character = true) :
      IsNumeral text → IsNumeral (sign :: character :: text)

/-- Parts of a numeral, at least one. -/
structure IsWord (text : List Char) : Prop where
  nonempty : text ≠ []
  names : ∀ character ∈ text, isNumeralPart character = true

theorem IsWord.of_all {text : List Char} (nonempty : text ≠ [])
    (names : text.all isNumeralPart = true) : IsWord text :=
  ⟨nonempty, List.all_eq_true.mp names⟩

namespace IsNumeral

variable {text rest : List Char}

theorem append (numeral : IsNumeral text) (restNumeral : IsNumeral rest) :
    IsNumeral (text ++ rest) := by
  induction numeral with
  | nil => exact restNumeral
  | name isPart _ ih => exact .name isPart ih
  | sign isSign isPart _ ih => exact .sign isSign isPart ih

theorem of_names (names : ∀ character ∈ text, isNumeralPart character = true) : IsNumeral text := by
  induction text with
  | nil => exact .nil
  | cons character text ih =>
      exact .name (names character List.mem_cons_self)
        (ih fun other member => names other (List.mem_cons_of_mem _ member))

/-- A word, with a point or a sign between it and the rest. -/
theorem signed {sign : Char} (isSign : sign ∈ ['-', '+', '.']) (word : IsWord text)
    (restNumeral : IsNumeral rest) : IsNumeral (sign :: (text ++ rest)) := by
  cases text with
  | nil => exact absurd rfl word.nonempty
  | cons character text =>
      have others : IsNumeral text :=
        of_names fun other member => word.names other (List.mem_cons_of_mem _ member)
      exact .sign isSign (word.names character List.mem_cons_self) (others.append restNumeral)

theorem not_mem {character : Char} (foreign : isNumeralPart character = false)
    (noSign : character ∉ ['-', '+', '.']) (numeral : IsNumeral text) : character ∉ text := by
  induction numeral with
  | nil => simp
  | @name first text isPart _ ih =>
      have other : character ≠ first := by
        rintro rfl
        simp [foreign] at isPart
      simp [other, ih]
  | @sign sign first text isSign isPart _ ih =>
      have other : character ≠ first := by
        rintro rfl
        simp [foreign] at isPart
      have otherSign : character ≠ sign := by
        rintro rfl
        exact noSign isSign
      simp [other, otherSign, ih]

end IsNumeral

/-! ## Integers and doubles -/

theorem isWord_toDigits (number : Nat) : IsWord (Nat.toDigits 10 number) where
  nonempty := Nat.toDigits_ne_nil
  names character member := by
    have digit := Nat.isDigit_of_mem_toDigits (by decide) (by decide) member
    simp [isNumeralPart, digit]

theorem isNumeral_repr (number : Int) : IsNumeral number.repr.toList := by
  cases number with
  | ofNat count =>
      simpa [Int.repr, Nat.toList_repr] using IsNumeral.of_names (isWord_toDigits count).names
  | negSucc count =>
      have minus : '-' ∈ ['-', '+', '.'] := by decide
      have signed := IsNumeral.signed minus (isWord_toDigits (count + 1)) .nil
      simpa [Int.repr, Nat.toList_repr] using signed

namespace FloatFormat

/-- A text that begins with a word. -/
def BeginsWithWord (text : List Char) : Prop :=
  ∃ word rest, IsWord word ∧ IsNumeral rest ∧ text = word ++ rest

theorem BeginsWithWord.isNumeral {text : List Char} (begins : BeginsWithWord text) :
    IsNumeral text := by
  obtain ⟨word, rest, isWord, numeral, rfl⟩ := begins
  exact (IsNumeral.of_names isWord.names).append numeral

theorem BeginsWithWord.signed {text : List Char} (begins : BeginsWithWord text) :
    IsNumeral ('-' :: text) := by
  obtain ⟨word, rest, isWord, numeral, rfl⟩ := begins
  exact .signed (by decide) isWord numeral

theorem isWord_padLeft {digits : List Char} (word : IsWord digits) (width : Nat) :
    IsWord (padLeft width digits) where
  nonempty := by simp [padLeft, word.nonempty]
  names character member := by
    rcases List.mem_append.mp member with zero | digit
    · rw [List.eq_of_mem_replicate zero]
      decide
    · exact word.names character digit

theorem isNumeral_point {digits : List Char} (word : IsWord digits) :
    IsNumeral ('.' :: digits) := by
  simpa using IsNumeral.signed (by decide) word .nil

theorem beginsWithWord_positional {digits : List Char} (word : IsWord digits) (leading : Int) :
    BeginsWithWord (positional digits leading) := by
  have zeros (count : Nat) : ∀ character ∈ List.replicate count '0',
      isNumeralPart character = true := by
    intro character zero
    rw [List.eq_of_mem_replicate zero]
    decide
  cases leading with
  | ofNat place =>
      refine ⟨_, _, ⟨?_, ?_⟩, isNumeral_point ⟨?_, ?_⟩, rfl⟩
      · simp [word.nonempty]
      · exact List.forall_mem_append.mpr
          ⟨fun character member => word.names character (List.mem_of_mem_take member), zeros _⟩
      · split
        · exact List.cons_ne_nil _ _
        · rename_i fraction
          exact fun equal => fraction (by rw [equal]; rfl)
      · split
        · exact zeros 1
        · exact fun character member => word.names character (List.mem_of_mem_drop member)
  | negSucc places =>
      have zero : IsWord ['0'] := .of_all (by simp) (by decide)
      refine ⟨['0'], _, zero, isNumeral_point ⟨?_, ?_⟩, rfl⟩
      · simp [word.nonempty]
      · exact List.forall_mem_append.mpr ⟨zeros places, word.names⟩

theorem beginsWithWord_scientific (format : FloatFormat) {digits : List Char}
    (word : IsWord digits) (leading : Int) :
    BeginsWithWord (scientific format digits leading) := by
  have exponentWord : IsWord
      (padLeft format.exponentDigits (Nat.toDigits 10 leading.natAbs)) :=
    isWord_padLeft (isWord_toDigits _) _
  have isSign : (if leading < 0 then '-' else '+') ∈ ['-', '+', '.'] := by split <;> decide
  have exponent : IsNumeral ('e' :: (if leading < 0 then '-' else '+')
      :: padLeft format.exponentDigits (Nat.toDigits 10 leading.natAbs)) :=
    .name (by decide) (by simpa using IsNumeral.signed isSign exponentWord .nil)
  match digits with
  | [] => exact absurd rfl word.nonempty
  | [single] => exact ⟨[single], _, word, exponent, rfl⟩
  | first :: second :: others =>
      have firstWord : IsWord [first] :=
        ⟨List.cons_ne_nil _ _, by simpa using word.names first List.mem_cons_self⟩
      have fraction : IsWord (second :: others) :=
        ⟨List.cons_ne_nil _ _, fun character member =>
          word.names character (List.mem_cons_of_mem _ member)⟩
      exact ⟨[first], _, firstWord, .signed (by decide) fraction exponent, rfl⟩

theorem beginsWithWord_magnitude (format : FloatFormat) (significand : Nat) (exponent : Int) :
    BeginsWithWord (format.magnitude significand exponent) := by
  have digits := isWord_toDigits (ShortDigits.of significand exponent).digits
  unfold magnitude
  split
  · have zero : IsWord ['0'] := .of_all (by simp) (by decide)
    exact ⟨['0'], ['.', '0'], zero, .sign (by decide) (by decide) .nil, rfl⟩
  · dsimp only
    split
    · exact beginsWithWord_positional digits _
    · exact beginsWithWord_scientific format digits _

/-- The text of a double is a numeral if the names for the doubles that are not
finite are words. -/
theorem isNumeral_render (format : FloatFormat) (x : Float)
    (nanWord : IsWord format.nanText.toList) (infinityWord : IsWord format.infinityText.toList) :
    IsNumeral (format.render x).toList := by
  unfold render
  split
  · exact .of_names nanWord.names
  · split
    · simpa using IsNumeral.signed (by decide) infinityWord .nil
    · simpa using IsNumeral.of_names infinityWord.names
  · rename_i significand exponent _
    have begins := beginsWithWord_magnitude format significand exponent
    dsimp only
    split
    · simpa using begins.signed
    · simpa using begins.isNumeral

end FloatFormat

/-- The text in which a message shows a number is a numeral. -/
theorem Value.isNumeral_wording {number : Value} (isNumber : number.isNumber = true)
    {shown : String} (worded : number.wording = .ok shown) : IsNumeral shown.toList := by
  have displayed : shown = number.display := by
    change (if number.isWritable then (.ok number.display : Except Fault String)
      else .error .malformedValue) = .ok shown at worded
    split at worded
    · exact (Except.ok.inj worded).symm
    · cases worded
  subst displayed
  cases number with
  | int number => simpa [Value.display, Value.displayScalar] using isNumeral_repr number
  | float number =>
      have nanWord : IsWord floatFormat.nanText.toList := .of_all (by decide) (by decide)
      have infinityWord : IsWord floatFormat.infinityText.toList :=
        .of_all (by decide) (by decide)
      simpa [Value.display, Value.displayScalar] using
        FloatFormat.isNumeral_render floatFormat number nanWord infinityWord
  | _ => cases isNumber

/-! ## Numerals as tokens -/

namespace Sql.Lexer

variable (dialect : Dialect)

theorem start_of_isNamePart {character : Char} (isName : isNamePart character = true) :
    start dialect character = ([], .word [character]) := by
  have noSeparator : isSeparator character = false := by
    cases separator : isSeparator character with
    | false => rfl
    | true => simp [(isQuote_of_isSeparator dialect separator).2] at isName
  have noBlank : ¬ (character = ' ' ∨ character = '\n') := by
    rintro (rfl | rfl) <;> cases noSeparator
  have noQuote : isQuote dialect character = false := by
    cases quote : isQuote dialect character with
    | false => rfl
    | true =>
        simp only [isQuote, Bool.or_eq_true, beq_iff_eq] at quote
        rcases quote with (rfl | rfl) | rfl <;> cases dialect <;> cases isName
  simp [start, noBlank, noSeparator, noQuote, isName]

/-- Between two tokens, or in a word. -/
def isLoose : Pending → Bool
  | .between => true
  | .word _ => true
  | _ => false

theorem step_name {pending : Pending} (loose : isLoose pending = true) {character : Char}
    (isName : isNamePart character = true) :
    ∃ tokens content,
      step dialect pending (.character character) = some (tokens, .word content) := by
  cases pending with
  | between => exact ⟨[], [character], by simp [step, restart, finish, prepend,
      start_of_isNamePart dialect isName]⟩
  | word content => exact ⟨[], content ++ [character], by simp [step, isName]⟩
  | _ => cases loose

theorem step_sign {pending : Pending} (loose : isLoose pending = true) {sign : Char}
    (isSign : sign ∈ ['-', '+', '.']) :
    ∃ tokens, step dialect pending (.character sign) = some (tokens, .sign [sign]) := by
  simp only [List.mem_cons, List.not_mem_nil, or_false] at isSign
  cases pending with
  | between => rcases isSign with rfl | rfl | rfl <;> cases dialect <;> exact ⟨_, rfl⟩
  | word content => rcases isSign with rfl | rfl | rfl <;> cases dialect <;> exact ⟨_, rfl⟩
  | _ => cases loose

theorem step_name_after_sign {sign character : Char} (isSign : sign ∈ ['-', '+', '.'])
    (isName : isNamePart character = true) :
    ∃ tokens content,
      step dialect (.sign [sign]) (.character character) = some (tokens, .word content) := by
  have noSign : isSignPart dialect character = false := by simp [isSignPart, isName]
  have complete : finish dialect (.sign [sign]) = some [.sign [sign]] := by
    simp only [List.mem_cons, List.not_mem_nil, or_false] at isSign
    rcases isSign with rfl | rfl | rfl <;> cases dialect <;> rfl
  exact ⟨[.sign [sign]], [character], by simp [step, noSign, restart, complete, prepend,
    start_of_isNamePart dialect isName]⟩

/-- A numeral leaves the lexer between two tokens or in a word if it was so before. -/
theorem run_numeral {text : List Char} (numeral : IsNumeral text) {pending : Pending}
    (loose : isLoose pending = true) :
    ∃ next, run dialect pending (characters text) = some next ∧ isLoose next.2 = true := by
  induction numeral generalizing pending with
  | nil => exact ⟨_, rfl, loose⟩
  | name isPart _ ih =>
      obtain ⟨tokens, content, stepped⟩ :=
        step_name dialect loose (isNamePart_of_isNumeralPart isPart)
      obtain ⟨next, ran, nextLoose⟩ := @ih (.word content) rfl
      refine ⟨prepend tokens next, ?_, nextLoose⟩
      change run dialect pending (_ :: characters _) = _
      rw [run, stepped, Option.bind_some, ran, Option.map_some]
  | sign isSign isPart _ ih =>
      obtain ⟨before, signStepped⟩ := step_sign dialect loose isSign
      obtain ⟨tokens, content, stepped⟩ :=
        step_name_after_sign dialect isSign (isNamePart_of_isNumeralPart isPart)
      obtain ⟨next, ran, nextLoose⟩ := @ih (.word content) rfl
      refine ⟨prepend before (prepend tokens next), ?_, nextLoose⟩
      change run dialect pending (_ :: _ :: characters _) = _
      rw [run, signStepped, Option.bind_some, run, stepped, Option.bind_some, ran,
        Option.map_some, Option.map_some]

end Sql.Lexer

end DocStore
