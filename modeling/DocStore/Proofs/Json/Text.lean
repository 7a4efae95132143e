import DocStore.Json.Decode
import DocStore.Json.Encode

/-!
# Strings of JSON, read back

Every character is written as itself or as an escape, and reading turns either into
the character again: a character beyond the first plane is written as a pair of
surrogates, which stand for no other character.
-/

namespace DocStore

/-! ## Escapes of sixteen bits -/

theorem hexValue?_digitChar {digit : Nat} (small : digit < 16) :
    hexValue? digit.digitChar = some digit := by
  have all : ∀ digit < 16, hexValue? (Nat.digitChar digit) = some digit := by decide
  exact all digit small

theorem hexDigits_four {unit : Nat} (small : unit < 0x10000) :
    hexDigits 4 unit =
      [ (unit / 4096).digitChar, (unit / 256 % 16).digitChar, (unit / 16 % 16).digitChar,
        (unit % 16).digitChar ] := by
  rw [hexDigits_succ (by decide), hexDigits_succ (by decide), hexDigits_succ (by decide),
    hexDigits_one (by omega)]
  simp [Nat.div_div_eq_div_mul]

namespace Json

theorem readUnit?_hexDigits {unit : Nat} (small : unit < 0x10000) (rest : List Char) :
    readUnit? (hexDigits 4 unit ++ rest) = some (unit, rest) := by
  have digits : ((unit / 4096 * 16 + unit / 256 % 16) * 16 + unit / 16 % 16) * 16 + unit % 16 =
      unit := by
    omega
  rw [hexDigits_four small]
  simp only [List.cons_append, List.nil_append, readUnit?,
    hexValue?_digitChar (by omega : unit / 4096 < 16),
    hexValue?_digitChar (by omega : unit / 256 % 16 < 16),
    hexValue?_digitChar (by omega : unit / 16 % 16 < 16),
    hexValue?_digitChar (by omega : unit % 16 < 16), Option.bind_eq_bind, Option.bind_some, digits]

/-- A unit that is no surrogate is read as its character. -/
theorem readEscapedUnit?_hexDigits {unit : Nat} (small : unit < 0x10000)
    (plain : unit < 0xd800 ∨ 0xe000 ≤ unit) (rest : List Char) :
    readEscapedUnit? (hexDigits 4 unit ++ rest) = some (Char.ofNat unit, rest) := by
  have notHigh : isHighSurrogate unit = false := by
    simp only [isHighSurrogate, Bool.and_eq_false_iff, decide_eq_false_iff_not]
    omega
  have notLow : isLowSurrogate unit = false := by
    simp only [isLowSurrogate, Bool.and_eq_false_iff, decide_eq_false_iff_not]
    omega
  simp [readEscapedUnit?, readUnit?_hexDigits small, notHigh, unitCharacter, notLow]

/-- A pair of surrogates is read as one character. -/
theorem readEscapedUnit?_pair {offset : Nat} (inside : offset < 0x100000) (rest : List Char) :
    readEscapedUnit? (hexDigits 4 (0xd800 + offset / 0x400) ++
        (escapeUnit (0xdc00 + offset % 0x400) ++ rest)) =
      some (Char.ofNat (0x10000 + offset), rest) := by
  have isHigh : isHighSurrogate (0xd800 + offset / 0x400) = true := by
    simp only [isHighSurrogate, Bool.and_eq_true, decide_eq_true_eq]
    omega
  have isLow : isLowSurrogate (0xdc00 + offset % 0x400) = true := by
    simp only [isLowSurrogate, Bool.and_eq_true, decide_eq_true_eq]
    omega
  have together : 0x10000 + offset / 0x400 * 0x400 + offset % 0x400 = 0x10000 + offset := by
    omega
  simp [readEscapedUnit?, readUnit?_hexDigits (by omega : 0xd800 + offset / 0x400 < 0x10000),
    escapeUnit, readUnit?_hexDigits (by omega : 0xdc00 + offset % 0x400 < 0x10000), isHigh, isLow,
    together]

/-! ## Characters -/

/-- A character is written as itself, by a letter, as one unit, or as a pair. -/
theorem escapeCharacter_cases (character : Char) :
    (escapeCharacter character = [character] ∧ character ≠ '"' ∧
        (decide (character.toNat < 0x20) || character == '\\') = false) ∨
      (∃ letter, escapeCharacter character = ['\\', letter] ∧ letter ≠ 'u' ∧
        simpleEscape? letter = some character) ∨
      (character.toNat < 0x10000 ∧ escapeCharacter character = escapeUnit character.toNat) ∨
      ∃ offset, character.toNat = 0x10000 + offset ∧
        escapeCharacter character =
          escapeUnit (0xd800 + offset / 0x400) ++ escapeUnit (0xdc00 + offset % 0x400) := by
  by_cases named : character ∈ ['"', '\\', '\n', '\r', '\t', '\x08', '\x0c']
  · right; left
    simp only [List.mem_cons, List.not_mem_nil, or_false] at named
    rcases named with rfl | rfl | rfl | rfl | rfl | rfl | rfl <;>
      exact ⟨_, rfl, by decide, rfl⟩
  simp only [List.mem_cons, List.not_mem_nil, or_false, not_or] at named
  obtain ⟨notQuote, notBackslash, notNewline, notReturn, notTab, notBackspace, notFormFeed⟩ :=
    named
  simp only [escapeCharacter, if_neg notQuote, if_neg notBackslash, if_neg notNewline,
    if_neg notReturn, if_neg notTab, if_neg notBackspace, if_neg notFormFeed]
  by_cases printable : 0x20 ≤ character.toNat ∧ character.toNat < 0x7f
  · left
    simp [printable, notQuote, notBackslash]
  rw [if_neg printable]
  right; right
  by_cases small : character.toNat < 0x10000
  · left
    exact ⟨small, if_pos small⟩
  · right
    exact ⟨character.toNat - 0x10000, by omega, if_neg small⟩

/-- Reading a written character yields the character, and goes on behind it. -/
theorem readText?_escapeCharacter (fuel : Nat) (character : Char) (rest : List Char) :
    readText? (fuel + 1) (escapeCharacter character ++ rest) =
      (readText? fuel rest).map fun read => (character :: read.1, read.2) := by
  have valid : character.toNat < 0xd800 ∨
      0xdfff < character.toNat ∧ character.toNat < 0x110000 := character.valid
  rw [Option.map_eq_bind]
  rcases escapeCharacter_cases character with
    ⟨written, notQuote, plain⟩ | ⟨letter, written, notUnit, stands⟩ | ⟨small, written⟩ |
      ⟨offset, code, written⟩ <;>
    rw [written]
  · rw [List.cons_append, List.nil_append, readText?]
    · simp only [plain]
      rfl
    all_goals simp_all
  · rw [List.cons_append, List.cons_append, List.nil_append, readText?]
    · rw [stands]
      rfl
    · simpa using notUnit
  · rw [escapeUnit, List.cons_append, List.cons_append, readText?,
      readEscapedUnit?_hexDigits small (by omega), Char.ofNat_toNat]
    rfl
  · rw [escapeUnit, List.append_assoc, List.cons_append, List.cons_append, readText?,
      readEscapedUnit?_pair (by omega), ← code, Char.ofNat_toNat]
    rfl

/-- A written string is read up to its closing quote. -/
theorem readText?_written (characters rest : List Char) {fuel : Nat}
    (enough : characters.length < fuel) :
    readText? fuel (characters.flatMap escapeCharacter ++ '"' :: rest) =
      some (characters, rest) := by
  induction characters generalizing fuel with
  | nil =>
      obtain ⟨fuel, rfl⟩ := Nat.exists_eq_succ_of_ne_zero (Nat.ne_of_gt enough)
      rfl
  | cons character characters ih =>
      obtain ⟨fuel, rfl⟩ := Nat.exists_eq_succ_of_ne_zero (by omega : fuel ≠ 0)
      rw [List.flatMap_cons, List.append_assoc, readText?_escapeCharacter,
        ih (Nat.lt_of_succ_lt_succ enough)]
      rfl

end Json

end DocStore
