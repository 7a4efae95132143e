import Mathlib
import DocStore.Proofs.Insertion
import DocStore.Proofs.Json.Values
import DocStore.Proofs.Json.RoundTrip
import DocStore.Proofs.NumberText

/-!
# Stored documents are read back

A document is stored as text of ASCII characters: what lies beyond ASCII is written as
escapes.  The bytes of such a text are the codes of its characters, so that a document
is read back from its text and from the bytes of its text alike, with the members of all
its objects in their order.
-/

namespace DocStore

/-- All characters of a text are ASCII characters. -/
def IsAscii (text : List Char) : Prop := ∀ character ∈ text, character.toNat < 0x80

namespace IsAscii

variable {text rest : List Char} {character : Char}

theorem nil : IsAscii [] := fun _ member => absurd member List.not_mem_nil

theorem cons (ascii : character.toNat < 0x80) (others : IsAscii rest) :
    IsAscii (character :: rest) :=
  List.forall_mem_cons.mpr ⟨ascii, others⟩

theorem of_all (ascii : (text.all fun character => decide (character.toNat < 0x80)) = true) :
    IsAscii text :=
  fun character member => of_decide_eq_true (List.all_eq_true.mp ascii character member)

theorem append (first : IsAscii text) (second : IsAscii rest) : IsAscii (text ++ rest) :=
  List.forall_mem_append.mpr ⟨first, second⟩

end IsAscii

/-! ## The characters of JSON texts -/

theorem isAscii_of_isNumeralPart {character : Char} (isPart : isNumeralPart character = true) :
    character.toNat < 0x80 := by
  rcases Bool.or_eq_true_iff.mp isPart with digit | letter
  · simp only [Char.isDigit, Bool.and_eq_true, decide_eq_true_eq, ge_iff_le] at digit
    have atMost : character.toNat ≤ 57 := digit.2
    omega
  · simp only [List.contains_iff_mem, List.mem_cons, List.not_mem_nil, or_false] at letter
    rcases letter with rfl | rfl | rfl | rfl | rfl <;> decide

theorem IsNumeral.isAscii {text : List Char} (numeral : IsNumeral text) : IsAscii text := by
  induction numeral with
  | nil => exact .nil
  | name isPart _ ih => exact .cons (isAscii_of_isNumeralPart isPart) ih
  | sign isSign isPart _ ih =>
      refine .cons ?_ (.cons (isAscii_of_isNumeralPart isPart) ih)
      simp only [List.mem_cons, List.not_mem_nil, or_false] at isSign
      rcases isSign with rfl | rfl | rfl <;> decide

namespace Json

theorem isAscii_escapeUnit {unit : Nat} (small : unit < 0x10000) : IsAscii (escapeUnit unit) := by
  have digits : ∀ digit < 16, (Nat.digitChar digit).toNat < 0x80 := by decide
  rw [escapeUnit, hexDigits_four small]
  refine .cons (by decide) (.cons (by decide) (.cons (digits _ ?_) (.cons (digits _ ?_)
    (.cons (digits _ ?_) (.cons (digits _ ?_) .nil))))) <;> omega

theorem isAscii_escapeCharacter (character : Char) : IsAscii (escapeCharacter character) := by
  have valid : character.toNat < 0xd800 ∨
      0xdfff < character.toNat ∧ character.toNat < 0x110000 := character.valid
  by_cases named : character ∈ ['"', '\\', '\n', '\r', '\t', '\x08', '\x0c']
  · simp only [List.mem_cons, List.not_mem_nil, or_false] at named
    rcases named with rfl | rfl | rfl | rfl | rfl | rfl | rfl <;>
      exact .cons (by decide) (.cons (by decide) .nil)
  · simp only [List.mem_cons, List.not_mem_nil, or_false, not_or] at named
    simp only [escapeCharacter, named, if_false]
    split
    · rename_i printable
      exact .cons (by omega) .nil
    · split
      · exact isAscii_escapeUnit (by omega)
      · exact (isAscii_escapeUnit (by omega)).append (isAscii_escapeUnit (by omega))

theorem isAscii_writeText (text : String) : IsAscii (writeText text) := by
  refine .cons (by decide) (.append ?_ (.cons (by decide) .nil))
  intro character member
  obtain ⟨source, _, escaped⟩ := List.mem_flatMap.mp member
  exact isAscii_escapeCharacter source character escaped

theorem isAscii_render (number : Float) : IsAscii (numberFormat.render number).toList := by
  have named : IsAscii numberFormat.nanText.toList ∧
      IsAscii numberFormat.infinityText.toList :=
    ⟨.of_all (by decide), .of_all (by decide)⟩
  unfold FloatFormat.render
  split
  · exact named.1
  · split
    · simpa using IsAscii.cons (by decide) named.2
    · simpa using named.2
  · rename_i significand exponent _
    have begins := numberFormat.beginsWithWord_magnitude significand exponent
    dsimp only
    split
    · simpa using begins.signed.isAscii
    · simpa using begins.isNumeral.isAscii

theorem isAscii_writeScalar (scalar : Value) : IsAscii (writeScalar scalar) := by
  cases scalar with
  | int number => exact (isNumeral_repr number).isAscii
  | float number => exact isAscii_render number
  | text content => exact isAscii_writeText content
  | bool flag => cases flag <;> exact .of_all (by decide)
  | null => exact .of_all (by decide)
  | _ => exact .nil

mutual

/-- A JSON text consists of ASCII characters. -/
theorem isAscii_write (value : Value) : IsAscii (write value) := by
  cases value with
  | list items =>
      cases items with
      | nil => exact .cons (by decide) (.cons (by decide) .nil)
      | cons item items =>
          exact .cons (by decide) ((isAscii_write item).append (isAscii_writeItems items))
  | object members =>
      cases members with
      | nil => exact .cons (by decide) (.cons (by decide) .nil)
      | cons member members =>
          obtain ⟨key, value⟩ := member
          exact .cons (by decide) ((isAscii_writeText _).append (.cons (by decide)
            (.cons (by decide) ((isAscii_write value).append (isAscii_writeMembers members)))))
  | _ => exact isAscii_writeScalar _

theorem isAscii_writeItems (items : List Value) : IsAscii (writeItems items) := by
  cases items with
  | nil => exact .cons (by decide) .nil
  | cons item items =>
      exact .cons (by decide) (.cons (by decide)
        ((isAscii_write item).append (isAscii_writeItems items)))

theorem isAscii_writeMembers (members : List (Key × Value)) : IsAscii (writeMembers members) := by
  cases members with
  | nil => exact .cons (by decide) .nil
  | cons member members =>
      obtain ⟨key, value⟩ := member
      exact .cons (by decide) (.cons (by decide) ((isAscii_writeText _).append (.cons (by decide)
        (.cons (by decide) ((isAscii_write value).append (isAscii_writeMembers members))))))

end

end Json

/-! ## The bytes of ASCII texts -/

/-- The only byte of an ASCII character is its code. -/
theorem utf8EncodeChar_eq_code {character : Char} (ascii : character.toNat < 0x80) :
    String.utf8EncodeChar character = [UInt8.ofNat character.toNat] := by
  have small : character.val.toNat ≤ 127 := Nat.le_of_lt_succ ascii
  rw [String.utf8EncodeChar]
  exact if_pos small

namespace Utf8

theorem decode?_flatMap {text : List Char} (ascii : IsAscii text) :
    decode? (text.flatMap String.utf8EncodeChar) = some text := by
  induction text with
  | nil => rfl
  | cons character text ih =>
      obtain ⟨first, others⟩ := List.forall_mem_cons.mp ascii
      have code : (UInt8.ofNat character.toNat).toNat = character.toNat :=
        Nat.mod_eq_of_lt (by omega)
      rw [List.flatMap_cons, utf8EncodeChar_eq_code first, List.singleton_append]
      unfold decode?
      simp only [code, if_pos first, ih others, Char.ofNat_toNat, Option.map_some]

/-- The bytes of a text of ASCII characters are decoded as the text. -/
theorem decode?_toUTF8 {text : String} (ascii : IsAscii text.toList) :
    decode? text.toUTF8.data.toList = some text.toList := by
  have bytes : text.toUTF8.data.toList = text.toList.flatMap String.utf8EncodeChar := by
    rw [String.toUTF8_eq_toByteArray, ← String.utf8Encode_toList, List.utf8Encode]
    simp
  rw [bytes]
  exact decode?_flatMap ascii

end Utf8

/-! ## Writing and reading documents -/

namespace Document

open Value (IsJson)

variable {document : Members}

theorem isAscii_of_encode {value : Value} {text : String} (encoded : encode value = .ok text) :
    IsAscii text.toList := by
  rw [encode, Json.encode] at encoded
  split at encoded
  · cases encoded
  · obtain rfl := Except.ok.inj encoded
    rw [String.toList_ofList]
    exact Json.isAscii_write value

/-- Bytes of ASCII characters are read as their text is. -/
theorem decode_toUTF8 {text : String} (ascii : IsAscii text.toList) :
    decode (.bytes text.toUTF8.data.toList) = decode (.text text) := by
  rw [decode, Utf8.decode?_toUTF8 ascii, decode]
  simp only [String.ofList_toList]

/-- A document whose integers all have a text is written as ASCII characters, and is read back
from its text and from the bytes of its text.  No other document of JSON is written. -/
theorem decode_encode_of_isJson (isJson : IsJson (.object document)) :
    ((Value.object document).isWritable = true →
      ∃ text, encode (.object document) = .ok text ∧
        decode (.text text) = .ok (.object document) ∧
        decode (.bytes text.toUTF8.data.toList) = .ok (.object document) ∧
        IsAscii text.toList) ∧
    ((Value.object document).isWritable = false →
      encode (.object document) = .error .malformedValue) := by
  constructor
  · intro writable
    obtain ⟨text, encoded⟩ : ∃ text, encode (.object document) = .ok text := by
      rw [encode, Json.encode, isJson.obstacle?_eq_none_iff.mpr writable]
      exact ⟨_, rfl⟩
    have ascii := isAscii_of_encode encoded
    have readBack : decode (.text text) = .ok (.object document) :=
      Json.decode_of_encode isJson.hasTextKeys encoded
    exact ⟨text, encoded, readBack, (decode_toUTF8 ascii).trans readBack, ascii⟩
  · intro unwritable
    cases obstacle : Json.obstacle? (.object document) with
    | none => simp [isJson.obstacle?_eq_none_iff.mp obstacle] at unwritable
    | some fault =>
        rw [encode, Json.encode, obstacle, isJson.eq_of_obstacle? obstacle]

theorem decode_encode_nestedList :
    let document : Members :=
      [("a", .list [.int 1, .float 2.5, .null, .bool true]), ("b", .object [("c", .text "é")])]
    IsJson (.object document) ∧ ∃ text, encode (.object document) = .ok text ∧
      decode (.text text) = .ok (.object document) ∧
      decode (.bytes text.toUTF8.data.toList) = .ok (.object document) ∧
      IsAscii text.toList := by
  intro document
  have inner : IsJson (.object [("c", .text "é")]) := by
    refine .object ?_ ?_ ?_ <;> simp [Members.keys, IsJson.text]
  have isJson : IsJson (.object document) := by
    refine .object ?_ ?_ ?_
    · simp [document, Members.keys]
    · simp [document, Members.keys]
    · simp only [document, List.forall_mem_cons]
      refine ⟨.list ?_, inner, by simp⟩
      simp [IsJson.int, IsJson.float, IsJson.null, IsJson.bool]
  exact ⟨isJson, (decode_encode_of_isJson isJson).1 (by decide +kernel)⟩

/-- An integer of 4301 digits stands in a document of JSON that is not written. -/
theorem longInteger_not_encoded :
    IsJson (.object [("n", .int (10 ^ 4300))]) ∧
      ¬ ∃ text, encode (.object [("n", .int (10 ^ 4300))]) = .ok text := by
  have isJson : IsJson (.object [("n", .int (10 ^ 4300))]) :=
    .object (List.forall_mem_singleton.mpr ⟨"n", rfl⟩) (List.nodup_singleton _)
      (List.forall_mem_singleton.mpr (.int _))
  refine ⟨isJson, ?_⟩
  rintro ⟨text, encoded⟩
  have encodable := Json.obstacle?_of_encode encoded
  have writable := isJson.obstacle?_eq_none_iff.mp encodable
  revert writable
  decide +kernel

end Document

end DocStore
