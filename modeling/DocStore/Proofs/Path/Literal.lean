import DocStore.Proofs.QuotedNames

/-!
# What a literal stands for

Between the quotes of a literal two quotes stand for one, and in MySQL a backslash gives the
next character another meaning.  A text stands for itself in Postgres, and in MySQL too if it
has no backslash.  A path literal is made of such a text with the segments of the path in it,
as plain names or in double quotes.
-/

namespace DocStore.Sql

/-! ## Literals -/

/-- What a backslash before a character stands for in a literal of MySQL.  Before a percent
sign and an underscore it stays. -/
def escapeMeaning (character : Char) : List Char :=
  match character with
  | '0' => ['\x00']
  | 'b' => ['\x08']
  | 'n' => ['\n']
  | 'r' => ['\r']
  | 't' => ['\t']
  | 'Z' => ['\x1a']
  | '%' => ['\\', '%']
  | '_' => ['\\', '_']
  | character => [character]

/-- The text that a literal stands for, given what is written between its quotes. -/
def literalContent? (dialect : Dialect) : List Char → Option (List Char)
  | [] => some []
  | '\'' :: '\'' :: rest => (literalContent? dialect rest).map ('\'' :: ·)
  | '\'' :: _ => none
  | '\\' :: character :: rest =>
      if hasEscapes dialect '\'' then
        (literalContent? dialect rest).map (escapeMeaning character ++ ·)
      else (literalContent? dialect (character :: rest)).map ('\\' :: ·)
  | ['\\'] => if hasEscapes dialect '\'' then none else some ['\\']
  | character :: rest => (literalContent? dialect rest).map (character :: ·)

/-- The text, written in a literal, stands for another one. -/
def StandsFor (dialect : Dialect) (written meant : List Char) : Prop :=
  ∀ rest, literalContent? dialect (written.flatMap (quotedCharacter '\'') ++ rest) =
    (literalContent? dialect rest).map (meant ++ ·)

namespace StandsFor

variable {dialect : Dialect} {written meant : List Char}

theorem nil : StandsFor dialect [] [] := by
  intro rest
  simp

theorem append {laterWritten laterMeant : List Char} (first : StandsFor dialect written meant)
    (later : StandsFor dialect laterWritten laterMeant) :
    StandsFor dialect (written ++ laterWritten) (meant ++ laterMeant) := by
  intro rest
  rw [List.flatMap_append, List.append_assoc, first, later, Option.map_map]
  simp [Function.comp_def]

theorem content (stands : StandsFor dialect written meant) :
    literalContent? dialect (written.flatMap (quotedCharacter '\'')) = some meant := by
  simpa [literalContent?] using stands []

theorem character {character : Char}
    (noEscape : character = '\\' → hasEscapes dialect '\'' = false) :
    StandsFor dialect [character] [character] := by
  intro rest
  by_cases quote : character = '\''
  · subst quote
    simp [quotedCharacter, literalContent?]
  · by_cases backslash : character = '\\'
    · subst backslash
      cases rest <;> simp [quotedCharacter, literalContent?, noEscape]
    · simp [quotedCharacter, literalContent?, quote, backslash]

/-- A text stands for itself where it has no backslash or the dialect no escapes. -/
theorem self (text : List Char)
    (noEscape : '\\' ∈ text → hasEscapes dialect '\'' = false) :
    StandsFor dialect text text := by
  induction text with
  | nil => exact .nil
  | cons first text ih =>
      have firstSelf : StandsFor dialect [first] [first] :=
        .character fun backslash => noEscape (by simp [backslash])
      exact firstSelf.append (ih fun member => noEscape (List.mem_cons_of_mem _ member))

/-- What the parts of a text stand for makes up what the text stands for. -/
theorem flatMap {Part : Type} {parts : List Part} {write mean : Part → List Char}
    (each : ∀ part ∈ parts, StandsFor dialect (write part) (mean part)) :
    StandsFor dialect (parts.flatMap write) (parts.flatMap mean) := by
  induction parts with
  | nil => exact .nil
  | cons first parts ih =>
      obtain ⟨firstStands, others⟩ := List.forall_mem_cons.mp each
      exact firstStands.append (ih others)

theorem escaped {character : Char} (noQuote : character ≠ '\'')
    (escapes : hasEscapes dialect '\'' = true) :
    StandsFor dialect ['\\', character] (escapeMeaning character) := by
  intro rest
  simp [quotedCharacter, literalContent?, noQuote, escapes]

end StandsFor

/-! ## Plain names -/

theorem nameBody_eq_self_iff (text : List Char) :
    nameBody text = text ↔ text.getLast? ≠ some '\n' := by
  unfold nameBody
  split
  · rename_i ended
    obtain ⟨front, rfl⟩ := List.getLast?_eq_some_iff.mp ended
    simp
  · rename_i other
    simp [other]

/-- A plain name as a reader of paths takes it: without a line feed at its end. -/
def bareName (segment : String) : String := String.ofList (nameBody segment.toList)

theorem bareName_eq_self_iff (segment : String) :
    bareName segment = segment ↔ segment.toList.getLast? ≠ some '\n' := by
  rw [← nameBody_eq_self_iff, bareName, ← String.toList_inj, String.toList_ofList]

/-- A plain name is a word with at most one line feed after it, which its body lacks. -/
theorem isSimpleKey_cases {segment : String} (simple : isSimpleKey segment = true) :
    ∃ first rest, nameBody segment.toList = first :: rest ∧ isNameStart first = true ∧
      (∀ character ∈ first :: rest, isNamePart character = true) ∧
      (segment.toList = first :: rest ∨ segment.toList = first :: (rest ++ ['\n'])) := by
  unfold isSimpleKey at simple
  split at simple
  · cases simple
  · rename_i first rest body
    rw [Bool.and_eq_true, List.all_eq_true] at simple
    have part : isNamePart first = true := by
      have start := simple.1
      simp only [isNameStart, isNamePart, Char.isAlphanum, Bool.or_eq_true] at start ⊢
      tauto
    refine ⟨first, rest, body, simple.1, List.forall_mem_cons.mpr ⟨part, simple.2⟩, ?_⟩
    unfold nameBody at body
    split at body
    · rename_i ended
      obtain ⟨front, last⟩ := List.getLast?_eq_some_iff.mp ended
      rw [last, List.dropLast_concat] at body
      exact .inr (by rw [last, body, List.cons_append])
    · exact .inl body

theorem isNamePart_or_lineFeed {segment : String} (simple : isSimpleKey segment = true)
    {character : Char} (member : character ∈ segment.toList) :
    isNamePart character = true ∨ character = '\n' := by
  obtain ⟨first, rest, _, _, parts, letters⟩ := isSimpleKey_cases simple
  rcases letters with same | same <;> rw [same] at member
  · exact .inl (parts character member)
  · rw [← List.cons_append, List.mem_append, List.mem_singleton] at member
    exact member.imp_left (parts character)

/-- Letters, digits and the underscore are ASCII characters. -/
theorem toNat_lt_of_isNamePart {character : Char} (isPart : isNamePart character = true) :
    character.toNat < 128 := by
  have below {last : Char} (atMost : character.val ≤ last.val) (ascii : last.toNat < 128) :
      character.toNat < 128 :=
    Nat.lt_of_le_of_lt (UInt32.le_iff_toNat_le.mp atMost) ascii
  have classes : ((character.isUpper || character.isLower || character.isDigit) ||
      character == '_') = true := isPart
  simp only [Bool.or_eq_true, beq_iff_eq] at classes
  rcases classes with ((upper | lower) | digit) | rfl
  · exact below (of_decide_eq_true upper).2 (by decide)
  · exact below (of_decide_eq_true (Bool.and_eq_true_iff.mp lower).2) (by decide)
  · exact below (of_decide_eq_true (Bool.and_eq_true_iff.mp digit).2) (by decide)
  · decide

/-- What holds of the ASCII characters among them holds of all parts of names. -/
theorem of_isNamePart (Holds : Char → Prop)
    (all : ∀ code < 128, isNamePart (Char.ofNat code) = true → Holds (Char.ofNat code))
    {character : Char} (isPart : isNamePart character = true) : Holds character := by
  simpa [isPart] using all character.toNat (toNat_lt_of_isNamePart isPart)

/-! ## Joined texts -/

theorem toList_intercalate_cons (separator first : String) (texts : List String) :
    (String.intercalate separator (first :: texts)).toList =
      first.toList ++ texts.flatMap fun text => separator.toList ++ text.toList := by
  induction texts generalizing first with
  | nil => simp
  | cons second texts ih =>
      rw [String.intercalate_cons_of_ne_nil (by simp), String.toList_append,
        String.toList_append, ih]
      simp

/-! ## Tokens of path expressions -/

theorem tokens?_jsonPath (dialect : Dialect) (path : String) :
    (dialect.jsonPath path).tokens? dialect = some ((dialect.jsonPath path).lexemes dialect) :=
  (dialect.wellJoined_jsonPath path).tokens?_eq

theorem tokens?_fieldPath (dialect : Dialect) (path : String) :
    (dialect.fieldPath path).tokens? dialect = some ((dialect.fieldPath path).lexemes dialect) :=
  (dialect.wellJoined_fieldPath path).tokens?_eq

end DocStore.Sql
