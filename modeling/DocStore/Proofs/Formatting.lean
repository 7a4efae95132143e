import DocStore.Sql.Fragment

/-!
# Percent formatting

The native layers put the bound values into a statement by percent formatting:
`%s` takes the next value and `%%` stands for one percent sign.  `format` is
that step, and `placeholders?` only counts.  A fragment in whose fixed texts no
percent sign stands formats to the marks of its pieces, whatever its quoted
texts and its values are.
-/

namespace DocStore.Sql

/-- Reads a statement text from left to right: every percent sign must begin
`%%` or `%s`, and the number of `%s` is counted. -/
def placeholders? : List Char → Option Nat
  | [] => some 0
  | '%' :: '%' :: rest => placeholders? rest
  | '%' :: 's' :: rest => (placeholders? rest).map (· + 1)
  | '%' :: _ => none
  | _ :: rest => placeholders? rest

/-- What the engine reads: a character, or a value in the place of a
placeholder. -/
inductive Mark where
  | character (content : Char)
  | bound (value : Value)

/-- Puts values into a text.  There is no result for a percent sign that begins
neither `%%` nor `%s`, for a missing value and for a value that is left over. -/
def format : List Char → List Value → Option (List Mark)
  | [], values => if values.isEmpty then some [] else none
  | '%' :: '%' :: rest, values => (format rest values).map (.character '%' :: ·)
  | '%' :: 's' :: rest, value :: values => (format rest values).map (.bound value :: ·)
  | '%' :: _, _ => none
  | character :: rest, values => (format rest values).map (.character character :: ·)

theorem placeholders?_character {character : Char} (plain : character ≠ '%')
    (rest : List Char) : placeholders? (character :: rest) = placeholders? rest := by
  simp [placeholders?, plain]

/-- A text that formats has one placeholder for each value. -/
theorem placeholders?_of_format {text : List Char} {values : List Value} {marks : List Mark}
    (formatted : format text values = some marks) :
    placeholders? text = some values.length := by
  fun_induction format text values generalizing marks with
  | case1 values noneLeft => simp [placeholders?, List.isEmpty_iff.mp noneLeft]
  | case2 => cases formatted
  | case3 values rest ih =>
      obtain ⟨tail, tailFormatted, _⟩ := Option.map_eq_some_iff.mp formatted
      simp [placeholders?, ih tailFormatted]
  | case4 rest value values ih =>
      obtain ⟨tail, tailFormatted, _⟩ := Option.map_eq_some_iff.mp formatted
      simp [placeholders?, ih tailFormatted]
  | case5 => cases formatted
  | case6 character rest values _ _ plain ih =>
      obtain ⟨tail, tailFormatted, _⟩ := Option.map_eq_some_iff.mp formatted
      rw [placeholders?_character plain]
      exact ih tailFormatted

def characters (text : List Char) : List Mark := text.map .character

@[simp] theorem characters_append (left right : List Char) :
    characters (left ++ right) = characters left ++ characters right := by
  simp [characters]

theorem format_character {character : Char} (plain : character ≠ '%') (rest : List Char)
    (values : List Value) :
    format (character :: rest) values =
      (format rest values).map (.character character :: ·) := by
  simp [format, plain]

/-- Text without percent signs formats to itself. -/
theorem format_append_plain {text : List Char} (plain : '%' ∉ text) (rest : List Char)
    (values : List Value) :
    format (text ++ rest) values = (format rest values).map (characters text ++ ·) := by
  induction text with
  | nil => simp [characters]
  | cons character text ih =>
      have first : character ≠ '%' := fun equal => plain (by simp [equal])
      have others : '%' ∉ text := fun member => plain (List.mem_cons_of_mem _ member)
      simp [format_character first, ih others, characters, Function.comp_def]

theorem format_doubled (rest : List Char) (values : List Value) :
    format ('%' :: '%' :: rest) values =
      (format rest values).map (.character '%' :: ·) := by
  simp [format]

theorem format_placeholder (rest : List Char) (value : Value) (values : List Value) :
    format ('%' :: 's' :: rest) (value :: values) =
      (format rest values).map (.bound value :: ·) := by
  simp [format]

/-- One character between quotes as the engine reads it: only the quote is
doubled. -/
def quotedCharacter (quote character : Char) : List Char :=
  if character = quote then [character, character] else [character]

/-- The text that the engine reads between two quotes. -/
def quotedBody (quote : Char) (content : String) : List Char :=
  content.toList.flatMap (quotedCharacter quote)

def quotedText (quote : Char) (content : String) : List Char :=
  quote :: (quotedBody quote content ++ [quote])

/-- Quoted text formats to its content with quotes doubled, percent signs being
single again. -/
theorem format_enclose {quote : Char} (notPercent : quote ≠ '%') (content : String)
    (rest : List Char) (values : List Value) :
    format ((enclose quote content).toList ++ rest) values =
      (format rest values).map (characters (quotedText quote content) ++ ·) := by
  have body (text : List Char) :
      format (text.flatMap (doubleCharacter quote) ++ (quote :: rest)) values =
        (format (quote :: rest) values).map
          (characters (text.flatMap (quotedCharacter quote)) ++ ·) := by
    induction text with
    | nil => simp [characters]
    | cons character text ih =>
        by_cases percent : character = '%'
        · subst character
          simp [doubleCharacter, quotedCharacter, format_doubled, ih, notPercent.symm,
            characters, Function.comp_def]
        · by_cases same : character = quote
          · subst character
            simp [doubleCharacter, quotedCharacter, format_character percent, ih, characters,
              Function.comp_def]
          · simp [doubleCharacter, quotedCharacter, format_character percent, percent, same, ih,
              characters, Function.comp_def]
  have opening := body content.toList
  simp [enclose, format_character notPercent, opening, quotedText, quotedBody, characters,
    Function.comp_def]

def Piece.marks (dialect : Dialect) : Piece → List Mark
  | .raw content => characters content.toList
  | .literal content => characters (quotedText '\'' content)
  | .identifier name => characters (quotedText dialect.identifierQuote name)
  | .parameter value => [.bound value]
  | .document json =>
      match dialect with
      | .postgres => .bound (.text json) :: characters "::jsonb".toList
      | .mysql =>
          characters "CAST(".toList ++ .bound (.text json) :: characters " AS JSON)".toList

namespace Fragment

def marks (dialect : Dialect) (fragment : Fragment) : List Mark :=
  fragment.flatMap (Piece.marks dialect)

@[simp] theorem marks_nil (dialect : Dialect) : marks dialect [] = [] := rfl

@[simp] theorem marks_cons (dialect : Dialect) (piece : Piece) (fragment : Fragment) :
    marks dialect (piece :: fragment) = piece.marks dialect ++ marks dialect fragment := by
  simp [marks]

@[simp] theorem marks_append (dialect : Dialect) (left right : Fragment) :
    marks dialect (left ++ right) = marks dialect left ++ marks dialect right := by
  simp [marks]

/-- No fixed text of the fragment has a percent sign. -/
def PercentFree (fragment : Fragment) : Prop :=
  ∀ content, .raw content ∈ fragment → '%' ∉ content.toList

@[simp] theorem percentFree_nil : PercentFree [] := by
  intro content member
  cases member

@[simp] theorem percentFree_raw (content : String) (fragment : Fragment) :
    PercentFree (.raw content :: fragment) ↔
      '%' ∉ content.toList ∧ PercentFree fragment := by
  simp [PercentFree]

@[simp] theorem percentFree_literal (content : String) (fragment : Fragment) :
    PercentFree (.literal content :: fragment) ↔ PercentFree fragment := by
  simp [PercentFree]

@[simp] theorem percentFree_identifier (name : String) (fragment : Fragment) :
    PercentFree (.identifier name :: fragment) ↔ PercentFree fragment := by
  simp [PercentFree]

@[simp] theorem percentFree_parameter (value : Value) (fragment : Fragment) :
    PercentFree (.parameter value :: fragment) ↔ PercentFree fragment := by
  simp [PercentFree]

@[simp] theorem percentFree_document (json : String) (fragment : Fragment) :
    PercentFree (.document json :: fragment) ↔ PercentFree fragment := by
  simp [PercentFree]

@[simp] theorem percentFree_append (left right : Fragment) :
    PercentFree (left ++ right) ↔ PercentFree left ∧ PercentFree right := by
  simp only [PercentFree, List.mem_append]
  constructor
  · intro free
    exact ⟨fun content member => free content (.inl member),
      fun content member => free content (.inr member)⟩
  · rintro ⟨leftFree, rightFree⟩ content (member | member)
    · exact leftFree content member
    · exact rightFree content member

theorem render_cons (dialect : Dialect) (piece : Piece) (fragment : Fragment) :
    render dialect (piece :: fragment) =
      piece.render dialect placeholder ++ render dialect fragment := by
  simp [render, renderWith, String.join_cons]

/-- The text of a fragment takes exactly the values that the fragment binds, and
formats to its marks. -/
theorem format_render (dialect : Dialect) {fragment : Fragment} (free : PercentFree fragment) :
    format (render dialect fragment).toList (params fragment) =
      some (marks dialect fragment) := by
  induction fragment with
  | nil => rfl
  | cons piece fragment ih =>
      rw [render_cons, params_cons, String.toList_append]
      cases piece with
      | raw content =>
          obtain ⟨plain, restFree⟩ := (percentFree_raw content fragment).mp free
          simp [Piece.render, Piece.bound?, Piece.marks, format_append_plain plain, ih restFree]
      | literal content =>
          have restFree := (percentFree_literal content fragment).mp free
          simp [Piece.render, Piece.bound?, Piece.marks, literalText,
            format_enclose (show '\'' ≠ '%' by decide), ih restFree]
      | identifier name =>
          have restFree := (percentFree_identifier name fragment).mp free
          have quote : dialect.identifierQuote ≠ '%' := by cases dialect <;> decide
          simp [Piece.render, Piece.bound?, Piece.marks, identifierText,
            format_enclose quote, ih restFree]
      | parameter value =>
          have restFree := (percentFree_parameter value fragment).mp free
          simp [Piece.render, Piece.bound?, Piece.marks, placeholder, format_placeholder,
            ih restFree]
      | document json =>
          have restFree := (percentFree_document json fragment).mp free
          cases dialect with
          | postgres =>
              simp [Piece.render, Piece.bound?, Piece.marks, documentPlaceholder, placeholder,
                format_character, format_placeholder, ih restFree, characters]
          | mysql =>
              simp [Piece.render, Piece.bound?, Piece.marks, documentPlaceholder, placeholder,
                format_character, format_placeholder, ih restFree, characters]

/-- The text of a fragment has one placeholder for each value that it binds. -/
theorem placeholders?_render (dialect : Dialect) {fragment : Fragment}
    (free : PercentFree fragment) :
    placeholders? (render dialect fragment).toList = some (params fragment).length :=
  placeholders?_of_format (format_render dialect free)

end Fragment

end DocStore.Sql
