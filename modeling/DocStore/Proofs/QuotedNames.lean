import DocStore.Proofs.Alignment
import DocStore.Proofs.FilterMapping

/-!
# Names stay in their quotes

The engine receives a statement with single percent signs and with its values put in,
and cuts it into tokens by the rules of its dialect.  Whatever names a statement is
made of, each quoted piece is one token, which ends at its closing quote, and outside
of quotes there is fixed text only.  So the field keys of a filter fill places
between tokens that do not depend on them: other keys give the same other tokens.
-/

namespace DocStore

open Sql Fragment

/-! ## Quoted pieces -/

namespace Sql

/-- The tokens of a fragment as the engine receives it. -/
def Fragment.tokens? (dialect : Dialect) (fragment : Fragment) : Option (List Lexeme) :=
  (format (fragment.render dialect).toList fragment.params).bind (lex dialect)

/-- The quote and the content of a quoted piece. -/
def Piece.quotation? (dialect : Dialect) : Piece → Option (Char × String)
  | .literal content => some ('\'', content)
  | .identifier name => some (dialect.identifierQuote, name)
  | _ => none

theorem Piece.lexemes_of_quotation? {dialect : Dialect} {piece : Piece} {quote : Char}
    {content : String} (quoted : piece.quotation? dialect = some (quote, content)) :
    piece.lexemes dialect = [.quoted quote (quotedBody quote content)] := by
  cases piece <;> cases quoted <;> rfl

@[simp] theorem Fragment.lexemes_append (dialect : Dialect) (left right : Fragment) :
    lexemes dialect (left ++ right) = lexemes dialect left ++ lexemes dialect right := by
  simp [lexemes]

@[simp] theorem Fragment.lexemes_cons (dialect : Dialect) (piece : Piece)
    (fragment : Fragment) :
    lexemes dialect (piece :: fragment) = piece.lexemes dialect ++ lexemes dialect fragment := by
  simp [lexemes]

@[simp] theorem Fragment.lexemes_nil (dialect : Dialect) : lexemes dialect [] = [] := rfl

namespace WellJoined

variable {dialect : Dialect} {opened : Bool} {fragment left right : Fragment}

theorem tokens?_eq (wellJoined : WellJoined dialect true fragment) :
    fragment.tokens? dialect = some (fragment.lexemes dialect) := by
  rw [tokens?, format_render dialect wellJoined.percentFree, Option.bind_some,
    wellJoined.lex_eq]

/-- What stands before a piece is well joined by itself. -/
theorem of_append (wellJoined : WellJoined dialect opened (left ++ right)) :
    WellJoined dialect opened left := by
  induction left generalizing opened with
  | nil => exact .nil
  | cons piece left ih =>
      rw [List.cons_append] at wellJoined
      cases wellJoined with
      | joint isJoint rest => exact .joint isJoint (ih rest)
      | lead isLead rest => exact .lead isLead (ih rest)
      | tail isTail rest => exact .tail isTail (ih rest)
      | phrase isPhrase rest => exact .phrase isPhrase (ih rest)
      | empty rest => exact .empty (ih rest)
      | literal escaped rest => exact .literal escaped (ih rest)
      | identifier rest => exact .identifier (ih rest)
      | parameter rest => exact .parameter (ih rest)
      | document rest => exact .document (ih rest)

end WellJoined

end Sql

/-- The names in a statement do not change its structure. -/
structure Statement.KeepsQuotes (statement : Statement) : Prop where
  /-- All text outside of quotes is fixed, but for numbers. -/
  outside : ∀ text, .raw text ∈ statement.body →
    text ∈ fixedTexts statement.dialect ∨ IsAmount text
  /-- A quoted piece is one token.  The text up to its closing quote has this token and
  the ones before it, and the whole text has them too. -/
  inside : ∀ before piece after quote content,
    statement.body = before ++ piece :: after →
    piece.quotation? statement.dialect = some (quote, content) →
    ∃ earlier later,
      tokens? statement.dialect before = some earlier ∧
      tokens? statement.dialect (before ++ [piece]) =
        some (earlier ++ [.quoted quote (quotedBody quote content)]) ∧
      tokens? statement.dialect statement.body =
        some (earlier ++ .quoted quote (quotedBody quote content) :: later)

theorem Statement.Generated.keepsQuotes {statement : Statement}
    (generated : Generated statement) : statement.KeepsQuotes where
  outside := generated.wellJoined.raw
  inside := by
    intro before piece after quote content divided quoted
    have whole := generated.wellJoined
    have token := Piece.lexemes_of_quotation? quoted
    have upTo : WellJoined statement.dialect true (before ++ [piece] ++ after) := by
      simpa [← divided] using whole
    refine ⟨_, lexemes statement.dialect after, upTo.of_append.of_append.tokens?_eq, ?_, ?_⟩
    · simp [upTo.of_append.tokens?_eq, token]
    · rw [whole.tokens?_eq, divided]
      simp [token]

/-! ## Other field keys -/

namespace Sql

/-- What the literal of a field path holds. -/
def pathContent (dialect : Dialect) (path : String) : String :=
  match dialect with
  | .postgres =>
      match splitPath path with
      | [segment] => segment
      | segments => arrayContent segments
  | .mysql => dollarContent (splitPath path)

/-- Postgres has one operator for paths of one segment and another one for all
others. -/
def isNested (path : String) : Bool := (splitPath path).length != 1

/-- The simplest path that is written with the same operator. -/
def marker (dialect : Dialect) (path : String) : String :=
  match dialect with
  | .postgres => if isNested path then "x.x" else "x"
  | .mysql => "x"

theorem isNested_marker (path : String) : isNested (marker .postgres path) = isNested path := by
  unfold marker
  cases nested : isNested path <;> rfl

theorem marker_cases (dialect : Dialect) (path : String) :
    marker dialect path = "x" ∨ marker dialect path = "x.x" := by
  cases dialect with
  | postgres => cases nested : isNested path <;> simp [marker, nested]
  | mysql => exact .inl rfl

/-- Puts the literal of a path where that of its marker stands, and leaves all else. -/
inductive Piece.Fills (dialect : Dialect) : Piece → Piece → Prop where
  | path (path : String) :
      Fills dialect (.literal (pathContent dialect (marker dialect path)))
        (.literal (pathContent dialect path))
  | same (piece : Piece) : Fills dialect piece piece

/-- The token of a field path. -/
def pathToken (dialect : Dialect) (path : String) : Lexeme :=
  .quoted '\'' (quotedBody '\'' (pathContent dialect path))

/-- Puts the token of a path where that of its marker stands, and leaves all else. -/
inductive Lexeme.Fills (dialect : Dialect) : Lexeme → Lexeme → Prop where
  | path (path : String) :
      Fills dialect (pathToken dialect (marker dialect path)) (pathToken dialect path)
  | same (token : Lexeme) : Fills dialect token token

theorem Fragment.fills_lexemes {dialect : Dialect} {left right : Fragment}
    (pieces : List.Forall₂ (Piece.Fills dialect) left right) :
    List.Forall₂ (Lexeme.Fills dialect) (left.lexemes dialect) (right.lexemes dialect) := by
  induction pieces with
  | nil => exact .nil
  | cons first _ ih =>
      rw [lexemes_cons, lexemes_cons]
      refine List.rel_append ?_ ih
      cases first with
      | path path => exact .cons (.path path) .nil
      | same piece => exact List.forall₂_same.mpr fun token _ => .same token

end Sql

/-- The simplest path in the place of each field key. -/
def FilterMapping.marked (dialect : Dialect) : FilterMapping where
  key := marker dialect
  operand value := value
  hasDollar_key name _ := by
    rcases marker_cases dialect name with same | same <;> rw [same] <;> decide
  combinator_key name := by
    rcases marker_cases dialect name with same | same <;> exact .inl (by rw [same]; rfl)
  class_operand _ := rfl
  operand_of_foreign _ _ := rfl
  isObject_operand _ noObject := noObject
  obstacle_operand _ _ := .inr rfl

namespace Dialect

variable (dialect : Dialect) (path : String)

theorem fills_same (fragment : Fragment) :
    List.Forall₂ (Piece.Fills dialect) fragment fragment :=
  List.forall₂_same.mpr fun piece _ => .same piece

/-- Postgres writes a path with one of two operators. -/
theorem postgres_operator (single nested : String) :
    (match splitPath path with
      | [segment] => [.raw single, .literal segment]
      | segments => [.raw nested, .literal (arrayContent segments)] : Fragment) =
      [ .raw (if isNested path then nested else single),
        .literal (pathContent .postgres path) ] := by
  unfold isNested pathContent
  dsimp only
  split
  · rename_i segment one
    simp [one]
  · rename_i several
    have notOne : (splitPath path).length ≠ 1 := fun one =>
      (List.length_eq_one_iff.mp one).elim several
    simp [notOne]

theorem jsonPath_postgres :
    jsonPath .postgres path =
      [ .raw (if isNested path then documentColumn ++ " #> " else documentColumn ++ "->"),
        .literal (pathContent .postgres path) ] :=
  postgres_operator path _ _

theorem fieldPath_postgres :
    fieldPath .postgres path =
      [ .raw (if isNested path then documentColumn ++ " #>> " else documentColumn ++ "->>"),
        .literal (pathContent .postgres path) ] :=
  postgres_operator path _ _

theorem fills_jsonPath :
    List.Forall₂ (Piece.Fills dialect) (dialect.jsonPath (marker dialect path))
      (dialect.jsonPath path) := by
  cases dialect with
  | postgres =>
      rw [jsonPath_postgres, jsonPath_postgres, isNested_marker]
      exact .cons (.same _) (.cons (.path path) .nil)
  | mysql => exact .cons (.same _) (.cons (.path path) (.cons (.same _) .nil))

theorem fills_fieldPath :
    List.Forall₂ (Piece.Fills dialect) (dialect.fieldPath (marker dialect path))
      (dialect.fieldPath path) := by
  cases dialect with
  | postgres =>
      rw [fieldPath_postgres, fieldPath_postgres, isNested_marker]
      exact .cons (.same _) (.cons (.path path) .nil)
  | mysql =>
      exact .cons (.same _)
        (List.rel_append (fills_jsonPath .mysql path) (fills_same .mysql _))

theorem fills_hasType (type : JsonType) :
    List.Forall₂ (Piece.Fills dialect) (dialect.hasType (marker dialect path) type)
      (dialect.hasType path type) := by
  have json := fills_jsonPath dialect path
  cases dialect with
  | postgres => exact .cons (.same _) (List.rel_append json (fills_same .postgres _))
  | mysql => exact .cons (.same _) (List.rel_append json (fills_same .mysql _))

theorem fills_guarded (type : JsonType) {left right : Fragment}
    (pieces : List.Forall₂ (Piece.Fills dialect) left right) :
    List.Forall₂ (Piece.Fills dialect) (dialect.guarded (marker dialect path) type left)
      (dialect.guarded path type right) :=
  .cons (.same _) (List.rel_append (fills_hasType dialect path type)
    (.cons (.same _) (List.rel_append pieces (fills_same dialect _))))

theorem fills_typedValue (type : JsonType) :
    List.Forall₂ (Piece.Fills dialect) (dialect.typedValue (marker dialect path) type)
      (dialect.typedValue path type) := by
  have text := fills_fieldPath dialect path
  cases type with
  | number =>
      have number : List.Forall₂ (Piece.Fills dialect)
          (dialect.numeric (dialect.fieldPath (marker dialect path)))
          (dialect.numeric (dialect.fieldPath path)) :=
        .cons (.same _) (List.rel_append text (fills_same dialect _))
      exact fills_guarded dialect path .number number
  | string => exact fills_guarded dialect path .string text
  | boolean => exact fills_guarded dialect path .boolean text

theorem fills_comparable (operand : Value) :
    List.Forall₂ (Piece.Fills dialect) (dialect.comparable (marker dialect path) operand)
      (dialect.comparable path operand) := by
  unfold comparable
  split
  · exact fills_typedValue dialect path _
  · exact fills_fieldPath dialect path

theorem fills_nullTest (between after : String) :
    List.Forall₂ (Piece.Fills .mysql)
      (.raw "(" :: (jsonPath .mysql (marker .mysql path) ++ .raw between
        :: (jsonPath .mysql (marker .mysql path) ++ [.raw after])))
      (.raw "(" :: (jsonPath .mysql path ++ .raw between
        :: (jsonPath .mysql path ++ [.raw after]))) := by
  have json := fills_jsonPath .mysql path
  have second := List.rel_append json (fills_same .mysql [.raw after])
  exact .cons (.same _) (List.rel_append json (.cons (.same _) second))

theorem fills_isNull :
    List.Forall₂ (Piece.Fills dialect) (dialect.isNull (marker dialect path))
      (dialect.isNull path) := by
  cases dialect with
  | postgres => exact List.rel_append (fills_fieldPath .postgres path) (fills_same .postgres _)
  | mysql => exact fills_nullTest path _ _

theorem fills_isNotNull :
    List.Forall₂ (Piece.Fills dialect) (dialect.isNotNull (marker dialect path))
      (dialect.isNotNull path) := by
  cases dialect with
  | postgres => exact List.rel_append (fills_fieldPath .postgres path) (fills_same .postgres _)
  | mysql => exact fills_nullTest path _ _

end Dialect

namespace FilterMapping

/-- Of the text of a test only the path literals depend on its path. -/
theorem relates_marked (dialect : Dialect) :
    (marked dialect).Relates dialect (Piece.Fills dialect) where
  raw content := .same (.raw content)
  test test := by
    cases test with
    | absent path => exact dialect.fills_isNull path
    | present path => exact dialect.fills_isNotNull path
    | equals path operand =>
        exact List.rel_append (dialect.fills_comparable path operand) (dialect.fills_same _)
    | ordered path comparison operand =>
        exact List.rel_append (dialect.fills_comparable path operand) (dialect.fills_same _)
    | sameJson path operand =>
        have written : (marked dialect).written operand = operand := by simp [written, marked]
        rw [FieldTest.mapped, written]
        exact List.rel_append (dialect.fills_jsonPath path) (dialect.fills_same _)
    | oneOf path type operands =>
        have unchanged : operands.map (marked dialect).operand = operands := List.map_id _
        rw [FieldTest.mapped, unchanged]
        exact List.rel_append (dialect.fills_typedValue path type) (dialect.fills_same _)
    | never => exact dialect.fills_same _

end FilterMapping

namespace Filter

/-- What a filter is but for its field keys. -/
def skeleton (dialect : Dialect) (filter : Value) : Value :=
  (FilterMapping.marked dialect).filter filter

/-- The same filter but for its field keys.  In Postgres, a key of one segment stands
in the place of a key of one segment. -/
def SameButKeys (dialect : Dialect) (left right : Value) : Prop :=
  skeleton dialect left = skeleton dialect right

/-- What a compilation comes to: its error, or the tokens of its clause. -/
def tokens (dialect : Dialect) (strict : Bool) (filter : Value) (entries : List LogEntry) :
    Except Failure (Option (List Lexeme)) :=
  ((compile dialect strict filter).after entries).1.map fun text =>
    tokens? dialect (text.getD [])

/-- A compiled filter is well joined. -/
theorem wellJoined_of_after {dialect : Dialect} {strict : Bool} {filter : Value}
    {entries : List LogEntry} {text : Option Fragment}
    (compiled : ((compile dialect strict filter).after entries).1 = .ok text) :
    WellJoined dialect true (text.getD []) := by
  rw [after_compile] at compiled
  split at compiled
  · cases compiled
  · cases compiled
    cases written : (condition filter).fragment? dialect with
    | none => exact .nil
    | some text => exact (condition filter).wellJoined_fragment? dialect written

/-- The clause of a filter has the tokens of its skeleton, with tokens of its field keys
in the places of the markers. -/
theorem tokens_skeleton (dialect : Dialect) (strict : Bool) (filter : Value)
    (entries : List LogEntry) :
    (∃ failure,
        tokens dialect strict (skeleton dialect filter) entries = .error failure ∧
          tokens dialect strict filter entries = .error failure) ∨
      ∃ template own,
        tokens dialect strict (skeleton dialect filter) entries = .ok (some template) ∧
          tokens dialect strict filter entries = .ok (some own) ∧
          List.Forall₂ (Lexeme.Fills dialect) template own := by
  unfold tokens skeleton
  rcases FilterMapping.compile_mapped (FilterMapping.relates_marked dialect) strict filter
    entries with ⟨failure, markedFails, fails⟩ | ⟨markedText, text, marked, compiled, pieces⟩ |
      ⟨_, ⟨_, operand, _, _, obstacle, written, _⟩, _⟩
  · exact .inl ⟨failure, by rw [markedFails]; rfl, by rw [fails]; rfl⟩
  · refine .inr ⟨lexemes dialect (markedText.getD []), lexemes dialect (text.getD []), ?_, ?_,
      fills_lexemes ?_⟩
    · rw [marked, Except.map, (wellJoined_of_after marked).tokens?_eq]
    · rw [compiled, Except.map, (wellJoined_of_after compiled).tokens?_eq]
    · cases pieces with
      | none => exact .nil
      | some pieces => exact pieces
  · -- the operands stay as they are
    have same : (FilterMapping.marked dialect).written operand = operand := ite_self operand
    rw [same, obstacle] at written
    cases written

/-- Two filters fail alike, or their clauses have the same tokens but for those of field
keys, which stand in the same places. -/
def SameStructure (dialect : Dialect) (strict : Bool) (left right : Value)
    (entries : List LogEntry) : Prop :=
  (∃ failure,
      tokens dialect strict left entries = .error failure ∧
        tokens dialect strict right entries = .error failure) ∨
    ∃ template leftTokens rightTokens,
      tokens dialect strict (skeleton dialect left) entries = .ok (some template) ∧
        tokens dialect strict left entries = .ok (some leftTokens) ∧
        tokens dialect strict right entries = .ok (some rightTokens) ∧
        List.Forall₂ (Lexeme.Fills dialect) template leftTokens ∧
        List.Forall₂ (Lexeme.Fills dialect) template rightTokens

theorem sameStructure_of_sameButKeys {dialect : Dialect} {left right : Value}
    (same : SameButKeys dialect left right) (strict : Bool) (entries : List LogEntry) :
    SameStructure dialect strict left right entries := by
  have leftTokens := tokens_skeleton dialect strict left entries
  have rightTokens := tokens_skeleton dialect strict right entries
  have sameSkeleton : skeleton dialect left = skeleton dialect right := same
  rw [← sameSkeleton] at rightTokens
  rcases leftTokens with ⟨failure, fails, leftFails⟩ | ⟨template, own, read, leftRead, leftFills⟩
  · rcases rightTokens with ⟨other, otherFails, rightFails⟩ | ⟨_, _, read, _⟩
    · rw [fails] at otherFails
      exact .inl ⟨failure, leftFails, rightFails.trans otherFails.symm⟩
    · rw [fails] at read
      cases read
  · rcases rightTokens with ⟨_, fails, _⟩ | ⟨other, rightOwn, otherRead, rightRead, rightFills⟩
    · rw [read] at fails
      cases fails
    · rw [read] at otherRead
      cases otherRead
      exact .inr ⟨template, own, rightOwn, read, leftRead, rightRead, leftFills, rightFills⟩

end Filter

/-- Names do not change the structure of a statement.  Each stands in a quoted token that
ends at its closing quote, and other field keys leave all other tokens of a clause. -/
theorem names_keep_structure :
    (∀ statement, Statement.Generated statement → statement.KeepsQuotes) ∧
      ∀ dialect strict left right entries, Filter.SameButKeys dialect left right →
        Filter.SameStructure dialect strict left right entries :=
  ⟨fun _ generated => generated.keepsQuotes,
    fun _ strict _ _ entries same => Filter.sameStructure_of_sameButKeys same strict entries⟩

/-- Quotes, backslashes, percent signs and comment marks. -/
theorem names_keep_structure_quotes :
    ∃ statement log,
      (Query.count { dialect := .mysql, strict := true } "c`; -- %s"
        (.object [("a\\'\"%s/*.b", .text "'"), ("$or", .list [.object [("#", .null)]])])).Returns
          [] statement log ∧
      statement.KeepsQuotes ∧
      Filter.SameButKeys .postgres
        (.object [("a\\'\"%s/*.b", .text "'"), ("$or", .list [.object [("#", .null)]])])
        (.object [("c.d", .text "'"), ("$or", .list [.object [("e''", .null)]])]) ∧
      Filter.SameStructure .postgres true
        (.object [("a\\'\"%s/*.b", .text "'"), ("$or", .list [.object [("#", .null)]])])
        (.object [("c.d", .text "'"), ("$or", .list [.object [("e''", .null)]])]) [] := by
  have returned : (Query.count { dialect := .mysql, strict := true } "c`; -- %s"
      (.object [("a\\'\"%s/*.b", .text "'"),
        ("$or", .list [.object [("#", .null)]])])).Returns [] _ _ := rfl
  have same : Filter.SameButKeys .postgres
      (.object [("a\\'\"%s/*.b", .text "'"), ("$or", .list [.object [("#", .null)]])])
      (.object [("c.d", .text "'"), ("$or", .list [.object [("e''", .null)]])]) := rfl
  exact ⟨_, _, returned, names_keep_structure.1 _ (.count returned), same,
    names_keep_structure.2 .postgres true _ _ [] same⟩

end DocStore
