import DocStore.Proofs.GroupedStatement
import DocStore.Proofs.Json.RoundTrip
import DocStore.Proofs.Path.Agreement

/-!
# Keys of groups

A group with a key has the rows of one group in common that agree in the text of the key.  The
engine projects the value at the path to text: a string to its content, a missing value to NULL,
and anything else to its JSON text, which reads back.  So values with one text are the same
value of JSON, or else one of them is a string that spells the other.

A JSON null is NULL in Postgres.  MySQL has a text for it as for any other value, so the groups
are told apart there for documents without a null at the path.
-/

namespace DocStore

open Sql

/-! ## Texts of values -/

/-- Null and strings have a text of their own; any other value is written as JSON. -/
def Value.isWritten : Value → Bool
  | .null => false
  | .text _ => false
  | _ => true

/-- The text of a value, where an engine writes values as JSON. -/
def Value.spelling? (text : Value → String) : Value → Option String
  | .null => none
  | .text content => some content
  | value => some (text value)

/-- The projection to text of the value at a path, or of none. -/
def Dialect.projected? (dialect : Dialect) (text : Value → String) : Option Value → Option String
  | none => none
  | some .null =>
      match dialect with
      | .postgres => none
      | .mysql => some "null"
  | some value => value.spelling? text

/-- One value is a string that spells the other, which is none. -/
def Value.Collides (text : Value → String) (left right : Value) : Prop :=
  (right.isWritten = true ∧ left = .text (text right)) ∨
    (left.isWritten = true ∧ right = .text (text left))

/-- The text of a value is written in one way and reads back. -/
structure Value.IsSpelt (text : Value → String) (holds : Value → Prop) : Prop where
  /-- The same values have the same text. -/
  same : ∀ left right, holds left → holds right → left.sameJson right = true →
    text left = text right
  /-- The text is JSON of the value. -/
  reads : ∀ value, holds value → ∃ read : Value, read.IsJson ∧
    Json.decode (text value) = .ok read ∧ read.sameJson value = true

namespace Value

variable {text : Value → String} {left right : Value}

@[simp] theorem isWritten_null : Value.null.isWritten = false := rfl

@[simp] theorem isWritten_text (content : String) : (Value.text content).isWritten = false := rfl

theorem spelling?_of_isWritten (isWritten : left.isWritten = true) :
    left.spelling? text = some (text left) := by
  cases left <;> first | rfl | cases isWritten

theorem sameJson_eq_false (differ : left.isWritten ≠ right.isWritten) :
    left.sameJson right = false := by
  cases left <;> cases right <;> first | rfl | exact absurd rfl differ

/-- Written values have one text exactly if they are the same, for what is read of the text is
the same as both. -/
theorem text_eq_iff {holds : Value → Prop} (spelt : IsSpelt text holds) (leftJson : left.IsJson)
    (rightJson : right.IsJson) (leftHeld : holds left) (rightHeld : holds right) :
    text left = text right ↔ left.sameJson right = true := by
  refine ⟨fun oneText => ?_, spelt.same left right leftHeld rightHeld⟩
  obtain ⟨read, readJson, leftRead, leftSame⟩ := spelt.reads left leftHeld
  obtain ⟨other, _, rightRead, rightSame⟩ := spelt.reads right rightHeld
  rw [oneText] at leftRead
  obtain rfl : read = other := Except.ok.inj (leftRead.symm.trans rightRead)
  exact sameJson_of_common readJson leftJson rightJson leftSame rightSame

theorem cases_isWritten (value : Value) :
    value = .null ∨ (∃ content, value = .text content) ∨ value.isWritten = true := by
  cases value <;> simp [isWritten]

/-- Values are projected to one text exactly if they are the same, or one is a string that
spells the other. -/
theorem spelling?_eq_iff {holds : Value → Prop} (spelt : IsSpelt text holds)
    (leftJson : left.IsJson) (rightJson : right.IsJson)
    (leftHeld : left.isWritten = true → holds left)
    (rightHeld : right.isWritten = true → holds right) :
    left.spelling? text = right.spelling? text ↔
      left.sameJson right = true ∨ left.Collides text right := by
  rcases left.cases_isWritten with rfl | ⟨content, rfl⟩ | leftWritten <;>
    rcases right.cases_isWritten with rfl | ⟨other, rfl⟩ | rightWritten
  case inr.inr.inr.inr =>
    rw [spelling?_of_isWritten leftWritten, spelling?_of_isWritten rightWritten,
      Option.some.injEq, text_eq_iff spelt leftJson rightJson (leftHeld leftWritten)
        (rightHeld rightWritten), iff_self_or]
    rintro (⟨_, rfl⟩ | ⟨_, rfl⟩)
    · cases leftWritten
    · cases rightWritten
  case inl.inr.inr | inr.inl.inr.inr =>
    rw [spelling?_of_isWritten rightWritten, sameJson_eq_false (by simp [rightWritten])]
    simp [spelling?, Collides, rightWritten]
  case inr.inr.inl | inr.inr.inr.inl =>
    rw [spelling?_of_isWritten leftWritten, sameJson_eq_false (by simp [leftWritten])]
    simp [spelling?, Collides, leftWritten, eq_comm]
  all_goals simp [spelling?, sameJson, sameScalar, Collides]

end Value

/-! ## Texts of key expressions -/

theorem Dialect.projected?_eq {dialect : Dialect} {text : Value → String} {value : Option Value}
    (plain : dialect = .mysql → value ≠ some .null) :
    dialect.projected? text value = (value.getD .null).spelling? text := by
  cases value with
  | none => rfl
  | some value =>
      cases value with
      | null =>
          cases dialect with
          | postgres => rfl
          | mysql => exact absurd rfl (plain rfl)
      | _ => rfl

/-- The steps through which a projection to text leads, from its tokens.  In Postgres the
operators for texts end with two arrows, in MySQL a function is applied to an extraction. -/
def Sql.textSteps? (dialect : Dialect) (admits : Char → Bool) (tokens : List Lexeme) :
    Option (List (Option String)) :=
  match dialect, tokens with
  | .postgres, [column, .sign operator, content] =>
      if operator = "->>".toList ∨ operator = "#>>".toList then
        arraySteps? [column, .sign operator, content]
      else none
  | .mysql, [ .word function, .separator '(', extraction, .separator '(', column, .separator ',',
      content, .separator ')', .separator ')' ] =>
      if function = "JSON_UNQUOTE".toList then
        (keyPath? admits [ extraction, .separator '(', column, .separator ',', content,
          .separator ')' ]).map fun keys => keys.map some
      else none
  | _, _ => none

/-- The steps of a projection to text, as the engine reads it. -/
def Dialect.textSteps? (dialect : Dialect) (admits : Char → Bool) (expression : Fragment) :
    Option (List (Option String)) :=
  (expression.tokens? dialect).bind (Sql.textSteps? dialect admits)

/-- The text of a key expression in a document, or NULL, if the engine can read it. -/
def Dialect.keyText? (dialect : Dialect) (admits : Char → Bool) (text : Value → String)
    (expression : Fragment) (document : Members) : Option (Option String) :=
  (dialect.textSteps? admits expression).map fun steps =>
    dialect.projected? text (dialect.follow steps document)

/-- A projection leads where the path itself does. -/
theorem Dialect.textSteps?_fieldPath (dialect : Dialect) (admits : Char → Bool) (path : String) :
    dialect.textSteps? admits (dialect.fieldPath path) =
      match dialect with
      | .postgres => some (heldSteps path)
      | .mysql => ((jsonPath .mysql path).keyPath? admits).map fun keys => keys.map some := by
  rw [textSteps?, tokens?_fieldPath, Option.bind_some]
  cases dialect with
  | postgres =>
      have steps := arraySteps?_fieldPath path
      rw [Fragment.arraySteps?, tokens?_fieldPath, Option.bind_some] at steps
      rw [← steps, fieldPath_postgres]
      cases isNested path <;> rfl
  | mysql =>
      rw [Fragment.keyPath?, tokens?_jsonPath, Option.bind_some]
      rfl

/-- A path is projected as its segments exactly if Postgres takes it for one segment or keeps
each of them as the element of an array, and MySQL each of them as a key. -/
theorem Dialect.textSteps?_eq_segments_iff (dialect : Dialect) (admits : Char → Bool)
    (path : String) :
    dialect.textSteps? admits (dialect.fieldPath path) = some ((splitPath path).map some) ↔
      match dialect with
      | .postgres => (splitPath path).length = 1 ∨
          ∀ segment ∈ splitPath path, heldElement segment = some segment
      | .mysql => splitPath path ≠ [] ∧
          ∀ segment ∈ splitPath path, segment = heldKey segment ∧ HoldsPlainly admits segment := by
  rw [textSteps?_fieldPath]
  cases dialect with
  | postgres =>
      rcases heldSteps_cases path with ⟨segment, one, _, _, steps⟩ | ⟨nested, _, steps⟩
      · simp [steps, one]
      · have several : (splitPath path).length ≠ 1 := by simpa [isNested] using nested
        simp only [steps, Option.some.injEq, List.map_inj_left, or_iff_right several]
  | mysql =>
      rw [← keyPath?_jsonPath_eq_segments_iff]
      exact (Option.map_injective (List.map_injective_iff.mpr (Option.some_injective _))).eq_iff
        (b := some (splitPath path))

/-! ## Values at a path -/

theorem Dialect.mem_of_element? {dialect : Dialect} {items : List Value} {segment : String}
    {item : Value} (found : dialect.element? items segment = some item) : item ∈ items := by
  cases dialect with
  | postgres =>
      obtain ⟨subscript, _, found⟩ := Option.bind_eq_some_iff.mp found
      unfold elementAt? at found
      split at found
      · exact List.mem_of_getElem? found
      · split at found
        · exact List.mem_of_getElem? found
        · cases found
  | mysql => cases found

theorem Value.isJson_of_located {dialect : Dialect} {segments : List String}
    {value found : Value} (isJson : value.IsJson)
    (located : value.located dialect.element? segments = some found) : found.IsJson := by
  induction segments generalizing value with
  | nil =>
      cases located
      exact isJson
  | cons segment segments ih =>
      cases value with
      | object members =>
          obtain ⟨member, isMember, located⟩ := Option.bind_eq_some_iff.mp located
          exact ih (isJson.get? isMember) located
      | list items =>
          obtain ⟨item, isItem, located⟩ := Option.bind_eq_some_iff.mp located
          exact ih (isJson_list_iff.mp isJson item (Dialect.mem_of_element? isItem)) located
      | _ => cases located

/-- A table of documents that an engine can group by a path: it reads the path as its segments,
and it spells the values that the documents hold there. -/
structure KeyedTable (dialect : Dialect) (path : String) where
  rows : List Members
  /-- How the engine writes a value as JSON. -/
  text : Value → String
  /-- Which characters MySQL admits in a quoted key. -/
  admits : Char → Bool
  json : ∀ row ∈ rows, (Value.object row).IsJson
  /-- The engine reads the expression as the segments of the path. -/
  follows : dialect.textSteps? admits (dialect.fieldPath path) = some ((splitPath path).map some)
  spelt : Value.IsSpelt text fun value => value.isWritten = true ∧
    ∃ row ∈ rows, row.located dialect.element? path = some value
  /-- A null in MySQL has a text, so there are none. -/
  plain : dialect = .mysql → ∀ row ∈ rows, row.located dialect.element? path ≠ some .null

namespace KeyedTable

variable {dialect : Dialect} {path : String} (table : KeyedTable dialect path)

/-- The value of a document at the path; null stands for a missing one. -/
def valueOf (_ : KeyedTable dialect path) (row : Members) : Value :=
  (row.located dialect.element? path).getD .null

/-- Two documents are grouped together: the expression has one text in both, or is NULL in
both. -/
def SameGroup (expression : Fragment) (left right : Members) : Prop :=
  ∃ key, dialect.keyText? table.admits table.text expression left = some key ∧
    dialect.keyText? table.admits table.text expression right = some key

variable {table} {row left right : Members}

theorem keyText?_fieldPath (isRow : row ∈ table.rows) :
    dialect.keyText? table.admits table.text (dialect.fieldPath path) row =
      some ((table.valueOf row).spelling? table.text) := by
  rw [Dialect.keyText?, table.follows, Option.map_some, Dialect.follow_names]
  exact congrArg some (Dialect.projected?_eq fun isMySql => table.plain isMySql row isRow)

theorem isJson_valueOf (isRow : row ∈ table.rows) : (table.valueOf row).IsJson := by
  unfold valueOf
  cases found : row.located dialect.element? path with
  | none => exact .null
  | some value => exact Value.isJson_of_located (table.json row isRow) found

theorem holds_valueOf (isRow : row ∈ table.rows)
    (isWritten : (table.valueOf row).isWritten = true) :
    (table.valueOf row).isWritten = true ∧
      ∃ held ∈ table.rows, held.located dialect.element? path = some (table.valueOf row) := by
  refine ⟨isWritten, row, isRow, ?_⟩
  unfold valueOf at isWritten ⊢
  cases found : row.located dialect.element? path with
  | none => simp [found] at isWritten
  | some value => rfl

/-- Documents are grouped together by the text at a path exactly if their values there are the
same, or one is a string that spells the other. -/
theorem sameGroup_fieldPath_iff (leftRow : left ∈ table.rows) (rightRow : right ∈ table.rows) :
    table.SameGroup (dialect.fieldPath path) left right ↔
      (table.valueOf left).sameJson (table.valueOf right) = true ∨
        (table.valueOf left).Collides table.text (table.valueOf right) := by
  rw [← Value.spelling?_eq_iff table.spelt (isJson_valueOf leftRow) (isJson_valueOf rightRow)
    (holds_valueOf leftRow) (holds_valueOf rightRow)]
  simp only [SameGroup, keyText?_fieldPath leftRow, keyText?_fieldPath rightRow,
    Option.some.injEq]
  constructor
  · rintro ⟨_, rfl, same⟩
    exact same.symm
  · exact fun oneText => ⟨_, oneText, rfl⟩

/-- Documents with a number, with a string that spells it, and with no value at all. -/
def numberAndText : List Members := [[("a", .int 1)], [("a", .text "1")], []]

theorem eq_of_held_numberAndText {dialect : Dialect} {value : Value}
    (isWritten : value.isWritten = true)
    (held : ∃ row ∈ numberAndText, row.located dialect.element? "a" = some value) :
    value = .int 1 := by
  obtain ⟨row, isRow, found⟩ := held
  rw [Members.located_of_isFieldName _ (by decide)] at found
  simp only [numberAndText, List.mem_cons, List.not_mem_nil, or_false] at isRow
  rcases isRow with rfl | rfl | rfl <;> cases found
  · rfl
  · cases isWritten

/-- The documents in an engine that writes values as documents are written. -/
def ofNumberAndText (dialect : Dialect) : KeyedTable dialect "a" where
  rows := numberAndText
  text value := String.ofList (Json.write value)
  admits _ := true
  json := by
    simp [numberAndText, Value.isJson_object_iff, Members.keys, Value.IsJson.int,
      Value.IsJson.text]
  follows := by cases dialect <;> rfl
  spelt :=
    { same := by
        rintro left right ⟨leftWritten, leftHeld⟩ ⟨rightWritten, rightHeld⟩ _
        rw [eq_of_held_numberAndText leftWritten leftHeld,
          eq_of_held_numberAndText rightWritten rightHeld]
      reads := by
        rintro value ⟨isWritten, held⟩
        obtain rfl := eq_of_held_numberAndText isWritten held
        have encoded : Json.encode (.int 1) = .ok (String.ofList (Json.write (.int 1))) := by
          rw [Json.encode, show Json.obstacle? (.int 1) = none by decide +kernel]
        exact ⟨.int 1, .int 1, Json.decode_of_encode rfl encoded, rfl⟩ }
  plain := by
    rintro - row isRow found
    rw [Members.located_of_isFieldName _ (by decide)] at found
    simp only [numberAndText, List.mem_cons, List.not_mem_nil, or_false] at isRow
    rcases isRow with rfl | rfl | rfl <;> cases found

end KeyedTable

/-! ## Groups -/

namespace PipelinePlan

variable {settings : CompileSettings} {collection reference : String} {shape : PipelineShape}
  {group : Members} {plan : PipelinePlan} {entries log : List LogEntry}

/-- The statement of a group that names a field groups by the projection of the field to
text. -/
theorem exists_parts_of_reference (isGroup : shape.group = .object group)
    (named : group.get? groupColumn = some (.text reference))
    (returned : (ofShape settings collection shape).Returns entries plan log) :
    ∃ parts : GroupedParts, plan.statement = parts.statement settings.dialect collection ∧
      parts.key = some (settings.dialect.fieldPath (fieldOfReference reference)) := by
  obtain ⟨_, _, _, statementReturned⟩ := groupedStatement_of_ofShape isGroup returned
  obtain ⟨parts, isStatement, areOf, _⟩ := exists_parts_of_groupedStatement statementReturned
  exact ⟨parts, isStatement, by rw [areOf.key, named]⟩

/-- Grouping by a field is by the value of JSON at its path, but a string is not told from a
value of another kind that it spells.  In every table that the engine can group by the path, two
documents have one text of the key that the statement groups by exactly if their values at the
path are the same, a missing value being null, or one is a string that spells the other. -/
theorem sameGroup_iff (isGroup : shape.group = .object group)
    (named : group.get? groupColumn = some (.text reference))
    (returned : (ofShape settings collection shape).Returns entries plan log) :
    ∃ (parts : GroupedParts) (expression : Fragment),
      plan.statement = parts.statement settings.dialect collection ∧
      parts.key = some expression ∧
      ∀ table : KeyedTable settings.dialect (fieldOfReference reference),
        ∀ left ∈ table.rows, ∀ right ∈ table.rows,
          table.SameGroup expression left right ↔
            (table.valueOf left).sameJson (table.valueOf right) = true ∨
              (table.valueOf left).Collides table.text (table.valueOf right) := by
  obtain ⟨parts, isStatement, isKey⟩ := exists_parts_of_reference isGroup named returned
  exact ⟨parts, _, isStatement, isKey, fun table left leftRow right rightRow =>
    KeyedTable.sameGroup_fieldPath_iff leftRow rightRow⟩

/-- In MySQL a number is grouped with the string that spells it, and neither with a document
that has no value. -/
theorem sameGroup_mysql :
    let group : Members := [("_id", .text "$a")]
    let shape : PipelineShape := { PipelineShape.empty with group := .object group }
    let table := KeyedTable.ofNumberAndText .mysql
    ∃ plan log, (ofShape ⟨.mysql, false⟩ "c" shape).Returns [] plan log ∧
      ∃ (parts : GroupedParts) (expression : Fragment),
        plan.statement = parts.statement .mysql "c" ∧ parts.key = some expression ∧
        table.SameGroup expression [("a", .int 1)] [("a", .text "1")] ∧
        ¬table.SameGroup expression [("a", .int 1)] [] := by
  intro group shape table
  obtain ⟨plan, log, returned⟩ : ∃ plan log,
      (ofShape ⟨.mysql, false⟩ "c" shape).Returns [] plan log := ⟨_, _, rfl⟩
  have isGroup : shape.group = .object group := rfl
  obtain ⟨parts, expression, isStatement, isKey, groups⟩ := sameGroup_iff isGroup rfl returned
  have numberRow : ([("a", .int 1)] : Members) ∈ table.rows := List.mem_cons_self
  have textRow : ([("a", .text "1")] : Members) ∈ table.rows :=
    List.mem_cons_of_mem _ List.mem_cons_self
  have emptyRow : [] ∈ table.rows := List.mem_of_getLast? rfl
  refine ⟨plan, log, returned, parts, expression, isStatement, isKey,
    (groups table _ numberRow _ textRow).mpr (.inr (.inr ⟨rfl, rfl⟩)), fun together => ?_⟩
  rcases (groups table _ numberRow _ emptyRow).mp together with same | ⟨isWritten, _⟩ | ⟨_, isText⟩
  · cases same
  · cases isWritten
  · cases isText

/-- A number and the string that spells it are in one group, though they are not the same value
of JSON. -/
theorem sameGroup_differentKinds :
    let group : Members := [("_id", .text "$a")]
    let shape : PipelineShape := { PipelineShape.empty with group := .object group }
    let table := KeyedTable.ofNumberAndText .postgres
    ∃ plan log, (ofShape ⟨.postgres, false⟩ "c" shape).Returns [] plan log ∧
      ∃ (parts : GroupedParts) (expression : Fragment),
        plan.statement = parts.statement .postgres "c" ∧ parts.key = some expression ∧
        ∃ left ∈ table.rows, ∃ right ∈ table.rows, table.SameGroup expression left right ∧
          (table.valueOf left).sameJson (table.valueOf right) = false := by
  intro group shape table
  obtain ⟨plan, log, returned⟩ : ∃ plan log,
      (ofShape ⟨.postgres, false⟩ "c" shape).Returns [] plan log := ⟨_, _, rfl⟩
  have isGroup : shape.group = .object group := rfl
  obtain ⟨parts, isStatement, isKey⟩ := exists_parts_of_reference isGroup rfl returned
  have numberRow : ([("a", .int 1)] : Members) ∈ table.rows := List.mem_cons_self
  have textRow : ([("a", .text "1")] : Members) ∈ table.rows :=
    List.mem_cons_of_mem _ List.mem_cons_self
  exact ⟨plan, log, returned, parts, _, isStatement, isKey, _, numberRow, _, textRow,
    (KeyedTable.sameGroup_fieldPath_iff numberRow textRow).mpr (.inr (.inr ⟨rfl, rfl⟩)), rfl⟩

end PipelinePlan

end DocStore
