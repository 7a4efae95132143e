import DocStore.Proofs.FieldPaths
import DocStore.Proofs.QuotedNames
import DocStore.Sql.Catalog

/-!
# The catalog of indexes

A Postgres catalog prints an index as the statement that would create it.  The names and the path
literals in this text are whatever the index was created with.  An index is reported as unique if
the word `UNIQUE` occurs anywhere in its text, and so if it was created as unique or if the word
occurs in one of its names or paths.
-/

namespace DocStore

open Sql

/-! ## Words in texts -/

section

variable {word left right : List Char} {mark : Char}

theorem occursIn_iff {part text : List Char} : occursIn part text = true ↔ part <:+: text := by
  induction text with
  | nil => simp [occursIn]
  | cons first rest ih =>
      rw [occursIn, Bool.or_eq_true, ih, List.isPrefixOf_iff_prefix, List.infix_cons_iff]

theorem isPrefix_append_cons_iff (noPart : mark ∉ word) :
    word <+: left ++ mark :: right ↔ word <+: left := by
  refine ⟨?_, fun isPrefix => isPrefix.trans (List.prefix_append left _)⟩
  rintro ⟨rest, same⟩
  obtain ⟨between, isLeft, _⟩ | ⟨between, isWord, isRest⟩ := List.append_eq_append_iff.mp same
  · exact ⟨between, isLeft.symm⟩
  · cases between with
    | nil => simp [isWord]
    | cons first between =>
        obtain ⟨rfl, _⟩ := List.cons.inj isRest
        simp [isWord] at noPart

theorem isInfix_cons_iff (noPart : mark ∉ word) :
    word <:+: mark :: right ↔ word <:+: right := by
  rw [List.infix_cons_iff, or_iff_right_of_imp]
  intro atMark
  have isEmpty : word <+: [] := (isPrefix_append_cons_iff noPart).mp atMark
  rw [List.prefix_nil.mp isEmpty]
  exact List.nil_infix

/-- A word that does not contain a mark stands on one side of it. -/
theorem isInfix_append_cons_iff (noPart : mark ∉ word) :
    word <:+: left ++ mark :: right ↔ word <:+: left ∨ word <:+: right := by
  induction left with
  | nil =>
      rw [List.nil_append, isInfix_cons_iff noPart, or_iff_right_of_imp]
      intro isEmpty
      rw [List.infix_nil.mp isEmpty]
      exact List.nil_infix
  | cons first left ih =>
      rw [List.cons_append, List.infix_cons_iff, ih, ← List.cons_append,
        isPrefix_append_cons_iff noPart, List.infix_cons_iff, or_assoc]

theorem isInfix_marks_append_iff {marks : List Char} (noPart : ∀ mark ∈ marks, mark ∉ word) :
    word <:+: marks ++ right ↔ word <:+: right := by
  induction marks with
  | nil => rfl
  | cons mark marks ih =>
      obtain ⟨first, others⟩ := List.forall_mem_cons.mp noPart
      rw [List.cons_append, isInfix_cons_iff first, ih others]

/-- What begins with a mark is apart from what stands before. -/
theorem isInfix_append_iff_of_head (left : List Char) (begins : right.head? = some mark)
    (noPart : mark ∉ word) :
    word <:+: left ++ right ↔ word <:+: left ∨ word <:+: right := by
  obtain ⟨rest, rfl⟩ := List.head?_eq_some_iff.mp begins
  rw [isInfix_append_cons_iff noPart, isInfix_cons_iff noPart]

/-- What ends with a mark is apart from what stands after. -/
theorem isInfix_append_iff_of_getLast (right : List Char) (ends : left.getLast? = some mark)
    (noPart : mark ∉ word) :
    word <:+: left ++ right ↔ word <:+: left ∨ word <:+: right := by
  obtain ⟨start, rfl⟩ := List.getLast?_eq_some_iff.mp ends
  rw [List.append_assoc, List.singleton_append, isInfix_append_cons_iff noPart,
    isInfix_append_cons_iff noPart, or_assoc, or_iff_right_of_imp (a := word <:+: [])]
  intro isEmpty
  rw [List.infix_nil.mp isEmpty]
  exact List.nil_infix

/-- Writing a character as marks does not change which words occur. -/
theorem isInfix_flatMap_iff {write : Char → List Char}
    (written : ∀ character, write character = [character] ∨
      character ∉ word ∧ write character ≠ [] ∧ ∀ mark ∈ write character, mark ∉ word)
    (text : List Char) : word <:+: text.flatMap write ↔ word <:+: text := by
  suffices ∀ before, word <:+: before ++ text.flatMap write ↔ word <:+: before ++ text from
    this []
  induction text with
  | nil => simp
  | cons character text ih =>
      intro before
      rw [List.flatMap_cons]
      rcases written character with isSelf | ⟨noPart, full, areMarks⟩
      · simpa [isSelf] using ih (before ++ [character])
      · obtain ⟨mark, marks, isWritten⟩ := List.exists_cons_of_ne_nil full
        rw [isWritten] at areMarks ⊢
        obtain ⟨first, others⟩ := List.forall_mem_cons.mp areMarks
        rw [isInfix_append_cons_iff noPart, List.cons_append, isInfix_append_cons_iff first,
          isInfix_marks_append_iff others]
        exact or_congr_right (ih [])

theorem isInfix_intercalate_iff {marks : List Char} (noPart : ∀ mark ∈ marks, mark ∉ word)
    (apart : marks ≠ []) (full : word ≠ []) (parts : List (List Char)) :
    word <:+: marks.intercalate parts ↔ ∃ part ∈ parts, word <:+: part := by
  obtain ⟨mark, others, rfl⟩ := List.exists_cons_of_ne_nil apart
  obtain ⟨first, rest⟩ := List.forall_mem_cons.mp noPart
  induction parts with
  | nil => simp [full]
  | cons part parts ih =>
      cases parts with
      | nil => simp
      | cons second parts =>
          rw [List.intercalate_cons_cons, List.append_assoc, List.cons_append,
            isInfix_append_cons_iff first, isInfix_marks_append_iff rest, ih,
            List.exists_mem_cons_iff (a := part)]

theorem isInfix_quotedText_iff {quote : Char} (noPart : quote ∉ word) (content : String) :
    word <:+: quotedText quote content ↔ word <:+: content.toList := by
  have body : word <:+: quotedBody quote content ↔ word <:+: content.toList := by
    refine isInfix_flatMap_iff (fun character => ?_) content.toList
    by_cases isQuote : character = quote
    · exact .inr (by simp [quotedCharacter, isQuote, noPart])
    · exact .inl (by simp [quotedCharacter, isQuote])
  rw [quotedText, isInfix_cons_iff noPart, isInfix_append_cons_iff noPart, body]
  refine or_iff_left_of_imp fun isEmpty => ?_
  rw [List.infix_nil.mp isEmpty]
  exact List.nil_infix

end

/-! ## Joined segments -/

/-- The texts of segments with a separator between them. -/
def joinedTexts (separator : Char) (segments : List String) : List Char :=
  [separator].intercalate (segments.map fun segment => (segmentText segment).toList)

theorem toList_arrayContent (segments : List String) :
    (arrayContent segments).toList = '\x7b' :: (joinedTexts ',' segments ++ ['\x7d']) := by
  simp [arrayContent, joinedTexts, String.toList_append, String.toList_intercalate,
    Function.comp_def]

/-! ## Printed indexes -/

/-- An index on fields of the documents of a collection, as it was created. -/
structure FieldIndex where
  name : String
  collection : String
  /-- The paths of the fields, and whether they descend. -/
  spec : List (String × Bool)
  unique : Bool

/-- How a Postgres catalog prints names: which of them it quotes, and the name of the schema if it
stands before that of a collection. -/
structure NameStyle where
  isQuoted : String → Bool
  schema : Option String

def NameStyle.print (style : NameStyle) (name : String) : List Char :=
  if style.isQuoted name then quotedText '"' name else name.toList

def NameStyle.printTable (style : NameStyle) (collection : String) : List Char :=
  match style.schema with
  | none => style.print collection
  | some schema => style.print schema ++ '.' :: style.print collection

namespace Statement

theorem quotations_joined (dialect : Dialect) (separator : String) (fragments : List Fragment) :
    (Fragment.joined separator fragments).filterMap (Piece.quotation? dialect) =
      fragments.flatMap (List.filterMap (Piece.quotation? dialect)) := by
  induction fragments with
  | nil => rfl
  | cons first rest ih =>
      cases rest with
      | nil => simp [Fragment.joined]
      | cons second rest =>
          rw [Fragment.joined, List.filterMap_append, List.flatMap_cons, ← ih]
          · rfl
          · simp

theorem quotations_indexKey (dialect : Dialect) (path : String) (descends : Bool) :
    (indexKey dialect path descends).filterMap (Piece.quotation? dialect) =
      [('\'', pathContent dialect path)] := by
  cases dialect with
  | postgres =>
      simp only [indexKey, Dialect.fieldPath_postgres]
      cases descends <;> rfl
  | mysql => cases descends <;> rfl

/-- The quoted pieces of a statement that creates an index are its names and its paths. -/
theorem quotations_createIndex (dialect : Dialect) (table name : String)
    (keys : List (String × Bool)) (unique : Bool) :
    (createIndex dialect table name keys unique).body.filterMap (Piece.quotation? dialect) =
      (dialect.identifierQuote, name) :: (dialect.identifierQuote, table) ::
        keys.map fun key => ('\'', pathContent dialect key.1) := by
  have ofKeys : List.filterMap (Piece.quotation? dialect)
      (Fragment.joined ", " (keys.map fun (key : String × Bool) => indexKey dialect key.1 key.2) ++
        [Piece.raw ")"]) = keys.map fun key => ('\'', pathContent dialect key.1) := by
    rw [List.filterMap_append, quotations_joined, List.flatMap_map]
    simp only [quotations_indexKey, ← List.map_eq_flatMap]
    exact List.append_nil _
  exact congrArg (fun rest => (dialect.identifierQuote, name) ::
    (dialect.identifierQuote, table) :: rest) ofKeys

end Statement

namespace FieldIndex

/-- What stands before the path literal of a key, after its brackets. -/
def keyOpening (nested : Bool) : List Char := (if nested then "data #>> " else "data ->> ").toList

/-- What stands after the path literal of a key. -/
def keyClosing (nested descends : Bool) : List Char :=
  (if nested then "::text[]))" else "::text))").toList ++
    (if descends then " DESC" else "").toList

/-- A key of a Postgres index, with the path literal of the statement that created it. -/
def printKey (path : String) (descends : Bool) : List Char :=
  '(' :: '(' :: (keyOpening (isNested path) ++
    (quotedText '\'' (pathContent .postgres path) ++ keyClosing (isNested path) descends))

variable (style : NameStyle) (index : FieldIndex)

/-- What stands before the keys in the definition of an index. -/
def head : List Char :=
  (if index.unique then "CREATE UNIQUE INDEX " else "CREATE INDEX ").toList ++
    (style.print index.name ++
      (" ON ".toList ++ (style.printTable index.collection ++ " USING btree ".toList)))

/-- The definition of an index in a Postgres catalog. -/
def definition : List Char :=
  index.head style ++
    '(' :: (", ".toList.intercalate (index.spec.map fun key => printKey key.1 key.2) ++ [')'])

/-- The row of an index in a Postgres catalog. -/
def postgresRow : Value :=
  .object
    [("name", .text index.name), ("definition", .text (String.ofList (index.definition style)))]

/-- A word occurs in the name of an index, in those of its collection and schema, or in a path. -/
def Mentions (word : String) : Prop :=
  ∃ text ∈ index.name :: index.collection :: (style.schema.toList ++ index.spec.map Prod.fst),
    word.toList <:+: text.toList

end FieldIndex

/-! ## Words in printed indexes -/

/-- A word of letters. -/
structure IsLetters (word : List Char) : Prop where
  full : word ≠ []
  letters : ∀ character ∈ word, character.isAlpha = true

theorem IsLetters.notMem {word : List Char} (isWord : IsLetters word) {mark : Char}
    (noLetter : mark.isAlpha = false) : mark ∉ word :=
  fun member => by simp [isWord.letters mark member] at noLetter

section

variable {word : List Char}

theorem isInfix_print_iff (noQuote : '"' ∉ word) (style : NameStyle) (name : String) :
    word <:+: style.print name ↔ word <:+: name.toList := by
  unfold NameStyle.print
  split
  · exact isInfix_quotedText_iff noQuote name
  · rfl

theorem isInfix_printTable_iff (noQuote : '"' ∉ word) (noPoint : '.' ∉ word) (style : NameStyle)
    (collection : String) :
    word <:+: style.printTable collection ↔
      word <:+: collection.toList ∨ ∃ schema ∈ style.schema, word <:+: schema.toList := by
  unfold NameStyle.printTable
  cases style.schema with
  | none => simp [isInfix_print_iff noQuote]
  | some schema =>
      simp [isInfix_append_cons_iff noPoint, isInfix_print_iff noQuote, or_comm]

variable (isWord : IsLetters word)
include isWord

theorem isInfix_segmentText_iff (segment : String) :
    word <:+: (segmentText segment).toList ↔ word <:+: segment.toList := by
  unfold segmentText
  by_cases simple : isSimpleKey segment = true
  · rw [if_pos simple]
  · have quote : '"' ∉ word := isWord.notMem rfl
    have escape : '\\' ∉ word := isWord.notMem rfl
    rw [if_neg simple, String.toList_ofList, isInfix_cons_iff quote, isInfix_append_cons_iff quote,
      isInfix_flatMap_iff, List.infix_nil, or_iff_left isWord.full]
    intro character
    by_cases special : character = '\\' ∨ character = '"'
    · refine .inr ⟨?_, ?_, ?_⟩ <;> rcases special with rfl | rfl <;>
        simp [escapeSegmentCharacter, quote, escape]
    · exact .inl (if_neg special)

/-- A word does not reach over the points of a path. -/
theorem isInfix_path_iff (path : String) :
    word <:+: path.toList ↔ ∃ segment ∈ splitPath path, word <:+: segment.toList := by
  have point : ∀ mark ∈ ['.'], mark ∉ word := by simpa using isWord.notMem rfl
  have full : word <:+: path.toList ↔ ∃ piece ∈ cutAt '.' path.toList, word <:+: piece := by
    rw [← isInfix_intercalate_iff point (by simp) isWord.full, intercalate_cutAt]
  rw [full, splitPath]
  simp only [List.mem_map, exists_exists_and_eq_and, String.toList_ofList, List.mem_filter]
  refine exists_congr fun piece => and_congr_left fun occurs => (and_iff_left ?_).symm
  cases piece with
  | nil => exact absurd (List.infix_nil.mp occurs) isWord.full
  | cons => rfl

theorem isInfix_arrayContent_iff (segments : List String) :
    word <:+: (arrayContent segments).toList ↔
      ∃ segment ∈ segments, word <:+: segment.toList := by
  have comma : ∀ mark ∈ [','], mark ∉ word := by simpa using isWord.notMem rfl
  have opening : '\x7b' ∉ word := isWord.notMem rfl
  have closing : '\x7d' ∉ word := isWord.notMem rfl
  rw [toList_arrayContent, isInfix_cons_iff opening, isInfix_append_cons_iff closing,
    List.infix_nil, or_iff_left isWord.full, joinedTexts,
    isInfix_intercalate_iff comma (by simp) isWord.full]
  simp only [List.mem_map, exists_exists_and_eq_and, isInfix_segmentText_iff isWord]

theorem isInfix_pathContent_iff (path : String) :
    word <:+: (pathContent .postgres path).toList ↔ word <:+: path.toList := by
  rw [isInfix_path_iff isWord path]
  unfold pathContent
  dsimp only
  split
  · rename_i segment single
    simp [single]
  · exact isInfix_arrayContent_iff isWord _

end

namespace FieldIndex

theorem isLetters_unique : IsLetters "UNIQUE".toList :=
  ⟨by decide, List.all_eq_true.mp rfl⟩

theorem unique_isInfix_printKey_iff (path : String) (descends : Bool) :
    "UNIQUE".toList <:+: printKey path descends ↔ "UNIQUE".toList <:+: path.toList := by
  have opening (nested : Bool) : (keyOpening nested).getLast? = some ' ' ∧
      ¬"UNIQUE".toList <:+: keyOpening nested := by
    rw [← occursIn_iff]
    cases nested <;> decide
  have closing (nested : Bool) : (keyClosing nested descends).head? = some ':' ∧
      ¬"UNIQUE".toList <:+: keyClosing nested descends := by
    rw [← occursIn_iff]
    cases nested <;> cases descends <;> decide
  have bracket : '(' ∉ "UNIQUE".toList := by decide
  rw [printKey, isInfix_cons_iff bracket, isInfix_cons_iff bracket,
    isInfix_append_iff_of_getLast _ (opening _).1 (by decide),
    isInfix_append_iff_of_head _ (closing _).1 (by decide), or_iff_right (opening _).2,
    or_iff_left (closing _).2, isInfix_quotedText_iff (by decide),
    isInfix_pathContent_iff isLetters_unique]

theorem unique_isInfix_head_iff (style : NameStyle) (index : FieldIndex) :
    "UNIQUE".toList <:+: index.head style ↔
      index.unique = true ∨ "UNIQUE".toList <:+: index.name.toList ∨
        "UNIQUE".toList <:+: index.collection.toList ∨
        ∃ schema ∈ style.schema, "UNIQUE".toList <:+: schema.toList := by
  have blank : ' ' ∉ "UNIQUE".toList := by decide
  have fixed (text : String) (apart : occursIn "UNIQUE".toList text.toList = false) :
      ¬"UNIQUE".toList <:+: text.toList := by
    rw [← occursIn_iff, apart]
    exact Bool.false_ne_true
  have beginning (unique : Bool) :
      let create := if unique then "CREATE UNIQUE INDEX " else "CREATE INDEX "
      create.toList.getLast? = some ' ' ∧ ("UNIQUE".toList <:+: create.toList ↔ unique = true) := by
    dsimp only
    rw [← occursIn_iff]
    cases unique <;> decide
  rw [head, isInfix_append_iff_of_getLast _ (beginning _).1 blank, (beginning _).2,
    isInfix_append_iff_of_head (style.print index.name) rfl blank,
    isInfix_append_iff_of_getLast _ (show " ON ".toList.getLast? = some ' ' from rfl) blank,
    isInfix_append_iff_of_head (style.printTable index.collection) rfl blank,
    or_iff_right (fixed " ON " rfl), or_iff_left (fixed " USING btree " rfl),
    isInfix_print_iff (by decide), isInfix_printTable_iff (by decide) (by decide)]

/-- Where the word occurs in the definition of an index: it says that the index is unique, or it
stands in a name or a path. -/
theorem unique_isInfix_definition_iff (style : NameStyle) (index : FieldIndex) :
    "UNIQUE".toList <:+: index.definition style ↔
      index.unique = true ∨ index.Mentions style "UNIQUE" := by
  have keys : "UNIQUE".toList <:+:
      ", ".toList.intercalate (index.spec.map fun key => printKey key.1 key.2) ↔
        ∃ path ∈ index.spec.map Prod.fst, "UNIQUE".toList <:+: path.toList := by
    have apart : ∀ mark ∈ ", ".toList, mark ∉ "UNIQUE".toList := by simp
    rw [isInfix_intercalate_iff apart (by decide) (by decide)]
    simp only [List.mem_map, exists_exists_and_eq_and, unique_isInfix_printKey_iff]
  rw [definition, isInfix_append_cons_iff (by decide), unique_isInfix_head_iff,
    isInfix_append_cons_iff (by decide), keys, List.infix_nil, or_iff_left isLetters_unique.full,
    Mentions, List.exists_mem_cons_iff, List.exists_mem_cons_iff]
  simp only [List.mem_append, Option.mem_toList, Option.mem_def, or_and_right, exists_or, or_assoc]

end FieldIndex

/-! ## Read descriptions -/

namespace Catalog

theorem textOrEmpty_text (content : String) : textOrEmpty (.text content) = .ok content := by
  unfold textOrEmpty
  split
  · rename_i empty
    simp [Value.isTruthy] at empty
    simp [empty]
  · rfl

theorem indexName_text (scalars : ScalarReader) (name : String) :
    indexName scalars (.text name) = .ok name := by
  simp [indexName, Check.text, Check.ofReading, scalars.text_text, Checked.report,
    Except.mapError]

theorem postgresIndex_text (scalars : ScalarReader) (name definition : String) :
    postgresIndex scalars (.object [("name", .text name), ("definition", .text definition)]) =
      .ok { name, key := postgresKeys definition
            unique := occursIn "UNIQUE".toList definition.toList } := by
  have read : rowMember (.object [("name", .text name), ("definition", .text definition)])
      "definition" = .ok (.text definition) := rfl
  unfold postgresIndex
  rw [read]
  change ((liftM (textOrEmpty (.text definition)) : Except Failure String) >>= _) = _
  rw [textOrEmpty_text]
  change (indexName scalars (.text name) >>= _) = _
  rw [indexName_text]
  rfl

end Catalog

namespace FieldIndex

variable (scalars : ScalarReader) (style : NameStyle) (index : FieldIndex)

/-- What is read from the row of an index in a Postgres catalog. -/
def reported : IndexDescription :=
  let definition := String.ofList (index.definition style)
  { name := index.name
    key := Catalog.postgresKeys definition
    unique := occursIn "UNIQUE".toList definition.toList }

theorem postgresIndex_postgresRow :
    Catalog.postgresIndex scalars (index.postgresRow style) = .ok (index.reported style) :=
  Catalog.postgresIndex_text scalars index.name (String.ofList (index.definition style))

theorem indexes_postgresRow (indexes : List FieldIndex) :
    Catalog.indexes scalars .postgres (indexes.map (postgresRow style)) =
      .ok (indexes.map (reported style)) := by
  rw [Catalog.indexes, List.mapM_map]
  exact Except.mapM_eq_ok_map fun index _ => index.postgresIndex_postgresRow scalars style

theorem unique_reported : (index.reported style).unique = true ↔
    index.unique = true ∨ index.Mentions style "UNIQUE" := by
  change occursIn "UNIQUE".toList (String.ofList (index.definition style)).toList = true ↔ _
  rw [occursIn_iff, String.toList_ofList (l := index.definition style),
    unique_isInfix_definition_iff]

end FieldIndex

/-- A Postgres catalog reports an index as unique if and only if it was created as unique or the
word `UNIQUE` occurs in its name, in that of its collection or schema, or in one of its paths. -/
theorem unique_reported_iff (scalars : ScalarReader) (style : NameStyle)
    (indexes : List FieldIndex) :
    ∃ descriptions,
      Catalog.indexes scalars .postgres (indexes.map (FieldIndex.postgresRow style)) =
        .ok descriptions ∧
      List.Forall₂ (fun index description => description.name = index.name ∧
        (description.unique = true ↔ index.unique = true ∨ index.Mentions style "UNIQUE"))
        indexes descriptions :=
  ⟨_, FieldIndex.indexes_postgresRow scalars style indexes, List.forall₂_map_right_iff.mpr
    (List.forall₂_same.mpr fun index _ => ⟨rfl, index.unique_reported style⟩)⟩

/-- An index that is not unique is reported as unique for the sake of its name. -/
theorem unique_reported_name :
    let index : FieldIndex :=
      { name := "UNIQUE_EMAIL", collection := "users", spec := [("email", false)]
        unique := false }
    let style : NameStyle :=
      { isQuoted := fun name => name == "UNIQUE_EMAIL", schema := some "public" }
    ∃ description,
      Catalog.indexes .lenient .postgres [index.postgresRow style] = .ok [description] ∧
        description.unique = true :=
  ⟨_, rfl, rfl⟩

end DocStore
