import DocStore.Filter.Condition
import DocStore.Proofs.Clause.Condition
import DocStore.Proofs.QuotedText

/-!
# Reading expressions

The text of an expression over a field is read as one expression, whatever the
path is: the path stands in a literal, and its backslashes come in pairs.
-/

namespace DocStore

open Sql

/-! ## Path literals -/

namespace Sql

theorem quotable_dollarContent (segments : List String) :
    Quotable .mysql '\'' (dollarContent segments).toList :=
  (wellEscaped_dollarContent .mysql segments).quotable (by decide)

theorem quotable_postgres (text : List Char) : Quotable .postgres '\'' text :=
  quotable_of_noEscapes rfl text

theorem reads_literal {dialect : Dialect} {content : String}
    (quotable : Quotable dialect '\'' content.toList) :
    Reads dialect (Fragment.marks dialect [.literal content])
      [.token (.quoted '\'' (quotedBody '\'' content))] := by
  have reads := reads_quoted quotable rfl [] [] fun _ _ _ => by cases dialect <;> rfl
  simpa [Piece.marks, characters] using reads

end Sql

/-! ## Expressions over a field -/

/-- A fragment that is read as one expression. -/
def Sql.Fragment.IsExpression (dialect : Dialect) (fragment : Fragment) : Prop :=
  ∃ trees, Reads dialect (fragment.marks dialect) trees ∧ Plain trees

def Sql.Fragment.trees (dialect : Dialect) (fragment : Fragment) : List Tree :=
  (treesOf? dialect (fragment.marks dialect)).getD []

theorem Sql.Fragment.trees_eq {dialect : Dialect} {fragment : Fragment} {trees : List Tree}
    (reads : Reads dialect (fragment.marks dialect) trees) : fragment.trees dialect = trees := by
  simp [Fragment.trees, reads.treesOf?_eq]

namespace Sql.Fragment.IsExpression

variable {dialect : Dialect} {fragment : Fragment}

theorem reads (expression : IsExpression dialect fragment) :
    Reads dialect (fragment.marks dialect) (fragment.trees dialect) := by
  obtain ⟨trees, reads, _⟩ := expression
  rwa [Fragment.trees_eq reads]

theorem plain (expression : IsExpression dialect fragment) : Plain (fragment.trees dialect) := by
  obtain ⟨trees, reads, plain⟩ := expression
  rwa [Fragment.trees_eq reads]

end Sql.Fragment.IsExpression

/-- A fragment with fixed text around it that opens a bracket before it and closes
the bracket after it. -/
theorem Sql.Fragment.reads_surrounded {dialect : Dialect} {inner : Fragment} {trees : List Tree}
    (reads : Reads dialect (inner.marks dialect) trees) (bracket : Bracket)
    (opening closing : String) (lead first last trail : List Tree)
    (opens : ∀ outer before rest,
      Reader.scan dialect { pending := .between, outer, trees := before }
          (characters opening.toList ++ rest) =
        Reader.scan dialect
          { pending := .between
            outer := (bracket, lead.reverse ++ before) :: outer
            trees := first.reverse } rest)
    (separates : ∀ rest, Reader.Separated (characters closing.toList ++ rest))
    (closes : ∀ outer before inner rest, Reader.Separated rest →
      Reader.scan dialect
          { pending := .between, outer := (bracket, before) :: outer, trees := inner }
          (characters closing.toList ++ rest) =
        Reader.scan dialect
          { pending := .between, outer
            trees := trail.reverse ++ bracket.tree (last.reverse ++ inner).reverse :: before }
          rest) :
    Reads dialect (Fragment.marks dialect (.raw opening :: (inner ++ [.raw closing])))
      (lead ++ bracket.tree (first ++ trees ++ last) :: trail) := by
  have surrounded := reads.surrounded bracket _ _ lead first last trail opens separates closes
  simpa only [Fragment.marks_cons, Fragment.marks_append, Fragment.marks_nil, Piece.marks,
    List.append_nil, List.append_assoc] using surrounded

namespace Dialect

/-- Postgres writes a path as a literal after an arrow. -/
theorem isExpression_arrow {content : String} (opening : String) (lead : List Tree)
    (plain : Plain lead)
    (opens : ∀ outer before rest,
      Reader.scan .postgres { pending := .between, outer, trees := before }
          (characters opening.toList ++ .character '\'' :: rest) =
        Reader.scan .postgres
          { pending := .quoted '\'' [], outer, trees := lead.reverse ++ before } rest) :
    Fragment.IsExpression .postgres [.raw opening, .literal content] := by
  have reads := reads_quoted (quotable_postgres content.toList) rfl opening.toList lead opens
  refine ⟨lead ++ [.token (.quoted '\'' (quotedBody '\'' content))], ?_, ?_⟩
  · simpa [Piece.marks] using reads
  · exact List.forall_mem_append.mpr ⟨plain, by simp [Tree.isPlain]⟩

theorem isExpression_jsonPath (dialect : Dialect) (path : String) :
    (dialect.jsonPath path).IsExpression dialect := by
  cases dialect with
  | postgres =>
      unfold jsonPath
      dsimp only
      split
      · exact isExpression_arrow _ [.token (.word "data".toList), .token (.sign "->".toList)]
          (by simp [Plain, Tree.isPlain]) fun _ _ _ => rfl
      · exact isExpression_arrow _ [.token (.word "data".toList), .token (.sign "#>".toList)]
          (by simp [Plain, Tree.isPlain]) fun _ _ _ => rfl
  | mysql =>
      have inner := reads_literal (quotable_dollarContent (splitPath path))
      refine ⟨_, Fragment.reads_surrounded inner .parenthesis _ _
        [.token (.word "JSON_EXTRACT".toList)] [.token (.word "data".toList), .token .comma] [] []
        (fun _ _ _ => rfl) (fun _ => rfl) fun _ _ _ _ _ => rfl, ?_⟩
      simp [Plain, Tree.isPlain, Bracket.tree]

theorem isExpression_fieldPath (dialect : Dialect) (path : String) :
    (dialect.fieldPath path).IsExpression dialect := by
  cases dialect with
  | postgres =>
      unfold fieldPath
      dsimp only
      split
      · exact isExpression_arrow _ [.token (.word "data".toList), .token (.sign "->>".toList)]
          (by simp [Plain, Tree.isPlain]) fun _ _ _ => rfl
      · exact isExpression_arrow _ [.token (.word "data".toList), .token (.sign "#>>".toList)]
          (by simp [Plain, Tree.isPlain]) fun _ _ _ => rfl
  | mysql =>
      refine ⟨_, Fragment.reads_surrounded (isExpression_jsonPath .mysql path).reads .parenthesis
        _ _ [.token (.word "JSON_UNQUOTE".toList)] [] [] [] (fun _ _ _ => rfl) (fun _ => rfl)
        fun _ _ _ _ _ => rfl, ?_⟩
      simp [Plain, Tree.isPlain, Bracket.tree]

/-- The function of the engine that tells the type of a JSON value. -/
def typeFunction : Dialect → String
  | .postgres => "jsonb_typeof"
  | .mysql => "JSON_TYPE"

/-- The names of a type. -/
def typeNames : Dialect → JsonType → List String
  | .postgres, type => [type.name]
  | .mysql, .number => ["INTEGER", "UNSIGNED INTEGER", "DOUBLE", "DECIMAL"]
  | .mysql, .string => ["STRING"]
  | .mysql, .boolean => ["BOOLEAN"]

/-- The type of the value at a path, by its name. -/
def typeCall (dialect : Dialect) (path : String) : List Tree :=
  [ .token (.word dialect.typeFunction.toList),
    .group ((dialect.jsonPath path).trees dialect) ]

/-- To the engine, the value at a path has a type. -/
def TypeHolds (dialect : Dialect) (valuation : Valuation) (path : String) (type : JsonType) :
    Prop :=
  ∃ name ∈ dialect.typeNames type,
    valuation.compare (dialect.typeCall path) .equal [.token (.quoted '\'' name.toList)] = .holds

/-- The trees are a test of the type of the value at a path. -/
def IsTypeTest (dialect : Dialect) (path : String) (type : JsonType) (trees : List Tree) : Prop :=
  ∃ test, IsConjunction trees [test] ∧
    ∀ valuation, test.truth valuation = .holds ↔ dialect.TypeHolds valuation path type

theorem plain_typeCall (dialect : Dialect) (path : String) : Plain (dialect.typeCall path) := by
  simp [Plain, typeCall, Tree.isPlain]

theorem reads_engineTypeNames (type : JsonType) :
    ∃ trees, Reads .mysql (characters (engineTypeNames type).toList) trees ∧
      trees.splitOnP Tree.isComma =
        (mysql.typeNames type).map fun name => [.token (.quoted '\'' name.toList)] := by
  have closing (content : List Char) (outer before rest) (separated : Reader.Separated rest) :
      Reader.scan .mysql ⟨.closing '\'' content, outer, before⟩ rest =
        Reader.scan .mysql ⟨.between, outer, .token (.quoted '\'' content) :: before⟩ rest :=
    Reader.scan_settled rfl (by
      intro quote content equal
      cases equal
      rfl) separated
  cases type with
  | number =>
      exact ⟨[ .token (.quoted '\'' "INTEGER".toList), .token .comma,
          .token (.quoted '\'' "UNSIGNED INTEGER".toList), .token .comma,
          .token (.quoted '\'' "DOUBLE".toList), .token .comma,
          .token (.quoted '\'' "DECIMAL".toList) ],
        fun _ _ _ separated => closing "DECIMAL".toList _ _ _ separated, rfl⟩
  | string =>
      exact ⟨[.token (.quoted '\'' "STRING".toList)],
        fun _ _ _ separated => closing "STRING".toList _ _ _ separated, rfl⟩
  | boolean =>
      exact ⟨[.token (.quoted '\'' "BOOLEAN".toList)],
        fun _ _ _ separated => closing "BOOLEAN".toList _ _ _ separated, rfl⟩

theorem reads_hasType_postgres (path : String) (type : JsonType) :
    ∃ trees, Reads .postgres ((postgres.hasType path type).marks .postgres) trees ∧
      postgres.IsTypeTest path type trees := by
  have inner := (isExpression_jsonPath .postgres path).reads
  have call := Fragment.reads_surrounded inner .parenthesis "jsonb_typeof(" ")"
    [.token (.word "jsonb_typeof".toList)] [] [] [] (fun _ _ _ => rfl) (fun _ => rfl)
    fun _ _ _ _ _ => rfl
  have name := reads_quoted (quotable_postgres type.name.toList) rfl " = ".toList
    [.token (.relation .equal)] fun _ _ _ => rfl
  have closing : characters ") = ".toList = characters ")".toList ++ characters " = ".toList :=
    rfl
  have marks : (postgres.hasType path type).marks .postgres =
      Fragment.marks .postgres (.raw "jsonb_typeof(" :: (postgres.jsonPath path ++ [.raw ")"]))
        ++ (characters " = ".toList ++ characters (quotedText '\'' type.name)) := by
    simp only [hasType, postgresTypeTest, Fragment.marks_cons, Fragment.marks_append,
      Fragment.marks_nil, Piece.marks, List.append_nil, List.append_assoc, closing]
  have content : quotedBody '\'' type.name = type.name.toList := by cases type <;> decide
  have trees : [.token (.word "jsonb_typeof".toList)] ++ Bracket.parenthesis.tree
        ([] ++ (postgres.jsonPath path).trees .postgres ++ []) :: [] ++ ([.token (.relation .equal)]
        ++ [.token (.quoted '\'' (quotedBody '\'' type.name))]) =
      postgres.typeCall path ++ .token (.relation .equal)
        :: [.token (.quoted '\'' type.name.toList)] := by
    simp [typeCall, typeFunction, Bracket.tree, content]
  rw [marks]
  refine ⟨_, call.append name fun _ => rfl, ?_⟩
  rw [trees]
  refine ⟨_, isConjunction_compare (postgres.plain_typeCall path) (by simp [Plain, Tree.isPlain])
    .equal, fun valuation => ?_⟩
  simp [SqlCondition.truth, TypeHolds, typeNames]

theorem reads_hasType_mysql (path : String) (type : JsonType) :
    ∃ trees, Reads .mysql ((mysql.hasType path type).marks .mysql) trees ∧
      mysql.IsTypeTest path type trees := by
  have inner := (isExpression_jsonPath .mysql path).reads
  have call := Fragment.reads_surrounded inner .parenthesis "JSON_TYPE(" ")"
    [.token (.word "JSON_TYPE".toList)] [] [] [] (fun _ _ _ => rfl) (fun _ => rfl)
    fun _ _ _ _ _ => rfl
  obtain ⟨names, namesRead, cut⟩ := reads_engineTypeNames type
  have connects : Connects .mysql " IN ".toList [.token (.keyword .member)] :=
    ⟨fun _ => rfl, fun _ _ _ => rfl⟩
  have closing : characters (") IN (" ++ engineTypeNames type ++ ")").toList =
      characters ")".toList ++ (characters " IN ".toList ++ (characters ['(']
        ++ (characters (engineTypeNames type).toList ++ characters [')']))) := by
    simp [characters]
  have marks : (mysql.hasType path type).marks .mysql =
      Fragment.marks .mysql (.raw "JSON_TYPE(" :: (mysql.jsonPath path ++ [.raw ")"]))
        ++ characters " IN ".toList ++ (characters ['(']
        ++ characters (engineTypeNames type).toList ++ characters [')']) := by
    simp only [hasType, Fragment.marks_cons, Fragment.marks_append, Fragment.marks_nil,
      Piece.marks, List.append_nil, List.append_assoc, closing]
  have trees : [.token (.word "JSON_TYPE".toList)] ++ Bracket.parenthesis.tree
        ([] ++ (mysql.jsonPath path).trees .mysql ++ []) :: [] ++ [.token (.keyword .member)]
        ++ [.group names] =
      mysql.typeCall path ++ [.token (.keyword .member), .group names] := by
    simp [typeCall, typeFunction, Bracket.tree]
  rw [marks]
  refine ⟨_, call.connected connects namesRead.parenthesised, ?_⟩
  rw [trees]
  refine ⟨_, isConjunction_member (mysql.plain_typeCall path) names, fun valuation => ?_⟩
  simp [SqlCondition.truth, TypeHolds, cut]

/-- The test of a type is read as one. -/
theorem reads_hasType (dialect : Dialect) (path : String) (type : JsonType) :
    ∃ trees, Reads dialect ((dialect.hasType path type).marks dialect) trees ∧
      dialect.IsTypeTest path type trees := by
  cases dialect with
  | postgres => exact reads_hasType_postgres path type
  | mysql => exact reads_hasType_mysql path type

theorem isExpression_numeric {dialect : Dialect} {expression : Fragment}
    (inner : expression.IsExpression dialect) :
    (dialect.numeric expression).IsExpression dialect := by
  cases dialect with
  | postgres =>
      refine ⟨_, Fragment.reads_surrounded inner.reads .parenthesis _ _
        [.token (.word "CAST".toList)] []
        [.token (.word "AS".toList), .token (.word "NUMERIC".toList)] [] (fun _ _ _ => rfl)
        (fun _ => rfl) fun _ _ _ _ _ => rfl, ?_⟩
      simp [Plain, Tree.isPlain, Bracket.tree]
  | mysql =>
      refine ⟨_, Fragment.reads_surrounded inner.reads .parenthesis "CAST(" " AS DECIMAL(65, 10))"
        [.token (.word "CAST".toList)] []
        [ .token (.word "AS".toList), .token (.word "DECIMAL".toList),
          .group [.token (.word "65".toList), .token .comma, .token (.word "10".toList)] ] []
        (fun _ _ _ => rfl) (fun _ => rfl) fun _ _ _ _ _ => rfl, ?_⟩
      simp [Plain, Tree.isPlain, Bracket.tree]

/-- An expression in a case for a type is read as the choice of it where the test holds. -/
theorem reads_guarded {dialect : Dialect} {expression : Fragment} (path : String)
    (type : JsonType) (inner : expression.IsExpression dialect) :
    ∃ test, dialect.IsTypeTest path type test ∧
      Reads dialect ((dialect.guarded path type expression).marks dialect)
        [.choice (.token (.word "WHEN".toList) :: (test ++ .token (.word "THEN".toList)
          :: expression.trees dialect))] := by
  obtain ⟨test, testReads, isTest⟩ := reads_hasType dialect path type
  have connects : Connects dialect " THEN ".toList [.token (.word "THEN".toList)] :=
    ⟨fun _ => rfl, fun _ _ _ => by cases dialect <;> rfl⟩
  have body := testReads.connected connects inner.reads
  have surrounded := body.surrounded .choice "CASE WHEN ".toList " END".toList []
    [.token (.word "WHEN".toList)] [] [] (fun _ _ _ => by cases dialect <;> rfl) (fun _ => rfl)
    (by
      intro outer before inner rest separated
      have settled : Reader.scan dialect ⟨.word "END".toList, (.choice, before) :: outer, inner⟩
            rest =
          Reader.scan dialect ⟨.between, outer, .choice inner.reverse :: before⟩ rest :=
        Reader.scan_settled rfl (by simp) separated
      cases dialect <;> exact settled)
  have marks : (dialect.guarded path type expression).marks dialect =
      characters "CASE WHEN ".toList ++ ((dialect.hasType path type).marks dialect
        ++ characters " THEN ".toList ++ expression.marks dialect) ++ characters " END".toList := by
    simp only [guarded, Fragment.marks_cons, Fragment.marks_append, Fragment.marks_nil,
      Piece.marks, List.append_nil, List.append_assoc]
  refine ⟨test, isTest, ?_⟩
  rw [marks]
  simpa [Bracket.tree] using surrounded

theorem isExpression_guarded {dialect : Dialect} {expression : Fragment} (path : String)
    (type : JsonType) (inner : expression.IsExpression dialect) :
    (dialect.guarded path type expression).IsExpression dialect := by
  obtain ⟨test, _, reads⟩ := reads_guarded path type inner
  exact ⟨_, reads, by simp [Plain, Tree.isPlain]⟩

theorem isExpression_typedValue (dialect : Dialect) (path : String) (type : JsonType) :
    (dialect.typedValue path type).IsExpression dialect := by
  have text := isExpression_fieldPath dialect path
  cases type with
  | number => exact isExpression_guarded path .number (isExpression_numeric text)
  | string => exact isExpression_guarded path .string text
  | boolean => exact isExpression_guarded path .boolean text

theorem isExpression_comparable (dialect : Dialect) (path : String) (operand : Value) :
    (dialect.comparable path operand).IsExpression dialect := by
  unfold comparable
  split
  · exact isExpression_typedValue dialect path _
  · exact isExpression_fieldPath dialect path

end Dialect

/-! ## Bound values -/

theorem isExpression_parameter (dialect : Dialect) (value : Value) :
    Fragment.IsExpression dialect [.parameter value] :=
  ⟨_, reads_bound value, by simp [Plain, Tree.isPlain]⟩

theorem trees_parameter (dialect : Dialect) (value : Value) :
    Fragment.trees dialect [.parameter value] = [.token (.bound value)] := rfl

/-- Postgres casts a bound document by a sign after it, MySQL by a call. -/
def documentTrees (dialect : Dialect) (json : String) : List Tree :=
  match dialect with
  | .postgres =>
      [ .token (.bound (.text json)), .token (.sign "::".toList), .token (.word "jsonb".toList) ]
  | .mysql =>
      [ .token (.word "CAST".toList),
        .group [ .token (.bound (.text json)), .token (.word "AS".toList),
          .token (.word "JSON".toList) ] ]

theorem reads_document (dialect : Dialect) (json : String) :
    Reads dialect (Fragment.marks dialect [.document json]) (documentTrees dialect json) := by
  cases dialect with
  | postgres =>
      intro outer before rest separated
      have settled : Reader.scan .postgres
            ⟨.word "jsonb".toList, outer,
              .token (.sign "::".toList) :: .token (.bound (.text json)) :: before⟩ rest =
          Reader.scan .postgres
            ⟨.between, outer, .token (.word "jsonb".toList) :: .token (.sign "::".toList)
              :: .token (.bound (.text json)) :: before⟩ rest :=
        Reader.scan_settled rfl (by simp) separated
      exact settled
  | mysql =>
      have bound : Reads .mysql [.bound (.text json)] [.token (.bound (.text json))] :=
        reads_bound (.text json)
      exact bound.surrounded .parenthesis "CAST(".toList " AS JSON)".toList
        [.token (.word "CAST".toList)] []
        [.token (.word "AS".toList), .token (.word "JSON".toList)] [] (fun _ _ _ => rfl)
        (fun _ => rfl) fun _ _ _ _ _ => rfl

theorem trees_document (dialect : Dialect) (json : String) :
    Fragment.trees dialect [.document json] = documentTrees dialect json :=
  Fragment.trees_eq (reads_document dialect json)

theorem isExpression_document (dialect : Dialect) (json : String) :
    Fragment.IsExpression dialect [.document json] :=
  ⟨_, reads_document dialect json, by cases dialect <;> simp [documentTrees, Plain, Tree.isPlain]⟩

end DocStore
