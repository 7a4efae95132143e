import DocStore.Proofs.Clause.Meaning
import DocStore.Proofs.Json.Values
import DocStore.Proofs.Matcher

/-!
# Reading field tests

What a valuation of texts says about fields, and the texts of field tests: each
is read as a condition that holds where a document passes the test.
-/

namespace DocStore

open Sql Sql.Fragment

/-- The two sides of the comparison of a field with an operand.  Equality with a
list or an object compares JSON. -/
def Dialect.sides (dialect : Dialect) (path : String) (relation : Relation) (operand : Value) :
    Fragment × Fragment :=
  if relation = .equal ∧ operand.isContainer = true then
    (dialect.jsonPath path, [.document (String.ofList (Json.write operand))])
  else (dialect.comparable path operand, [.parameter operand.boundForm])

theorem Dialect.isExpression_sides (dialect : Dialect) (path : String) (relation : Relation)
    (operand : Value) :
    (dialect.sides path relation operand).1.IsExpression dialect ∧
      (dialect.sides path relation operand).2.IsExpression dialect := by
  unfold sides
  split
  · exact ⟨isExpression_jsonPath dialect path, isExpression_document dialect _⟩
  · exact ⟨isExpression_comparable dialect path operand, isExpression_parameter dialect _⟩

theorem Value.isContainer_of_jsonType? {operand : Value} {type : JsonType}
    (typed : operand.jsonType? = some type) : operand.isContainer = false := by
  cases operand <;> first | rfl | cases typed

/-- Operands of a type compare with the projection of that type. -/
theorem Dialect.sides_of_jsonType? (dialect : Dialect) (path : String) (relation : Relation)
    {operand : Value} {type : JsonType} (typed : operand.jsonType? = some type) :
    dialect.sides path relation operand =
      (dialect.typedValue path type, [.parameter operand.boundForm]) := by
  simp [sides, Value.isContainer_of_jsonType? typed, comparable, typed]

def Sql.typeOf (expression : List Tree) : List Tree :=
  [.token (.word "JSON_TYPE".toList), .group expression]

def Sql.nullName : List Tree := [.token (.quoted '\'' "NULL".toList)]

/-- What a valuation of texts says about fields.  To Postgres a field is null if
it has no text; to MySQL, if it is missing or its type is null. -/
def Sql.Valuation.onFields (dialect : Dialect) (valuation : Valuation) : FieldValuation where
  compare path relation operand :=
    valuation.compare ((dialect.sides path relation operand).1.trees dialect) relation
      ((dialect.sides path relation operand).2.trees dialect)
  isNull path :=
    match dialect with
    | .postgres => valuation.isNull ((Dialect.fieldPath .postgres path).trees .postgres)
    | .mysql =>
        let field := (Dialect.jsonPath .mysql path).trees .mysql
        valuation.isNull field || decide (valuation.compare (typeOf field) .equal nullName = .holds)

namespace Comparison

theorem connects_sign (dialect : Dialect) (comparison : Comparison) :
    Connects dialect (" " ++ comparison.sign ++ " ").toList
      [.token (.relation (.ordered comparison))] := by
  cases comparison <;> exact ⟨fun _ => rfl, fun _ _ _ => by cases dialect <;> rfl⟩

end Comparison

theorem connects_equal (dialect : Dialect) :
    Connects dialect " = ".toList [.token (.relation .equal)] :=
  ⟨fun _ => rfl, fun _ _ _ => by cases dialect <;> rfl⟩

theorem reads_typeOf {fragment : Fragment} (expression : fragment.IsExpression .mysql) :
    Reads .mysql (Fragment.marks .mysql (.raw "JSON_TYPE(" :: (fragment ++ [.raw ")"])))
      (typeOf (fragment.trees .mysql)) := by
  have reads := Fragment.reads_surrounded expression.reads .parenthesis "JSON_TYPE(" ")"
    [.token (.word "JSON_TYPE".toList)] [] [] [] (fun _ _ _ => rfl) (fun _ => rfl)
    fun _ _ _ _ _ => rfl
  simpa [typeOf, Bracket.tree] using reads

theorem reads_nullName (dialect : Dialect) :
    Reads dialect (Fragment.marks dialect [.literal "NULL"]) nullName := by
  have content : Quotable dialect '\'' "NULL".toList := quotable_of_notMem (by decide)
  exact reads_literal content

namespace FieldTest

/-- The operands suit the test, as they do in all compiled conditions. -/
def Suited : FieldTest → Prop
  | equals _ operand => operand.isContainer = false
  | sameJson _ operand => operand.isContainer = true
  | oneOf _ type operands => operands ≠ [] ∧ ∀ operand ∈ operands, operand.jsonType? = some type
  | _ => True

def passes (valuation : FieldValuation) : FieldTest → Bool
  | absent path => valuation.isNull path
  | present path => !valuation.isNull path
  | equals path operand => valuation.satisfies path .equal operand
  | ordered path comparison operand => valuation.satisfies path (.ordered comparison) operand
  | sameJson path operand => valuation.satisfies path .equal operand
  | oneOf path _ operands => operands.any fun operand => valuation.satisfies path .equal operand
  | never => false

/-- Text tests whether a type is null by this literal. -/
theorem marks_nullName (dialect : Dialect) :
    Piece.marks dialect (.literal "NULL") = characters "'NULL'".toList := by
  simp [Piece.marks, quotedText, quotedBody, quotedCharacter]

section NullTests

variable (path : String)

def fieldType : Fragment :=
  .raw "JSON_TYPE(" :: (Dialect.jsonPath .mysql path ++ [.raw ")"])

theorem isExpression_fieldType : (fieldType path).IsExpression .mysql :=
  ⟨_, reads_typeOf (Dialect.isExpression_jsonPath .mysql path),
    by simp [Plain, typeOf, Tree.isPlain]⟩

theorem trees_fieldType :
    (fieldType path).trees .mysql = typeOf ((Dialect.jsonPath .mysql path).trees .mysql) :=
  Fragment.trees_eq (reads_typeOf (Dialect.isExpression_jsonPath .mysql path))

theorem isExpression_nullName : Fragment.IsExpression .mysql [.literal "NULL"] :=
  ⟨_, reads_nullName .mysql, by simp [Plain, nullName, Tree.isPlain]⟩

theorem isConjoined_isNull_field (dialect : Dialect) :
    IsConjoined dialect (fun valuation => (valuation.onFields dialect).isNull path = true)
      (dialect.isNull path) := by
  cases dialect with
  | postgres => exact isConjoined_isNull (Dialect.isExpression_fieldPath .postgres path)
  | mysql =>
      have test := (isConjoined_isNull (Dialect.isExpression_jsonPath .mysql path)).disjoined.or
        (isConjoined_compare (isExpression_fieldType path) isExpression_nullName
          (connects_equal .mysql)).disjoined
      obtain ⟨trees, factors, reads, conjunction, means⟩ := test.parenthesised
      refine ⟨trees, factors, ?_, conjunction, ?_⟩
      · simp only [marks_parenthesised, marks_append, marks_cons, marks_nil, fieldType,
          marks_nullName] at reads
        simpa [Dialect.isNull, Piece.marks, characters] using reads
      · intro valuation
        rw [means valuation]
        simp [Valuation.onFields, trees_fieldType, Fragment.trees_eq (reads_nullName .mysql),
          SqlCondition.truth]

theorem isConjoined_isNotNull_field (dialect : Dialect) :
    IsConjoined dialect (fun valuation => (valuation.onFields dialect).isNull path = false)
      (dialect.isNotNull path) := by
  cases dialect with
  | postgres => exact isConjoined_isNotNull (Dialect.isExpression_fieldPath .postgres path)
  | mysql =>
      have connects : Connects .mysql " <> ".toList [.token (.relation .different)] :=
        ⟨fun _ => rfl, fun _ _ _ => rfl⟩
      have test := (isConjoined_isNotNull (Dialect.isExpression_jsonPath .mysql path)).and
        (isConjoined_compare (isExpression_fieldType path) isExpression_nullName connects)
      obtain ⟨trees, factors, reads, conjunction, means⟩ := test.disjoined.parenthesised
      refine ⟨trees, factors, ?_, conjunction, ?_⟩
      · simp only [marks_parenthesised, marks_append, marks_cons, marks_nil, fieldType,
          marks_nullName] at reads
        simpa [Dialect.isNotNull, Piece.marks, characters] using reads
      · intro valuation
        rw [means valuation]
        have known := valuation.type_known ((Dialect.jsonPath .mysql path).trees .mysql)
        simp only [trees_fieldType, Fragment.trees_eq (reads_nullName .mysql),
          SqlCondition.truth, Valuation.onFields, Bool.or_eq_false_iff, decide_eq_false_iff_not]
        exact and_congr_right fun isThere => Truth.not_eq_holds (known isThere)

end NullTests

theorem isConjoined_oneOf (dialect : Dialect) (path : String) {type : JsonType}
    {operands : List Value} (someOperand : operands ≠ [])
    (typed : ∀ operand ∈ operands, operand.jsonType? = some type) :
    IsConjoined dialect
      (fun valuation => (oneOf path type operands).passes (valuation.onFields dialect) = true)
      ((oneOf path type operands).fragment dialect) := by
  obtain ⟨first, rest, rfl⟩ := List.exists_cons_of_ne_nil someOperand
  have members := isConjoined_member (Dialect.isExpression_typedValue dialect path type)
    first.boundForm (rest.map Value.boundForm)
  have satisfied (valuation : Valuation) (operand : Value) (member : operand ∈ first :: rest) :
      (valuation.onFields dialect).satisfies path .equal operand = true ↔
        valuation.compare ((dialect.typedValue path type).trees dialect) .equal
          [.token (.bound operand.boundForm)] = .holds := by
    simp [FieldValuation.satisfies, Valuation.onFields,
      Dialect.sides_of_jsonType? dialect path .equal (typed operand member), trees_parameter]
  rw [← List.map_cons, List.map_map] at members
  refine members.congr fun valuation => ?_
  rw [passes, List.any_eq_true]
  constructor
  · rintro ⟨value, member, compares⟩
    obtain ⟨operand, operandMember, rfl⟩ := List.mem_map.mp member
    exact ⟨operand, operandMember, (satisfied valuation operand operandMember).mpr compares⟩
  · rintro ⟨operand, member, satisfies⟩
    exact ⟨_, List.mem_map_of_mem member, (satisfied valuation operand member).mp satisfies⟩

/-- One equals zero in no row. -/
theorem isConjoined_never (dialect : Dialect) :
    IsConjoined dialect (fun valuation => never.passes (valuation.onFields dialect) = true)
      (never.fragment dialect) := by
  have reads : Reads dialect (characters "1 = 0".toList)
      [.token (.word "1".toList), .token (.relation .equal), .token (.word "0".toList)] := by
    intro outer before rest separated
    have settled : Reader.scan dialect ⟨.word "0".toList, outer,
          .token (.relation .equal) :: .token (.word "1".toList) :: before⟩ rest =
        Reader.scan dialect ⟨.between, outer, .token (.word "0".toList)
          :: .token (.relation .equal) :: .token (.word "1".toList) :: before⟩ rest :=
      Reader.scan_settled rfl (by simp) separated
    cases dialect <;> exact settled
  have one : Plain [.token (.word "1".toList)] := by simp [Plain, Tree.isPlain]
  have zero : Plain [.token (.word "0".toList)] := by simp [Plain, Tree.isPlain]
  refine ⟨_, _, by simpa [fragment, Piece.marks] using reads,
    isConjunction_compare one zero .equal, ?_⟩
  intro valuation
  have fails : valuation.compare [.token (.word "1".toList)] .equal
      [.token (.word "0".toList)] ≠ .holds := by
    simp only [valuation.one_ne_zero]
    decide
  simpa [SqlCondition.truth, passes] using fails

/-- The text of a test is read as the test. -/
theorem isConjoined_fragment (dialect : Dialect) {test : FieldTest} (suited : test.Suited) :
    IsConjoined dialect (fun valuation => test.passes (valuation.onFields dialect) = true)
      (test.fragment dialect) := by
  cases test with
  | absent path => exact isConjoined_isNull_field path dialect
  | present path => simpa [passes, fragment] using isConjoined_isNotNull_field path dialect
  | equals path operand =>
      have compares := isConjoined_compare (Dialect.isExpression_comparable dialect path operand)
        (isExpression_parameter dialect operand.boundForm) (connects_equal dialect)
      have scalar : operand.isContainer = false := suited
      simpa [fragment, passes, FieldValuation.satisfies, Valuation.onFields, Dialect.sides, scalar,
        SqlCondition.truth] using compares
  | ordered path comparison operand =>
      have compares := isConjoined_compare (Dialect.isExpression_comparable dialect path operand)
        (isExpression_parameter dialect operand.boundForm) (comparison.connects_sign dialect)
      simpa [fragment, passes, FieldValuation.satisfies, Valuation.onFields, Dialect.sides,
        SqlCondition.truth] using compares
  | sameJson path operand =>
      have compares := isConjoined_compare (Dialect.isExpression_jsonPath dialect path)
        (isExpression_document dialect (String.ofList (Json.write operand)))
        (connects_equal dialect)
      have container : operand.isContainer = true := suited
      simpa [fragment, passes, FieldValuation.satisfies, Valuation.onFields, Dialect.sides, container,
        SqlCondition.truth] using compares
  | oneOf path type operands =>
      obtain ⟨someOperand, typed⟩ : operands ≠ [] ∧
        ∀ operand ∈ operands, operand.jsonType? = some type := suited
      exact isConjoined_oneOf dialect path someOperand typed
  | never => exact isConjoined_never dialect

end FieldTest

end DocStore
