import DocStore.Proofs.Locality
import DocStore.Proofs.Restriction
import DocStore.Proofs.SearchLines

/-!
# Statements on one document

The statements that replace or remove a document are restricted to its id by the
filter compiler.  An id that is a scalar or a list is compared as it is.  An object
is taken for operators: if none of them contributes, the statement has no
restriction at all, and else the restriction is never the test for that object.
-/

namespace DocStore

open Sql Sql.Fragment

/-- The test that the field `id` equals a value. -/
def idTest (dialect : Dialect) (id : Value) : SqlCondition :=
  .compare ((dialect.sides idField .equal id).1.trees dialect) .equal
    ((dialect.sides idField .equal id).2.trees dialect)

namespace Query

variable {settings : CompileSettings} {collection : String} {id document : Value}
  {entries log : List LogEntry} {statement : Statement}

/-- A statement restricted by the text of the filter on the id, or not restricted
if there is no such text. -/
def IsRestricted (dialect : Dialect) (id : Value) (statement : Statement) : Prop :=
  match (Filter.condition (idFilter id)).fragment? dialect with
  | none => statement.whereTrees? = none
  | some text => ∀ trees, Reads dialect (text.marks dialect) trees →
      statement.whereTrees? = some trees

theorem isRestricted_assemble {dialect : Dialect} {head line : Fragment}
    (isHead : IsHead dialect head) (headFull : head ≠ []) (headFree : PercentFree head)
    (written : (match (Filter.condition (idFilter id)).fragment? dialect with
      | some condition => .raw "WHERE " :: condition
      | none => []) = line) :
    IsRestricted dialect id (assemble dialect [head, line]) := by
  unfold IsRestricted
  subst line
  cases compiled : (Filter.condition (idFilter id)).fragment? dialect with
  | none => exact whereTrees?_head isHead headFull headFree
  | some text =>
      intro trees reads
      have textFree : PercentFree text := Condition.percentFree_fragment? dialect _ compiled
      exact whereTrees?_clause isHead headFull headFree reads textFree

theorem isRestricted_update
    (returned : (update settings collection id document).Returns entries statement log) :
    IsRestricted settings.dialect id statement := by
  simp only [update, Logged.returns_bind, Logged.returns_pure] at returned
  obtain ⟨encoded, _, _, line, _, lineReturned, rfl, _⟩ := returned
  obtain ⟨text, compiled, rfl⟩ := whereLine_returns_iff.mp lineReturned
  obtain ⟨_, rfl, _⟩ := Filter.compile_returns_iff.mp compiled
  exact isRestricted_assemble (isHead_update _ _ _) (by simp)
    (by simp [Dialect.documentColumn]) rfl

theorem isRestricted_delete
    (returned : (delete settings collection id).Returns entries statement log) :
    IsRestricted settings.dialect id statement := by
  simp only [delete, Logged.returns_bind, Logged.returns_pure] at returned
  obtain ⟨line, _, lineReturned, rfl, _⟩ := returned
  obtain ⟨text, compiled, rfl⟩ := whereLine_returns_iff.mp lineReturned
  obtain ⟨_, rfl, _⟩ := Filter.compile_returns_iff.mp compiled
  exact isRestricted_assemble (isHead_delete _ _) (by simp) (by simp) rfl

theorem condition_idFilter (id : Value) :
    Filter.condition (idFilter id) = .conjunction [Filter.fieldCondition idField id] := by
  have noCombinator : Combinator.ofKey? idField = none := by decide
  have noDollar : hasDollar idField = false := by decide
  have shown : (Key.text idField).shown = idField := rfl
  simp [idFilter, Filter.condition, Filter.entryConditions, Filter.unrecognised, shown,
    noCombinator, noDollar]

theorem fragment?_idFilter (dialect : Dialect) (id : Value) :
    (Filter.condition (idFilter id)).fragment? dialect =
      (Filter.fieldCondition idField id).fragment? dialect := by
  rw [condition_idFilter, Condition.fragment?_conjunction, Condition.fragments_cons,
    Condition.fragments]
  cases (Filter.fieldCondition idField id).fragment? dialect <;> rfl

theorem fragment?_equality (dialect : Dialect) (path : String) {operand : Value}
    (notNull : operand.isNull = false) :
    (Condition.equality path operand).fragment? dialect =
      some ((dialect.sides path .equal operand).1
        ++ .raw " = " :: (dialect.sides path .equal operand).2) := by
  cases operand with
  | null => cases notNull
  | _ => rfl

/-- An id that is no object is compared as it is. -/
theorem whereClause?_of_notObject {dialect : Dialect} (notNull : id.isNull = false)
    (notObject : id.isObject = false) (restricted : IsRestricted dialect id statement) :
    statement.whereClause? = some (idTest dialect id) := by
  have field : (Filter.fieldCondition idField id).fragment? dialect =
      ((Condition.equality idField id).fragment? dialect).map parenthesised := by
    cases id with
    | object members => cases notObject
    | _ => rfl
  rw [IsRestricted, fragment?_idFilter, field,
    fragment?_equality dialect idField notNull] at restricted
  obtain ⟨leftSide, rightSide⟩ := dialect.isExpression_sides idField .equal id
  have reads := (reads_compare leftSide rightSide (connects_equal dialect)).parenthesised
  have compares := isConjunction_compare leftSide.plain rightSide.plain .equal
  rw [← marks_parenthesised] at reads
  have found := restricted _ reads
  have read := compares.alternative.parenthesised.condition?_eq
  simpa [Statement.whereClause?, found, SqlCondition.anyOf, SqlCondition.allOf, idTest] using read

/-! ## Objects -/

/-- One comparison of two texts holds, and all others fail. -/
noncomputable def onlyHolds (left right : List Tree)
    (notOne : left ≠ [.token (.word "1".toList)]) : Valuation :=
  open Classical in
  { compare := fun leftSide relation rightSide =>
      if relation = .equal ∧ leftSide = left ∧ rightSide = right then .holds else .fails
    isNull := fun _ => false
    type_known := by
      intro operand _
      split <;> simp
    one_ne_zero := by
      rw [if_neg]
      rintro ⟨_, same, _⟩
      exact notOne same.symm }

theorem documentTrees_injective {dialect : Dialect} {left right : String}
    (same : documentTrees dialect left = documentTrees dialect right) : left = right := by
  cases dialect <;> simpa [documentTrees] using same

theorem documentTrees_ne (dialect : Dialect) (json : String) (tree : Tree) :
    documentTrees dialect json ≠ [tree] := by
  cases dialect <;> simp [documentTrees]

/-- A shorter operand is not compared with the same text. -/
theorem sides_ne_document (dialect : Dialect) (path : String) {document operand : Value}
    (below : Filter.Below (Json.write document).length operand) :
    (dialect.sides path .equal operand).2.trees dialect ≠
      documentTrees dialect (String.ofList (Json.write document)) := by
  intro same
  unfold Dialect.sides at same
  split at same
  · rename_i container
    rw [trees_document] at same
    have written : Json.write operand = Json.write document :=
      String.ofList_injective (documentTrees_injective same)
    have shorter := below container.2
    rw [written] at shorter
    exact absurd shorter (Nat.lt_irrefl _)
  · exact documentTrees_ne dialect _ _ same.symm

section OnlyHolds

variable (dialect : Dialect) {left : List Tree} (notOne : left ≠ [.token (.word "1".toList)])
  (document : Value)

noncomputable def onlyDocument : FieldValuation :=
  (onlyHolds left (documentTrees dialect (String.ofList (Json.write document)))
    notOne).onFields dialect

theorem equals_onlyDocument {operand : Value}
    (below : Filter.Below (Json.write document).length operand) :
    (onlyDocument dialect notOne document).equals idField operand = false := by
  have unsatisfied : (onlyDocument dialect notOne document).satisfies idField .equal operand =
      false := by
    simp [onlyDocument, FieldValuation.satisfies, Valuation.onFields, onlyHolds,
      sides_ne_document dialect idField below]
  cases operand with
  | null =>
      have otherName : nullName ≠ documentTrees dialect (String.ofList (Json.write document)) :=
        (documentTrees_ne dialect _ _).symm
      cases dialect with
      | postgres => rfl
      | mysql =>
          simp [onlyDocument, FieldValuation.equals, Valuation.onFields, onlyHolds, otherName]
  | _ => exact unsatisfied

theorem satisfies_onlyDocument (comparison : Comparison) (operand : Value) :
    (onlyDocument dialect notOne document).satisfies idField (.ordered comparison) operand =
      false := by
  simp [onlyDocument, FieldValuation.satisfies, Valuation.onFields, onlyHolds]

end OnlyHolds

theorem equals_default (dialect : Dialect) (path : String) (operand : Value) :
    ((default : Valuation).onFields dialect).equals path operand = false := by
  cases operand <;> cases dialect <;> rfl

theorem satisfies_default (dialect : Dialect) (path : String) (relation : Relation)
    (operand : Value) :
    ((default : Valuation).onFields dialect).satisfies path relation operand = false := rfl

theorem trees_jsonPath_ne (dialect : Dialect) :
    (dialect.jsonPath idField).trees dialect ≠ [.token (.word "1".toList)] := by
  intro same
  have lengths := congrArg List.length same
  cases dialect <;> cases lengths

/-- The verdict on an object of operators does not depend on whether the field
equals that object. -/
theorem fieldVerdict_onlyDocument (dialect : Dialect) (operators : Members) :
    Filter.fieldVerdict none (onlyDocument dialect (trees_jsonPath_ne dialect) (.object operators))
        idField (.object operators) =
      Filter.fieldVerdict none ((default : Valuation).onFields dialect) idField
        (.object operators) := by
  rw [Filter.fieldVerdict, Filter.fieldVerdict]
  refine Filter.operatorsVerdict_congr ?_ ?_ operators
    fun member found _ => Json.length_write_lt_object member found
  · intro operand below
    rw [equals_onlyDocument dialect _ _ below, equals_default]
  · intro comparison operand
    rw [satisfies_onlyDocument, satisfies_default]

/-- An object in the place of an id is never what the statement is restricted to. -/
theorem whereClause?_of_object {dialect : Dialect} {operators : Members}
    (restricted : IsRestricted dialect (.object operators) statement) :
    statement.whereClause? ≠ some (idTest dialect (.object operators)) := by
  intro keyed
  have agrees := Filter.agrees_fieldCondition dialect idField (.object operators)
  rw [IsRestricted, fragment?_idFilter] at restricted
  cases compiled : (Filter.fieldCondition idField (.object operators)).fragment? dialect with
  | none =>
      rw [compiled] at restricted
      simp [Statement.whereClause?, restricted] at keyed
  | some text =>
      rw [compiled] at restricted agrees
      obtain ⟨accepts, decided, conjoined⟩ := agrees
      obtain ⟨trees, alternatives, reads, disjunction, means⟩ := conjoined.disjoined
      have found := restricted trees reads
      have same : SqlCondition.anyOf alternatives = idTest dialect (.object operators) := by
        simpa [Statement.whereClause?, found, condition?, disjunction.read] using keyed
      have holdsWhere (valuation : Valuation) :
          (idTest dialect (.object operators)).truth valuation = .holds ↔
            accepts (valuation.onFields dialect) = true := by
        rw [← same, SqlCondition.anyOf_holds, means valuation]
      -- the test tells the two valuations apart, the operators do not
      have atDocument := holdsWhere (onlyHolds _
        (documentTrees dialect (String.ofList (Json.write (.object operators))))
        (trees_jsonPath_ne dialect))
      have atDefault := holdsWhere default
      have decidedAt (fields : FieldValuation) :
          Filter.fieldVerdict none fields idField (.object operators) = some (accepts fields) :=
        decided fields
      have verdicts := fieldVerdict_onlyDocument dialect operators
      rw [decidedAt, decidedAt] at verdicts
      have accepted : accepts ((default : Valuation).onFields dialect) = true := by
        rw [← Option.some.inj verdicts]
        refine atDocument.mp ?_
        simp [idTest, Dialect.sides, Value.isContainer, SqlCondition.truth, onlyHolds,
          trees_document]
      cases atDefault.mpr accepted

/-- A statement that replaces or removes a document is restricted to the test that
the field `id` equals the id, and to nothing else, exactly if the id is no object. -/
theorem restricted_to_id_iff (settings : CompileSettings) (collection : String) {id : Value}
    (notNull : id.isNull = false) (entries : List LogEntry) :
    (∀ document statement log,
      (update settings collection id document).Returns entries statement log →
        (statement.whereClause? = some (idTest settings.dialect id) ↔ id.isObject = false)) ∧
    (∀ statement log, (delete settings collection id).Returns entries statement log →
        (statement.whereClause? = some (idTest settings.dialect id) ↔ id.isObject = false)) := by
  have exact {statement : Statement} (restricted : IsRestricted settings.dialect id statement) :
      statement.whereClause? = some (idTest settings.dialect id) ↔ id.isObject = false := by
    constructor
    · intro keyed
      cases id with
      | object operators => exact absurd keyed (whereClause?_of_object restricted)
      | _ => rfl
    · intro notObject
      exact whereClause?_of_notObject notNull notObject restricted
  exact ⟨fun document statement log returned => exact (isRestricted_update returned),
    fun statement log returned => exact (isRestricted_delete returned)⟩

/-- A text as an id names one document. -/
theorem restricted_to_id_text :
    ∃ statement log,
      (update { dialect := .postgres, strict := true } "users" (.text "first")
        (.object [("x", .null)])).Returns [] statement log ∧
      statement.whereClause? = some (idTest .postgres (.text "first")) := by
  have returned : (update { dialect := .postgres, strict := true } "users" (.text "first")
      (.object [("x", .null)])).Returns [] _ _ := rfl
  have exact := restricted_to_id_iff { dialect := .postgres, strict := true } "users"
    (rfl : (Value.text "first").isNull = false) []
  exact ⟨_, _, returned, (exact.1 _ _ _ returned).mpr rfl⟩

/-- With the object without entries as the id, every document is replaced. -/
theorem update_object_unrestricted :
    ∃ statement log,
      (update { dialect := .postgres, strict := false } "users" (.object [])
        (.object [("x", .null)])).Returns [] statement log ∧
      statement.whereTrees? = none :=
  ⟨_, _, rfl, by decide +kernel⟩

end Query

end DocStore
