import DocStore.Proofs.FilterLeaves
import Mathlib.Data.List.Forall2

/-!
# Filters under other keys and operands

A mapping gives a filter other field keys and other operands, each operand of the
class of the old one.  The mapped filter means the same tests in the same places,
on other paths and with other operands, so whatever relates the texts of the tests
relates the texts of the filters.  An error comes from the operators of a filter, which
a mapping keeps, and from operands without a JSON text.  A mapping may give these a text.
-/

namespace DocStore

/-! ## Classes of operands -/

/-- What the kind of a comparison depends on. -/
inductive OperandClass where
  | null
  | boolean
  | number
  | string
  /-- Lists and objects, which are compared as JSON. -/
  | json
  /-- Decimals and bytes, which JSON does not have. -/
  | foreign
deriving DecidableEq, Repr

def Value.operandClass : Value → OperandClass
  | .null => .null
  | .bool _ => .boolean
  | .int _ => .number
  | .float _ => .number
  | .text _ => .string
  | .list _ => .json
  | .object _ => .json
  | .decimal _ => .foreign
  | .bytes _ => .foreign

def OperandClass.jsonType? : OperandClass → Option JsonType
  | boolean => some .boolean
  | number => some .number
  | string => some .string
  | _ => none

theorem Value.jsonType?_eq (value : Value) :
    value.jsonType? = value.operandClass.jsonType? := by
  cases value <;> rfl

/-- The projection that an operand is compared with depends on its class only. -/
theorem Dialect.comparable_congr {left right : Value}
    (same : left.operandClass = right.operandClass) (dialect : Dialect) (path : String) :
    dialect.comparable path left = dialect.comparable path right := by
  unfold Dialect.comparable
  rw [Value.jsonType?_eq, Value.jsonType?_eq, same]

/-! ## Mappings -/

/-- Other field keys and other operands.  A field key stays one, and an operand
keeps all that its comparison depends on. -/
structure FilterMapping where
  key : String → String
  operand : Value → Value
  hasDollar_key : ∀ name, hasDollar name = false → hasDollar (key name) = false
  combinator_key : ∀ name, Combinator.ofKey? (key name) = none ∨ key name = name
  class_operand : ∀ value, (operand value).operandClass = value.operandClass
  operand_of_foreign : ∀ value, value.operandClass = .foreign → operand value = value
  isObject_operand : ∀ value, value.isObject = false → (operand value).isObject = false
  /-- Nothing new keeps a list or an object from being written. -/
  obstacle_operand : ∀ value, value.operandClass = .json →
    Json.obstacle? (operand value) = none ∨ Json.obstacle? (operand value) = Json.obstacle? value

namespace FilterMapping

variable (mapping : FilterMapping)

/-- The elements of a membership test; any other operand of one is not looked at. -/
def listed (value : Value) : Value :=
  match value.sequence? with
  | some operands => .list (operands.map mapping.operand)
  | none => .null

mutual

/-- What stands below a field. -/
def field : Value → Value
  | .object operators => .object (below operators)
  | value => mapping.operand value

def below : List (Key × Value) → List (Key × Value)
  | [] => []
  | (key, value) :: operators =>
      (key, match FieldOperator.ofKey? key.shown with
        | some .not => field value
        | some .oneOf => mapping.listed value
        | some .noneOf => mapping.listed value
        | some _ => mapping.operand value
        | none => .null) :: below operators

end

/-- An entry that applies no combinator.  The value of an unknown operator is not
looked at. -/
def unrecognised (key : String) (value : Value) : Key × Value :=
  if hasDollar key then (.text key, .null) else (.text (mapping.key key), mapping.field value)

mutual

/-- The mapped filter. -/
def filter : Value → Value
  | .object members => .object (entries members)
  | _ => .null

def entries : List (Key × Value) → List (Key × Value)
  | [] => []
  | (key, value) :: rest =>
      (match Filter.combinator? key.shown value with
        | some .not => (key, filter value)
        | some _ => (key, subfilters value)
        | none => mapping.unrecognised key.shown value) :: entries rest

def subfilters : Value → Value
  | .list parts => .list (items parts)
  | value => value

def items : List Value → List Value
  | [] => []
  | part :: parts => filter part :: items parts

end

end FilterMapping

/-! ## Mapped conditions -/

/-- The operand of a comparison as JSON, which is a list or an object. -/
def FilterMapping.written (mapping : FilterMapping) (value : Value) : Value :=
  if value.operandClass = .json then mapping.operand value else value

def FieldTest.mapped (mapping : FilterMapping) : FieldTest → FieldTest
  | absent path => absent (mapping.key path)
  | present path => present (mapping.key path)
  | equals path operand => equals (mapping.key path) (mapping.operand operand)
  | ordered path comparison operand =>
      ordered (mapping.key path) comparison (mapping.operand operand)
  | sameJson path operand => sameJson (mapping.key path) (mapping.written operand)
  | oneOf path type operands => oneOf (mapping.key path) type (operands.map mapping.operand)
  | never => never

def FilterNote.mapped (mapping : FilterMapping) : FilterNote → FilterNote
  | unsupported operator => unsupported operator
  | notSequence operator path => notSequence operator (mapping.key path)

def FilterLeaf.mapped (mapping : FilterMapping) : FilterLeaf → FilterLeaf
  | test fieldTest => test (fieldTest.mapped mapping)
  | note filterNote => note (filterNote.mapped mapping)

namespace Condition

variable (mapping : FilterMapping)

mutual

def mapped : Condition → Condition
  | test fieldTest => test (fieldTest.mapped mapping)
  | note filterNote => note (filterNote.mapped mapping)
  | enclosed inner => enclosed inner.mapped
  | negation inner => negation inner.mapped
  | conjunction parts => conjunction (mappedList parts)
  | disjunction parts => disjunction (mappedList parts)

def mappedList : List Condition → List Condition
  | [] => []
  | part :: parts => part.mapped :: mappedList parts

end

mutual

theorem leaves_mapped :
    (condition : Condition) →
      (condition.mapped mapping).leaves = condition.leaves.map (FilterLeaf.mapped mapping)
  | .test _ => rfl
  | .note _ => rfl
  | .enclosed inner => leaves_mapped inner
  | .negation inner => leaves_mapped inner
  | .conjunction parts => leavesList_mapped parts
  | .disjunction parts => leavesList_mapped parts

theorem leavesList_mapped :
    (parts : List Condition) →
      leavesList (mappedList mapping parts) =
        (leavesList parts).map (FilterLeaf.mapped mapping)
  | [] => rfl
  | part :: parts => by
      rw [mappedList, leavesList, leavesList, List.map_append, leaves_mapped part,
        leavesList_mapped parts]

end

theorem mappedList_eq_map (parts : List Condition) :
    mappedList mapping parts = parts.map (mapped mapping) := by
  induction parts with
  | nil => rfl
  | cons part parts ih => rw [mappedList, List.map_cons, ih]

end Condition

namespace FilterMapping

variable (mapping : FilterMapping)

/-! ## What a mapping keeps -/

theorem jsonType?_operand (value : Value) :
    (mapping.operand value).jsonType? = value.jsonType? := by
  rw [Value.jsonType?_eq, Value.jsonType?_eq, mapping.class_operand]

/-- What is no object stays an operand of the same combinators. -/
theorem takes_operand {value : Value} (noObject : value.isObject = false)
    (combinator : Combinator) :
    Filter.takes combinator (mapping.operand value) = Filter.takes combinator value := by
  have same := mapping.class_operand value
  have unchanged := mapping.operand_of_foreign value
  have stays := mapping.isObject_operand value noObject
  cases value <;> cases mapped : mapping.operand _ <;> cases combinator <;>
    simp_all [Value.operandClass, Filter.takes, Value.sequence?, Value.isObject]

theorem takes_field (value : Value) (combinator : Combinator) :
    Filter.takes combinator (mapping.field value) = Filter.takes combinator value := by
  cases value with
  | object operators => cases combinator <;> rfl
  | _ => exact mapping.takes_operand rfl combinator

theorem equality_mapped (path : String) (operand : Value) :
    Condition.equality (mapping.key path) (mapping.operand operand) =
      (Condition.equality path operand).mapped mapping := by
  have same := mapping.class_operand operand
  have unchanged := mapping.operand_of_foreign operand
  cases operand <;> cases mapped : mapping.operand _ <;>
    simp_all [Value.operandClass, Condition.equality, Condition.mapped, FieldTest.mapped,
      written]

theorem inequality_mapped (path : String) (operand : Value) :
    Condition.inequality (mapping.key path) (mapping.operand operand) =
      (Condition.inequality path operand).mapped mapping := by
  have negated := mapping.equality_mapped path operand
  have same := mapping.class_operand operand
  cases operand <;> cases mapped : mapping.operand _ <;>
    simp_all [Value.operandClass, Condition.inequality, Condition.mapped, FieldTest.mapped]

theorem commonType?_operands (operands : List Value) :
    Condition.commonType? (operands.map mapping.operand) = Condition.commonType? operands := by
  cases operands with
  | nil => rfl
  | cons first rest =>
      simp [Condition.commonType?, mapping.jsonType?_operand, Function.comp_def]

theorem membership_mapped (path : String) (operands : List Value) :
    Condition.membership (mapping.key path) (operands.map mapping.operand) =
      (Condition.membership path operands).mapped mapping := by
  unfold Condition.membership
  rw [mapping.commonType?_operands]
  split
  · rfl
  · simp [Condition.mapped, Condition.mappedList_eq_map, Function.comp_def,
      mapping.equality_mapped]

theorem listed_mapped (path operator : String) (negated : Bool) (operand : Value) :
    Condition.listed (mapping.key path) operator negated (mapping.listed operand) =
      (Condition.listed path operator negated operand).mapped mapping := by
  unfold Condition.listed listed
  cases operand.sequence? with
  | none => rfl
  | some operands =>
      cases operands with
      | nil => cases negated <;> rfl
      | cons first rest =>
          have member := mapping.membership_mapped path (first :: rest)
          cases negated <;> simpa [Value.sequence?, Condition.mapped] using member

/-! ## The condition of a mapped filter -/

theorem fieldCondition_operand (path : String) {value : Value}
    (noObject : value.isObject = false) :
    Filter.fieldCondition (mapping.key path) (mapping.operand value) =
      (Filter.fieldCondition path value).mapped mapping := by
  rw [Filter.fieldCondition_of_isObject (mapping.isObject_operand value noObject),
    Filter.fieldCondition_of_isObject noObject, mapping.equality_mapped, Condition.mapped]

mutual

theorem fieldCondition_mapped (path : String) :
    (value : Value) →
      Filter.fieldCondition (mapping.key path) (mapping.field value) =
        (Filter.fieldCondition path value).mapped mapping
  | .object operators => by
      rw [field, Filter.fieldCondition, Filter.fieldCondition, Condition.mapped,
        operatorConditions_mapped path operators]
  | .null => mapping.fieldCondition_operand path rfl
  | .bool flag => mapping.fieldCondition_operand path rfl
  | .int number => mapping.fieldCondition_operand path rfl
  | .float number => mapping.fieldCondition_operand path rfl
  | .decimal number => mapping.fieldCondition_operand path rfl
  | .bytes content => mapping.fieldCondition_operand path rfl
  | .text content => mapping.fieldCondition_operand path rfl
  | .list items => mapping.fieldCondition_operand path rfl

theorem operatorConditions_mapped (path : String) :
    (operators : List (Key × Value)) →
      Filter.operatorConditions (mapping.key path) (mapping.below operators) =
        Condition.mappedList mapping (Filter.operatorConditions path operators)
  | [] => rfl
  | (key, value) :: operators => by
      have rest := operatorConditions_mapped path operators
      have inner := fieldCondition_mapped path value
      rw [below, Filter.operatorConditions, Filter.operatorConditions, Condition.mappedList, rest]
      congr 1
      cases FieldOperator.ofKey? key.shown with
      | none => rfl
      | some operator =>
          cases operator with
          | equal => exact congrArg Condition.enclosed (mapping.equality_mapped path value)
          | unequal => exact congrArg Condition.enclosed (mapping.inequality_mapped path value)
          | ordered comparison => rfl
          | oneOf => exact mapping.listed_mapped path _ false value
          | noneOf => exact mapping.listed_mapped path _ true value
          | not => exact congrArg (fun condition => Condition.enclosed condition.negation) inner

end

theorem combinator?_unrecognised {key : String} {value : Value}
    (applies : Filter.combinator? key value = none) :
    Filter.combinator? (mapping.unrecognised key value).1.shown
      (mapping.unrecognised key value).2 = none := by
  unfold unrecognised
  split
  · unfold Filter.combinator?
    cases Combinator.ofKey? (Key.text key).shown with
    | none => rfl
    | some combinator => cases combinator <;> rfl
  · change Filter.combinator? (mapping.key key) (mapping.field value) = none
    rcases mapping.combinator_key key with unknown | same
    · simp [Filter.combinator?, unknown]
    · rw [same, Filter.combinator?_congr (mapping.takes_field value), applies]

/-- An entry that applies no combinator is mapped to one that applies none. -/
theorem entryCondition_unrecognised {key : String} {value : Value}
    (applies : Filter.combinator? key value = none) :
    Filter.entryCondition (mapping.unrecognised key value).1.shown
        (mapping.unrecognised key value).2 =
      (Filter.entryCondition key value).mapped mapping := by
  rw [Filter.entryCondition, Filter.entryCondition, applies,
    mapping.combinator?_unrecognised applies]
  change Filter.unrecognised _ _ = (Filter.unrecognised key value).mapped mapping
  cases dollar : hasDollar key with
  | true => simp [unrecognised, Filter.unrecognised, dollar, Key.shown, Condition.mapped,
      FilterNote.mapped]
  | false =>
      have stays := mapping.hasDollar_key key dollar
      simp [unrecognised, Filter.unrecognised, dollar, stays, Key.shown,
        mapping.fieldCondition_mapped key value]

theorem takes_subfilters (value : Value) (combinator : Combinator) :
    Filter.takes combinator (mapping.subfilters value) = Filter.takes combinator value := by
  cases value with
  | list parts => cases combinator <;> rfl
  | _ => rfl

theorem takes_filter {value : Value} (isObject : value.isObject = true)
    (combinator : Combinator) :
    Filter.takes combinator (mapping.filter value) = Filter.takes combinator value := by
  cases value with
  | object members => cases combinator <;> rfl
  | _ => cases isObject

mutual

theorem condition_mapped :
    (filter : Value) →
      Filter.condition (mapping.filter filter) = (Filter.condition filter).mapped mapping
  | .object members => by
      rw [filter, Filter.condition, Filter.condition, Condition.mapped,
        entryConditions_mapped members]
  | .null => rfl
  | .bool flag => rfl
  | .int number => rfl
  | .float number => rfl
  | .decimal number => rfl
  | .bytes content => rfl
  | .text content => rfl
  | .list items => rfl

theorem entryConditions_mapped :
    (members : List (Key × Value)) →
      Filter.entryConditions (mapping.entries members) =
        Condition.mappedList mapping (Filter.entryConditions members)
  | [] => rfl
  | (key, value) :: members => by
      have rest := entryConditions_mapped members
      have inner := condition_mapped value
      have parts := subconditions_mapped value
      rw [entries, Filter.entryConditions_cons, Filter.entryConditions_cons,
        Condition.mappedList, rest]
      congr 1
      cases applies : Filter.combinator? key.shown value with
      | none => exact mapping.entryCondition_unrecognised applies
      | some combinator =>
          have applied := (Option.filter_eq_some_iff.mp applies).2
          have filtered (isObject : value.isObject = true) :=
            Filter.combinator?_congr (mapping.takes_filter isObject) key.shown
          have divided := Filter.combinator?_congr (mapping.takes_subfilters value) key.shown
          cases combinator with
          | and =>
              simp only [Filter.entryCondition, divided, applies, parts, Condition.mapped]
          | or => simp only [Filter.entryCondition, divided, applies, parts, Condition.mapped]
          | not =>
              simp only [Filter.entryCondition, filtered applied, applies, inner,
                Condition.mapped]

theorem subconditions_mapped :
    (value : Value) →
      Filter.subconditions (mapping.subfilters value) =
        Condition.mappedList mapping (Filter.subconditions value)
  | .list items => by
      rw [subfilters, Filter.subconditions, Filter.subconditions, itemConditions_mapped items]
  | .null => rfl
  | .bool flag => rfl
  | .int number => rfl
  | .float number => rfl
  | .decimal number => rfl
  | .bytes content => rfl
  | .text content => rfl
  | .object members => rfl

theorem itemConditions_mapped :
    (parts : List Value) →
      Filter.itemConditions (mapping.items parts) =
        Condition.mappedList mapping (Filter.itemConditions parts)
  | [] => rfl
  | part :: parts => by
      rw [items, Filter.itemConditions, Filter.itemConditions, Condition.mappedList,
        Condition.mapped, condition_mapped part, itemConditions_mapped parts]

end

end FilterMapping

/-! ## Texts of mapped filters -/

namespace Sql.Fragment

variable {related : Piece → Piece → Prop}

theorem forall₂_parenthesised (raw : ∀ content, related (.raw content) (.raw content))
    {left right : Fragment} (pieces : List.Forall₂ related left right) :
    List.Forall₂ related (parenthesised left) (parenthesised right) :=
  .cons (raw _) (List.rel_append pieces (.cons (raw _) .nil))

theorem forall₂_joined (raw : ∀ content, related (.raw content) (.raw content))
    (separator : String) {left right : List Fragment}
    (pieces : List.Forall₂ (List.Forall₂ related) left right) :
    List.Forall₂ related (joined separator left) (joined separator right) := by
  induction pieces with
  | nil => exact .nil
  | cons first rest ih =>
      cases rest with
      | nil => exact first
      | cons second rest => exact List.rel_append first (.cons (raw separator) ih)

end Sql.Fragment

/-- The text of a mapped test is the text of the test with related pieces. -/
structure FilterMapping.Relates (mapping : FilterMapping) (dialect : Dialect)
    (related : Sql.Piece → Sql.Piece → Prop) : Prop where
  raw : ∀ content, related (.raw content) (.raw content)
  test : ∀ test : FieldTest,
    List.Forall₂ related ((test.mapped mapping).fragment dialect) (test.fragment dialect)

namespace Condition

open Sql Fragment

variable {mapping : FilterMapping} {dialect : Dialect} {related : Piece → Piece → Prop}

mutual

theorem rel_fragment? (relates : mapping.Relates dialect related) :
    (condition : Condition) →
      Option.Rel (List.Forall₂ related) ((condition.mapped mapping).fragment? dialect)
        (condition.fragment? dialect)
  | .test fieldTest => .some (relates.test fieldTest)
  | .note filterNote => .none
  | .enclosed inner => by
      have text := rel_fragment? relates inner
      rw [mapped, fragment?, fragment?]
      generalize (inner.mapped mapping).fragment? dialect = left,
        inner.fragment? dialect = right at text ⊢
      cases text with
      | none => exact .none
      | some pieces => exact .some (forall₂_parenthesised relates.raw pieces)
  | .negation inner => by
      have text := rel_fragment? relates inner
      rw [mapped, fragment?, fragment?]
      generalize (inner.mapped mapping).fragment? dialect = left,
        inner.fragment? dialect = right at text ⊢
      cases text with
      | none => exact .none
      | some pieces =>
          exact .some (.cons (relates.raw _)
            (List.rel_append pieces (.cons (relates.raw _) .nil)))
  | .conjunction parts => by
      have texts := forall₂_fragments relates parts
      rw [mapped, fragment?, fragment?]
      generalize fragments dialect (mappedList mapping parts) = left,
        fragments dialect parts = right at texts ⊢
      cases texts with
      | nil => exact .none
      | cons first rest => exact .some (forall₂_joined relates.raw " AND " (.cons first rest))
  | .disjunction parts => by
      have texts := forall₂_fragments relates parts
      rw [mapped, fragment?, fragment?]
      generalize fragments dialect (mappedList mapping parts) = left,
        fragments dialect parts = right at texts ⊢
      cases texts with
      | nil => exact .none
      | cons first rest => exact .some (forall₂_joined relates.raw " OR " (.cons first rest))

theorem forall₂_fragments (relates : mapping.Relates dialect related) :
    (parts : List Condition) →
      List.Forall₂ (List.Forall₂ related) (fragments dialect (mappedList mapping parts))
        (fragments dialect parts)
  | [] => .nil
  | part :: parts => by
      have text := rel_fragment? relates part
      have rest := forall₂_fragments relates parts
      rw [mappedList, fragments, fragments]
      generalize (part.mapped mapping).fragment? dialect = left,
        part.fragment? dialect = right at text ⊢
      cases text with
      | none => exact rest
      | some pieces => exact .cons pieces rest

end

end Condition

/-! ## Errors of mapped filters -/

namespace FilterMapping

variable (mapping : FilterMapping) (strict : Bool)

theorem obstacle?_written (value : Value) :
    Json.obstacle? (mapping.written value) = none ∨
      Json.obstacle? (mapping.written value) = Json.obstacle? value := by
  unfold written
  split
  · rename_i json
    exact mapping.obstacle_operand value json
  · exact .inr rfl

/-- Among the leaves is a comparison with an operand that cannot be written.  The mapped operand
can, so that only the compilation without the mapping ends there. -/
def Unlocks (leaves : List FilterLeaf) (failure : Option Failure) : Prop :=
  ∃ path operand fault, .test (.sameJson path operand) ∈ leaves ∧
    Json.obstacle? operand = some fault ∧ Json.obstacle? (mapping.written operand) = none ∧
      failure = some (.fault fault)

theorem ending?_mapped (leaf : FilterLeaf) :
    (leaf.mapped mapping).ending? strict = leaf.ending? strict ∨
      mapping.Unlocks [leaf] (leaf.ending? strict) := by
  cases leaf with
  | note note => cases note <;> exact .inl rfl
  | test test =>
      cases test with
      | sameJson path operand =>
          simp only [FilterLeaf.mapped, FieldTest.mapped, FilterLeaf.ending?]
          rcases mapping.obstacle?_written operand with written | same
          · cases obstacle : Json.obstacle? operand with
            | none => exact .inl (by rw [written])
            | some fault =>
                exact .inr ⟨path, operand, fault, List.mem_singleton.mpr rfl, obstacle, written,
                  rfl⟩
          · exact .inl (by rw [same])
      | _ => exact .inl rfl

/-- A filter and a mapped one end with the same failure, or the mapping makes the operand that
the first one ends at writable. -/
theorem findSome?_ending?_mapped (leaves : List FilterLeaf) :
    (leaves.map (FilterLeaf.mapped mapping)).findSome? (FilterLeaf.ending? strict) =
        leaves.findSome? (FilterLeaf.ending? strict) ∨
      mapping.Unlocks leaves (leaves.findSome? (FilterLeaf.ending? strict)) := by
  induction leaves with
  | nil => exact .inl rfl
  | cons leaf leaves ih =>
      rw [List.map_cons, List.findSome?_cons, List.findSome?_cons]
      rcases mapping.ending?_mapped strict leaf with same | ⟨path, operand, fault, isLeaf, obstacle,
        written, ends⟩
      · rw [same]
        cases leaf.ending? strict with
        | some failure => exact .inl rfl
        | none =>
            refine ih.imp_right ?_
            rintro ⟨path, operand, fault, isLeaf, unlocked⟩
            exact ⟨path, operand, fault, List.mem_cons_of_mem _ isLeaf, unlocked⟩
      · rw [ends]
        exact .inr ⟨path, operand, fault,
          List.mem_singleton.mp isLeaf ▸ List.mem_cons_self, obstacle, written, rfl⟩

/-- A filter and a mapped one fail alike, or both compile, to texts with related
pieces; or the mapping makes an operand writable that the filter fails at. -/
theorem compile_mapped {mapping : FilterMapping} {dialect : Dialect}
    {related : Sql.Piece → Sql.Piece → Prop} (relates : mapping.Relates dialect related)
    (strict : Bool) (filter : Value) (entries : List LogEntry) :
    (∃ failure,
        ((Filter.compile dialect strict (mapping.filter filter)).after entries).1 =
            .error failure ∧
          ((Filter.compile dialect strict filter).after entries).1 = .error failure) ∨
      (∃ mappedText text,
        ((Filter.compile dialect strict (mapping.filter filter)).after entries).1 =
            .ok mappedText ∧
          ((Filter.compile dialect strict filter).after entries).1 = .ok text ∧
          Option.Rel (List.Forall₂ related) mappedText text) ∨
      ∃ failure, mapping.Unlocks (Filter.leaves filter) (some failure) ∧
        ((Filter.compile dialect strict filter).after entries).1 = .error failure := by
  have mappedLeaves : Filter.leaves (mapping.filter filter) =
      (Filter.leaves filter).map (FilterLeaf.mapped mapping) := by
    rw [← Filter.leaves_condition, ← Filter.leaves_condition, mapping.condition_mapped,
      Condition.leaves_mapped]
  rw [Filter.after_compile, Filter.after_compile, Filter.failure_trail, Filter.failure_trail,
    mappedLeaves]
  rcases mapping.findSome?_ending?_mapped strict (Filter.leaves filter) with same | unlocks
  · rw [same]
    cases (Filter.leaves filter).findSome? (FilterLeaf.ending? strict) with
    | some failure => exact .inl ⟨failure, rfl, rfl⟩
    | none =>
        refine .inr (.inl ⟨_, _, rfl, rfl, ?_⟩)
        rw [mapping.condition_mapped]
        exact Condition.rel_fragment? relates (Filter.condition filter)
  · obtain ⟨path, operand, fault, isLeaf, obstacle, written, ends⟩ := unlocks
    rw [ends]
    exact .inr (.inr ⟨.fault fault, ⟨path, operand, fault, isLeaf, obstacle, written, rfl⟩, rfl⟩)

end FilterMapping

end DocStore
