import DocStore.Filter.Condition
import DocStore.Proofs.WellJoined

/-!
# Expressions and conditions are well joined

An expression over a field, a field test and a condition begin with a word or a
bracket, and each of their pieces ends where the next one may begin.  An expression
over a field binds nothing.
-/

namespace DocStore

open Sql Fragment

/-! ## Expressions -/

namespace Dialect

variable (dialect : Dialect) (path : String)

theorem wellJoined_jsonPath : WellJoined dialect true (dialect.jsonPath path) := by
  cases dialect with
  | postgres =>
      unfold jsonPath
      dsimp only
      split
      · exact .lead (by simp [leads, documentColumn]) (.literal (.of_noEscapes rfl _) .nil)
      · exact .lead (by simp [leads, documentColumn]) (.literal (.of_noEscapes rfl _) .nil)
  | mysql =>
      have closed : WellJoined .mysql false [.raw ")"] := .joint (by simp [joints]) .nil
      exact .lead (by simp [leads, documentColumn])
        (.literal (wellEscaped_dollarContent .mysql _) closed)

theorem wellJoined_fieldPath : WellJoined dialect true (dialect.fieldPath path) := by
  cases dialect with
  | postgres =>
      unfold fieldPath
      dsimp only
      split
      · exact .lead (by simp [leads, documentColumn]) (.literal (.of_noEscapes rfl _) .nil)
      · exact .lead (by simp [leads, documentColumn]) (.literal (.of_noEscapes rfl _) .nil)
  | mysql =>
      exact .lead (by simp [leads])
        ((wellJoined_jsonPath .mysql path).append (.joint (by simp [joints]) .nil))

theorem wellJoined_hasType (type : JsonType) :
    WellJoined dialect true (dialect.hasType path type) := by
  cases dialect with
  | postgres =>
      have typeName : WellJoined .postgres true [.literal type.name] :=
        .literal (.of_noEscapes rfl _) .nil
      exact .lead (by simp [leads])
        ((wellJoined_jsonPath .postgres path).append (.joint (by simp [joints]) typeName))
  | mysql =>
      refine .lead (by simp [leads]) ((wellJoined_jsonPath .mysql path).append (.joint ?_ .nil))
      cases type <;> simp [joints, engineTypeNames]

variable {dialect} in
theorem wellJoined_numeric {expression : Fragment}
    (inner : WellJoined dialect true expression) :
    WellJoined dialect true (dialect.numeric expression) := by
  refine .lead (by simp [commonLeads]) (inner.append (.joint ?_ .nil))
  cases dialect <;> simp [joints]

theorem wellJoined_guarded (type : JsonType) {expression : Fragment}
    (inner : WellJoined dialect true expression) :
    WellJoined dialect true (dialect.guarded path type expression) := by
  have guarded := inner.append (.tail (show " END" ∈ tails by simp [tails]) .nil)
  exact .lead (by simp [commonLeads])
    ((wellJoined_hasType dialect path type).append (.joint (by simp [joints]) guarded))

theorem wellJoined_typedValue (type : JsonType) :
    WellJoined dialect true (dialect.typedValue path type) := by
  have text := wellJoined_fieldPath dialect path
  cases type with
  | number => exact wellJoined_guarded dialect path .number (wellJoined_numeric text)
  | string => exact wellJoined_guarded dialect path .string text
  | boolean => exact wellJoined_guarded dialect path .boolean text

theorem wellJoined_comparable (operand : Value) :
    WellJoined dialect true (dialect.comparable path operand) := by
  unfold comparable
  split
  · exact wellJoined_typedValue dialect path _
  · exact wellJoined_fieldPath dialect path

/-- MySQL tests for null by two expressions over the value. -/
theorem wellJoined_nullTest {between after : String} (isJoint : between ∈ joints)
    (endsJoint : after ∈ joints) :
    WellJoined .mysql true (.raw "(" :: (jsonPath .mysql path ++ .raw between
      :: (jsonPath .mysql path ++ [.raw after]))) := by
  have json := wellJoined_jsonPath .mysql path
  have second := json.append (.joint endsJoint .nil)
  exact .joint (by simp [joints]) (json.append (.joint isJoint second))

theorem wellJoined_isNull : WellJoined dialect true (dialect.isNull path) := by
  cases dialect with
  | postgres =>
      exact (wellJoined_fieldPath .postgres path).append (.tail (by simp [tails]) .nil)
  | mysql => exact wellJoined_nullTest path (by simp [joints]) (by simp [joints])

theorem wellJoined_isNotNull : WellJoined dialect true (dialect.isNotNull path) := by
  cases dialect with
  | postgres =>
      exact (wellJoined_fieldPath .postgres path).append (.tail (by simp [tails]) .nil)
  | mysql => exact wellJoined_nullTest path (by simp [joints]) (by simp [joints])

@[simp] theorem params_jsonPath : (dialect.jsonPath path).params = [] := by
  cases dialect with
  | postgres =>
      unfold jsonPath
      dsimp only
      split <;> rfl
  | mysql => rfl

@[simp] theorem params_fieldPath : (dialect.fieldPath path).params = [] := by
  cases dialect with
  | postgres =>
      unfold fieldPath
      dsimp only
      split <;> rfl
  | mysql => simp [fieldPath, params_cons, params_append, Piece.bound?]

@[simp] theorem params_typedValue (type : JsonType) :
    (dialect.typedValue path type).params = [] := by
  have guardParams : (dialect.hasType path type).params = [] := by
    cases dialect <;> simp [hasType, postgresTypeTest, params_cons, params_append, Piece.bound?]
  cases type <;>
    simp [typedValue, numericValue, guarded, numeric, guardParams, params_cons, params_append,
      Piece.bound?]

@[simp] theorem params_comparable (operand : Value) :
    (dialect.comparable path operand).params = [] := by
  unfold comparable
  split <;> simp

end Dialect

/-! ## Filters -/

theorem FieldTest.wellJoined_fragment (dialect : Dialect) (test : FieldTest) :
    WellJoined dialect true (test.fragment dialect) := by
  have bound (value : Value) : WellJoined dialect true [.parameter value] := .parameter .nil
  cases test with
  | absent path => exact dialect.wellJoined_isNull path
  | present path => exact dialect.wellJoined_isNotNull path
  | equals path operand =>
      exact (dialect.wellJoined_comparable path operand).append
        (.joint (by simp [joints]) (bound _))
  | ordered path comparison operand =>
      refine (dialect.wellJoined_comparable path operand).append (.joint ?_ (bound _))
      cases comparison <;> simp [joints, Comparison.sign]
  | sameJson path operand =>
      exact (dialect.wellJoined_jsonPath path).append
        (.joint (by simp [joints]) (.document .nil))
  | oneOf path type operands =>
      have placeholders : WellJoined dialect true
          (joined ", " (operands.map fun operand => [.parameter operand.boundForm])) :=
        .joined (by simp [joints]) (List.forall_mem_map.mpr fun operand _ => bound _)
      exact (dialect.wellJoined_typedValue path type).append
        (.joint (by simp [joints]) placeholders.parenthesised)
  | never => exact .phrase (.inl (by simp [phrases])) .nil

namespace Condition

/-- What holds of the texts of tests, and is kept by the ways in which texts are put
together. -/
structure IsKept (dialect : Dialect) (motive : Fragment → Prop) : Prop where
  test : ∀ fieldTest : FieldTest, motive (fieldTest.fragment dialect)
  enclosed : ∀ {text}, motive text → motive (parenthesised text)
  negated : ∀ {text}, motive text →
    motive (.raw "NOT COALESCE((" :: (text ++ [.raw "), FALSE)"]))
  joined : ∀ {separator texts}, separator ∈ [" AND ", " OR "] →
    (∀ text ∈ texts, motive text) → motive (Fragment.joined separator texts)

variable {dialect : Dialect} {motive : Fragment → Prop}

mutual

theorem IsKept.fragment? (kept : IsKept dialect motive) :
    (condition : Condition) → ∀ {text : Fragment},
      condition.fragment? dialect = some text → motive text
  | .test fieldTest, _, written => by
      cases written
      exact kept.test fieldTest
  | .note _, _, written => by cases written
  | .enclosed inner, _, written => by
      obtain ⟨text, innerWritten, rfl⟩ := Option.map_eq_some_iff.mp written
      exact kept.enclosed (kept.fragment? inner innerWritten)
  | .negation inner, _, written => by
      obtain ⟨text, innerWritten, rfl⟩ := Option.map_eq_some_iff.mp written
      exact kept.negated (kept.fragment? inner innerWritten)
  | .conjunction parts, _, written => by
      have each := kept.of_mem_fragments parts
      unfold Condition.fragment? at written
      split at written
      · cases written
      · cases written
        exact kept.joined (by simp) each
  | .disjunction parts, _, written => by
      have each := kept.of_mem_fragments parts
      unfold Condition.fragment? at written
      split at written
      · cases written
      · cases written
        exact kept.joined (by simp) each

theorem IsKept.of_mem_fragments (kept : IsKept dialect motive) :
    (parts : List Condition) → ∀ text ∈ fragments dialect parts, motive text
  | [], _, member => by cases member
  | part :: parts, text, member => by
      have later := kept.of_mem_fragments parts text
      unfold fragments at member
      split at member
      · rename_i first written
        rcases List.mem_cons.mp member with rfl | member
        · exact kept.fragment? part written
        · exact later member
      · exact later member

end

theorem wellJoined_isKept (dialect : Dialect) : IsKept dialect (WellJoined dialect true) where
  test := FieldTest.wellJoined_fragment dialect
  enclosed inner := inner.parenthesised
  negated inner :=
    .lead (by simp [commonLeads]) (inner.append (.joint (by simp [joints]) .nil))
  joined isSeparator each := by
    simp only [List.mem_cons, List.not_mem_nil, or_false] at isSeparator
    exact .joined (by rcases isSeparator with rfl | rfl <;> simp [joints]) each

theorem wellJoined_fragment? (dialect : Dialect) (condition : Condition) {text : Fragment}
    (written : condition.fragment? dialect = some text) : WellJoined dialect true text :=
  (wellJoined_isKept dialect).fragment? condition written

theorem percentFree_fragment? (dialect : Dialect) (condition : Condition) {text : Fragment}
    (written : condition.fragment? dialect = some text) : PercentFree text :=
  (wellJoined_fragment? dialect condition written).percentFree

end Condition

end DocStore
