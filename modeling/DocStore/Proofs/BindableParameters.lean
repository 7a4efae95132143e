import DocStore.Proofs.TypedComparisons

/-!
# Parameters that can be bound

The drivers take null, numbers and texts for parameters.  An operand that is a truth value is
bound by its name, and a list or an object as its JSON text, in a comparison of JSON values.
Only an equality does that: a list or an object that a field is to stand in an order to is
bound as it is.
-/

namespace DocStore

open Sql Fragment

/-- What both drivers take for a parameter. -/
def Value.isBindable : Value → Bool
  | .null => true
  | .int _ => true
  | .float _ => true
  | .text _ => true
  | _ => false

theorem Value.isBindable_boundForm {operand : Value} (writable : Json.obstacle? operand = none) :
    operand.boundForm.isBindable = !operand.isContainer := by
  cases operand with
  | decimal number => cases writable
  | bytes content => cases writable
  | _ => rfl

namespace Comparand

/-- The value between these tokens stands for the operand in a form that can be bound: a truth
value by its name, and a list or an object by its JSON text, with which the field is compared
as JSON. -/
structure IsPlain (dialect : Dialect) (comparand : Comparand) (before : List Lexeme)
    (value : Value) (after : List Lexeme) : Prop where
  bindable : value.isBindable = true
  truth : ∀ flag, comparand.operand = .bool flag → value = .text (if flag then "true" else "false")
  json : comparand.operand.isContainer = true →
    ∃ text front opening closing back, text = String.ofList (Json.write comparand.operand) ∧
      value = .text text ∧ documentTokens dialect text = opening ++ .bound value :: closing ∧
      before = front ++ (lexemes dialect (dialect.jsonPath comparand.path)
        ++ .sign "=".toList :: opening) ∧
      after = closing ++ back

variable {dialect : Dialect} {comparand : Comparand} {before after : List Lexeme}

theorem isBindable_bound (writable : Json.obstacle? comparand.operand = none) :
    comparand.bound.isBindable = true ↔
      (comparand.operand.isContainer = true → comparand.relation = .equal) := by
  unfold bound
  split
  · rename_i json
    simp [Value.isBindable, json]
  · rename_i other
    rw [Value.isBindable_boundForm writable]
    cases container : comparand.operand.isContainer <;> simp_all

theorem Stands.isPlain (stands : comparand.Stands dialect before after)
    (bindable : comparand.bound.isBindable = true)
    (equal : comparand.operand.isContainer = true → comparand.relation = .equal) :
    comparand.IsPlain dialect before comparand.bound after where
  bindable := bindable
  truth flag same := by simp [bound, same, Value.isContainer, Value.boundForm]
  json container := by
    obtain ⟨front, link, opening, closing, back, rfl, rfl, isLink, operand⟩ := stands
    have bound : comparand.bound = .text (String.ofList (Json.write comparand.operand)) := by
      simp [bound, container, equal container]
    have sides : comparand.sides dialect = (dialect.jsonPath comparand.path,
        [.document (String.ofList (Json.write comparand.operand))]) := by
      simp [Comparand.sides, Dialect.sides, container, equal container]
    simp only [sides, lexemes_cons, lexemes_nil, List.append_nil, lexemes_document] at operand
    refine ⟨_, front, opening, closing, back, rfl, bound, operand, ?_, rfl⟩
    cases isLink with
    | equal path operand => rw [sides]; rfl
    | ordered path comparison operand => cases equal container
    | candidate path scalar earlier => rw [scalar] at container; cases container

end Comparand

/-- The values bound in these tokens stand for some operands in their order, each in a form
that can be bound. -/
def BindsPlainly (dialect : Dialect) (comparands : List Comparand) (tokens : List Lexeme) : Prop :=
  ∀ before value after, tokens = before ++ .bound value :: after →
    ∃ comparand, comparands[(before.filterMap Lexeme.bound?).length]? = some comparand ∧
      comparand.IsPlain dialect before value after

namespace Filter

/-- No field is to stand in an order to a list or an object. -/
def OrdersScalars (filter : Value) : Prop :=
  ∀ path comparison operand, .ordered path comparison operand ∈ comparisons filter →
    operand.isContainer = false

theorem mem_comparands_of_ordered {filter : Value} {path : String} {comparison : Comparison}
    {operand : Value} (member : .ordered path comparison operand ∈ comparisons filter) :
    ⟨path, .ordered comparison, operand⟩ ∈ comparands filter :=
  List.mem_flatMap.mpr ⟨_, member, List.mem_singleton.mpr rfl⟩

/-- The operands of a filter that can be written as JSON can be written. -/
theorem writable_comparands {filter : Value} (writable : Json.obstacle? filter = none) :
    ∀ comparand ∈ comparands filter, Json.obstacle? comparand.operand = none := by
  have inherits : FieldTest.Inherits (fun value => Json.obstacle? value = none)
      fun test => ∀ comparand ∈ test.comparands, Json.obstacle? comparand.operand = none :=
    { FieldTest.inherits_writable with
      equality := by
        intro path operand written
        cases operand <;> simp [FieldTest.equality, FieldTest.comparands, written]
      present := by simp [FieldTest.comparands]
      ordered := by simp [FieldTest.comparands]
      oneOf := by
        intro path type operands _ written
        simpa [FieldTest.comparands] using written
      never := by simp [FieldTest.comparands] }
  intro comparand member
  obtain ⟨test, isTest, isComparand⟩ := List.mem_flatMap.mp member
  exact inherits.comparisons writable test isTest comparand isComparand

/-- In a filter of this kind, a list or an object is an operand of equalities only. -/
theorem equal_of_ordersScalars {filter : Value} (orders : OrdersScalars filter) :
    ∀ comparand ∈ comparands filter,
      comparand.operand.isContainer = true → comparand.relation = .equal := by
  intro comparand member container
  obtain ⟨test, isTest, isComparand⟩ := List.mem_flatMap.mp member
  cases test with
  | ordered path comparison operand =>
      cases List.mem_singleton.mp isComparand
      rw [orders path comparison operand isTest] at container
      cases container
  | oneOf path type operands =>
      obtain ⟨operand, _, rfl⟩ := List.mem_map.mp isComparand
      rfl
  | equals path operand => cases List.mem_singleton.mp isComparand; rfl
  | sameJson path operand => cases List.mem_singleton.mp isComparand; rfl
  | _ => cases isComparand

/-- Whenever a filter that can be written as JSON compiles, all its parameters are in a form
that can be bound exactly if no field is to stand in an order to a list or an object. -/
theorem binds_plainly_iff {dialect : Dialect} {strict : Bool} {filter : Value}
    {entries log : List LogEntry} {text : Option Fragment}
    (writable : Json.obstacle? filter = none)
    (returned : (compile dialect strict filter).Returns entries text log) :
    ∃ tokens, tokens? dialect (text.getD []) = some tokens ∧
      tokens.filterMap Lexeme.bound? = clauseParams text ∧
      (BindsPlainly dialect (comparands filter) tokens ↔ OrdersScalars filter) := by
  obtain ⟨tokens, cut, params, _, stand⟩ := allStand_of_returns returned
  refine ⟨tokens, cut, params, ?_, ?_⟩
  · intro plainly path comparison operand member
    have isComparand := mem_comparands_of_ordered member
    have isBound := List.mem_map_of_mem (f := Comparand.bound) isComparand
    rw [← stand.values] at isBound
    obtain ⟨token, isToken, binds⟩ := List.mem_filterMap.mp isBound
    obtain ⟨before, after, split⟩ := List.append_of_mem isToken
    cases token <;> cases binds
    obtain ⟨_, _, plain⟩ := plainly before _ after split
    have equal := (Comparand.isBindable_bound (writable_comparands writable _ isComparand)).mp
      plain.bindable
    by_contra container
    cases equal (by simpa using container)
  · intro orders before value after split
    obtain ⟨comparand, found, rfl, stands⟩ := stand.places before value after split
    have member := List.mem_of_getElem? found
    have equal := equal_of_ordersScalars orders comparand member
    have canBeWritten := writable_comparands writable comparand member
    have bindable := (Comparand.isBindable_bound canBeWritten).mpr equal
    exact ⟨comparand, found, stands.isPlain bindable equal⟩

/-- Truth values, lists, objects and members of several types, at several depths. -/
theorem binds_plainly_nested :
    let filter : Value := .object
      [ ("$or", .list [.object [("a", .object [("$nin", .list [.bool true, .list [.text "y"]])])],
          .object [("b", .object [("not", .object [("$gte", .text "x")])])]]),
        ("c", .object [("$ne", .object [("d", .null)])]) ]
    ∃ text log tokens, (compile .mysql true filter).Returns [] text log ∧
      tokens? .mysql (text.getD []) = some tokens ∧
      tokens.filterMap Lexeme.bound? = clauseParams text ∧
      clauseParams text =
        [.text "true", .text "[\"y\"]", .text "x", .text "\x7b\"d\": null\x7d"] ∧
      BindsPlainly .mysql (comparands filter) tokens := by
  intro filter
  have compiled : (compile .mysql true filter).Returns [] _ _ := rfl
  have writable : Json.obstacle? filter = none := by decide +kernel
  obtain ⟨tokens, cut, params, plainly⟩ := binds_plainly_iff writable compiled
  refine ⟨_, _, tokens, compiled, cut, params, rfl, plainly.mpr ?_⟩
  intro path comparison operand member
  have only : comparisons filter =
      [ .equals "a" (.bool true), .sameJson "a" (.list [.text "y"]),
        .ordered "b" .greaterOrEqual (.text "x"), .sameJson "c" (.object [("d", .null)]) ] := rfl
  rw [only] at member
  simp only [List.mem_cons, List.not_mem_nil, or_false, reduceCtorEq, false_or,
    FieldTest.ordered.injEq] at member
  obtain ⟨-, -, rfl⟩ := member
  rfl

/-- A list that a field is to be greater than is bound as it is. -/
theorem binds_list_of_range :
    ∃ text log, (compile .postgres false
        (.object [("a", .object [("$gt", .list [.int 1])])])).Returns [] text log ∧
      clauseParams text = [.list [.int 1]] ∧
      ∃ value ∈ clauseParams text, value.isBindable = false :=
  ⟨_, _, rfl, rfl, _, List.mem_singleton.mpr rfl, rfl⟩

end Filter

end DocStore
