import DocStore.Proofs.Alignment.Expression
import DocStore.Proofs.FilterLeaves
import DocStore.Proofs.OperandValues

/-!
# The order of parameters

A filter binds the operands of its comparisons in the order in which the comparisons stand
in it, after what was bound before.  The comparisons stand in its clause in the same
order, with nothing bound between them, so the placeholders of a clause stand where
their values are compared.  Nothing of this depends on the dialect.
-/

namespace DocStore

open Sql Fragment

namespace Filter

/-- The comparisons of a filter that contribute, depth first and from left to right. -/
def comparisons (filter : Value) : List FieldTest := (leaves filter).filterMap FilterLeaf.test?

/-- The operands of the comparisons of a filter, as they are bound. -/
def operands (filter : Value) : List Value := (comparisons filter).flatMap FieldTest.operands

end Filter

namespace FieldTest.Inherits

variable {ofValue : Value → Prop} {ofTest : FieldTest → Prop}

/-- What holds of the values in a filter passes to its comparisons. -/
theorem comparisons (inherits : Inherits ofValue ofTest) {filter : Value}
    (holds : ofValue filter) : ∀ test ∈ Filter.comparisons filter, ofTest test := by
  intro test member
  obtain ⟨leaf, isLeaf, isTest⟩ := List.mem_filterMap.mp member
  have compares := inherits.leaves filter holds leaf isLeaf
  cases leaf <;> cases isTest
  exact compares

end FieldTest.Inherits

/-! ## What is bound -/

def FilterEvent.bound? : FilterEvent → Option Value
  | .bind value => some value
  | _ => none

namespace Filter

variable {strict : Bool}

theorem failure_follow_eq_none_iff {events : List FilterEvent} :
    (follow strict events).failure = none ↔ ∀ event ∈ events, ending? strict event = none := by
  rw [failure_follow, List.findSome?_eq_none_iff]

theorem writable_of_failure_follow {events : List FilterEvent}
    (returns : (follow strict events).failure = none) : Writable events := by
  intro fault member
  cases failure_follow_eq_none_iff.mp returns _ member

/-- A compilation that does not end early binds all values in their order. -/
theorem bound_follow {events : List FilterEvent}
    (returns : (follow strict events).failure = none) :
    (follow strict events).bound = events.filterMap FilterEvent.bound? := by
  induction events with
  | nil => rfl
  | cons event events ih =>
      obtain ⟨goesOn, others⟩ := List.forall_mem_cons.mp (failure_follow_eq_none_iff.mp returns)
      have rest := ih (failure_follow_eq_none_iff.mpr others)
      cases event with
      | bind value => simp [follow, FilterEvent.bound?, rest]
      | unwritable fault => cases goesOn
      | note note =>
          rw [List.filterMap_cons_none rfl, ← rest]
          cases strict <;> cases refused : note.refusal? <;>
            simp_all [follow, ending?]

end Filter

/-- A comparison that can be written binds its operands. -/
theorem FieldTest.bound_events {test : FieldTest} (writable : Filter.Writable test.events) :
    test.events.filterMap FilterEvent.bound? = test.operands := by
  cases test with
  | sameJson path operand =>
      unfold Filter.Writable at writable
      cases obstacle : Json.obstacle? operand <;>
        simp_all [events, operands, Json.encode, FilterEvent.bound?]
  | oneOf path type operands =>
      simp [events, FieldTest.operands, FilterEvent.bound?, Function.comp_def]
  | _ => rfl

theorem FilterLeaf.bound_events {leaves : List FilterLeaf}
    (writable : Filter.Writable (leaves.flatMap FilterLeaf.events)) :
    (leaves.flatMap FilterLeaf.events).filterMap FilterEvent.bound? =
      (leaves.filterMap FilterLeaf.test?).flatMap FieldTest.operands := by
  induction leaves with
  | nil => rfl
  | cons leaf leaves ih =>
      rw [List.flatMap_cons, Filter.writable_append] at writable
      rw [List.flatMap_cons, List.filterMap_append, ih writable.2]
      cases leaf with
      | test fieldTest =>
          change _ = fieldTest.operands ++ _
          rw [← FieldTest.bound_events writable.1]
          rfl
      | note filterNote => rfl

theorem Filter.bound_trail {strict : Bool} {filter : Value}
    (returns : (trail strict filter).failure = none) :
    (trail strict filter).bound = operands filter := by
  rw [trail_eq_follow_leaves] at returns ⊢
  rw [bound_follow returns, FilterLeaf.bound_events (writable_of_failure_follow returns)]
  rfl

/-! ## Where the comparisons stand -/

theorem FieldTest.params_fragment (dialect : Dialect) (test : FieldTest) :
    (test.fragment dialect).params = test.operands := by
  cases test with
  | absent path => cases dialect <;> simp [fragment, operands, Dialect.isNull, params_cons,
      params_append, Piece.bound?]
  | present path => cases dialect <;> simp [fragment, operands, Dialect.isNotNull, params_cons,
      params_append, Piece.bound?]
  | oneOf path type operands =>
      have singly : (operands.map fun operand => [operand.boundForm]).flatten =
          operands.map Value.boundForm := by
        rw [← List.flatMap_def, List.map_eq_flatMap]
      simp [fragment, FieldTest.operands, params_cons, params_append, params_joined, Piece.bound?,
        Function.comp_def, singly]
  | _ => simp [fragment, operands, params_cons, params_append, Piece.bound?]

namespace Sql.Fragment

/-- Some comparisons stand in a text in their order, and nothing is bound between them. -/
inductive Holds (dialect : Dialect) : List FieldTest → Fragment → Prop where
  | plain {text : Fragment} (unbound : text.params = []) : Holds dialect [] text
  | comparison {between text : Fragment} {test : FieldTest} {tests : List FieldTest}
      (unbound : between.params = []) (rest : Holds dialect tests text) :
      Holds dialect (test :: tests) (between ++ (test.fragment dialect ++ text))

/-- A text that may be missing; then there are no comparisons. -/
def Holds? (dialect : Dialect) (tests : List FieldTest) (text? : Option Fragment) : Prop :=
  text?.elim (tests = []) (Holds dialect tests)

namespace Holds

variable {dialect : Dialect} {tests others : List FieldTest} {text other : Fragment}

theorem prepend {front : Fragment} (unbound : front.params = [])
    (holds : Holds dialect tests text) : Holds dialect tests (front ++ text) := by
  cases holds with
  | plain textUnbound => exact .plain (by rw [params_append, unbound, textUnbound, List.nil_append])
  | comparison betweenUnbound rest =>
      rw [← List.append_assoc]
      exact .comparison (by rw [params_append, unbound, betweenUnbound, List.nil_append]) rest

theorem append (holds : Holds dialect tests text) (holdsOthers : Holds dialect others other) :
    Holds dialect (tests ++ others) (text ++ other) := by
  induction holds with
  | plain unbound => exact holdsOthers.prepend unbound
  | comparison unbound rest ih =>
      rw [List.append_assoc, List.append_assoc]
      exact .comparison unbound ih

theorem of_test (test : FieldTest) : Holds dialect [test] (test.fragment dialect) := by
  have single : Holds dialect [test] ([] ++ (test.fragment dialect ++ [])) :=
    .comparison rfl (.plain rfl)
  rwa [List.nil_append, List.append_nil] at single

/-- A text between two fixed texts. -/
theorem between {front back : String} (holds : Holds dialect tests text) :
    Holds dialect tests (.raw front :: (text ++ [.raw back])) := by
  have around := (holds.append (.plain (rfl : params [.raw back] = []))).prepend
    (rfl : params [.raw front] = [])
  rwa [List.append_nil] at around

theorem joined {separator : String} {groups : List (List FieldTest)} {texts : List Fragment}
    (holds : List.Forall₂ (Holds dialect) groups texts) :
    Holds dialect groups.flatten (joined separator texts) := by
  induction holds with
  | nil => exact .plain rfl
  | cons first rest ih =>
      cases rest with
      | nil => simpa [Fragment.joined] using first
      | cons second others =>
          exact first.append (ih.prepend (rfl : params [.raw separator] = []))

/-- The values in a text are the operands of its comparisons. -/
theorem params_eq (holds : Holds dialect tests text) :
    text.params = tests.flatMap FieldTest.operands := by
  induction holds with
  | plain unbound => exact unbound
  | comparison unbound rest ih =>
      rw [params_append, params_append, unbound, FieldTest.params_fragment, ih, List.nil_append,
        List.flatMap_cons]

/-- Each comparison has its own place in the text, after those before it. -/
theorem split {before after : List FieldTest} {test : FieldTest}
    (holds : Holds dialect tests text) (isSplit : tests = before ++ test :: after) :
    ∃ left right, text = left ++ (test.fragment dialect ++ right) ∧
      Holds dialect before left ∧ Holds dialect after right := by
  induction holds generalizing before with
  | plain unbound => simp at isSplit
  | @comparison between text first tests unbound rest ih =>
      cases before with
      | nil =>
          cases isSplit
          exact ⟨between, text, rfl, .plain unbound, rest⟩
      | cons earlier before =>
          cases isSplit
          obtain ⟨left, right, rfl, holdsBefore, holdsAfter⟩ := ih rfl
          refine ⟨between ++ (first.fragment dialect ++ left), right, by simp, ?_, holdsAfter⟩
          exact .comparison unbound holdsBefore

theorem between? {text? : Option Fragment} (front back : String)
    (holds : Holds? dialect tests text?) :
    Holds? dialect tests (text?.map fun text => .raw front :: (text ++ [.raw back])) := by
  cases text? with
  | none => exact holds
  | some text => exact Holds.between holds

theorem joined? {groups : List (List FieldTest)} {texts : List Fragment} (separator : String) :
    List.Forall₂ (Holds dialect) groups texts →
      Holds? dialect groups.flatten (match texts with
        | [] => none
        | texts => some (Fragment.joined separator texts)) := by
  intro holds
  cases holds with
  | nil => rfl
  | cons first rest => exact Holds.joined (.cons first rest)

end Holds

end Sql.Fragment

namespace Condition

variable (dialect : Dialect)

/-- The comparisons of a condition. -/
def comparisons (condition : Condition) : List FieldTest :=
  condition.leaves.filterMap FilterLeaf.test?

mutual

/-- The comparisons of a condition stand in its text; without a text there are none. -/
theorem holds_fragment? :
    (condition : Condition) →
      Holds? dialect condition.comparisons (condition.fragment? dialect)
  | .test fieldTest => Holds.of_test fieldTest
  | .note filterNote => rfl
  | .enclosed inner => by
      rw [fragment?]
      exact Holds.between? "(" ")" (holds_fragment? inner)
  | .negation inner => by
      rw [fragment?]
      exact Holds.between? "NOT COALESCE((" "), FALSE)" (holds_fragment? inner)
  | .conjunction parts => by
      obtain ⟨groups, holds, areComparisons⟩ := holds_fragments parts
      rw [fragment?, comparisons, leaves, ← areComparisons]
      exact Holds.joined? " AND " holds
  | .disjunction parts => by
      obtain ⟨groups, holds, areComparisons⟩ := holds_fragments parts
      rw [fragment?, comparisons, leaves, ← areComparisons]
      exact Holds.joined? " OR " holds

theorem holds_fragments :
    (parts : List Condition) →
      ∃ groups, List.Forall₂ (Holds dialect) groups (fragments dialect parts) ∧
        groups.flatten = (leavesList parts).filterMap FilterLeaf.test?
  | [] => ⟨[], .nil, rfl⟩
  | part :: parts => by
      have first := holds_fragment? part
      obtain ⟨groups, holds, areComparisons⟩ := holds_fragments parts
      rw [leavesList, List.filterMap_append, ← areComparisons, fragments]
      cases written : part.fragment? dialect with
      | none =>
          rw [written] at first
          refine ⟨groups, holds, ?_⟩
          change groups.flatten = part.comparisons ++ groups.flatten
          rw [first, List.nil_append]
      | some text =>
          rw [written] at first
          exact ⟨part.comparisons :: groups, .cons first holds, rfl⟩

end

end Condition

namespace Filter

theorem comparisons_condition (filter : Value) :
    (condition filter).comparisons = comparisons filter := by
  rw [Condition.comparisons, leaves_condition, comparisons]

/-- The comparisons of a filter stand in the text of its condition. -/
theorem holds_comparisons (dialect : Dialect) (filter : Value) :
    Holds dialect (comparisons filter) (((condition filter).fragment? dialect).getD []) := by
  have holds := (condition filter).holds_fragment? dialect
  rw [comparisons_condition] at holds
  cases written : (condition filter).fragment? dialect with
  | none =>
      rw [written] at holds
      rw [show comparisons filter = [] from holds]
      exact .plain rfl
  | some text =>
      rw [written] at holds
      exact holds

theorem percentFree_condition (dialect : Dialect) (filter : Value) :
    PercentFree (((condition filter).fragment? dialect).getD []) := by
  cases written : (condition filter).fragment? dialect with
  | none => exact percentFree_nil
  | some text => exact Condition.percentFree_fragment? dialect _ written

/-- The values bound so far after a compilation, or its error. -/
def parameters (dialect : Dialect) (strict : Bool) (filter : Value) (values : List Value)
    (entries : List LogEntry) : Except Failure (List Value) :=
  let (compiled, collected) := (build dialect strict filter).run values
  (compiled.after entries).1.map fun _ => collected

/-- After a compilation that returns, the operands of the comparisons follow what was bound
before, in the order of the filter, and these are the parameters of the clause.  Each
comparison has its own place in the clause: before it stand as many placeholders as the
earlier comparisons have operands, and in it as many as it has itself.  Both dialects
come to the same values or to the same error. -/
theorem build_binds_in_order (strict : Bool) (filter : Value) (values : List Value)
    (entries : List LogEntry) :
    (∀ dialect text log,
      ((build dialect strict filter).run values).1.Returns entries text log →
        ((build dialect strict filter).run values).2 = values ++ operands filter ∧
        clauseParams text = operands filter ∧
        placeholders? (clause dialect text).toList = some (operands filter).length ∧
        ∀ before test after, comparisons filter = before ++ test :: after →
          ∃ left right,
            clause dialect text = left ++ (test.fragment dialect).render dialect ++ right ∧
            placeholders? left.toList = some (before.flatMap FieldTest.operands).length ∧
            placeholders? ((test.fragment dialect).render dialect).toList =
              some test.operands.length ∧
            placeholders? right.toList = some (after.flatMap FieldTest.operands).length) ∧
    parameters .postgres strict filter values entries =
      parameters .mysql strict filter values entries := by
  constructor
  · intro dialect text log returned
    obtain ⟨returns, rfl, _⟩ := compile_returns_iff.mp returned
    have holds := holds_comparisons dialect filter
    have free := percentFree_condition dialect filter
    refine ⟨congrArg (values ++ ·) (bound_trail returns), holds.params_eq, ?_, ?_⟩
    · rw [clause, placeholders?_render dialect free, holds.params_eq, operands]
    · intro before test after isSplit
      obtain ⟨left, right, whole, holdsBefore, holdsAfter⟩ := holds.split isSplit
      rw [clause, whole]
      rw [whole, percentFree_append, percentFree_append] at free
      obtain ⟨leftFree, testFree, rightFree⟩ := free
      refine ⟨left.render dialect, right.render dialect, ?_, ?_, ?_, ?_⟩
      · rw [render_append, render_append, String.append_assoc]
      · rw [placeholders?_render dialect leftFree, holdsBefore.params_eq]
      · rw [placeholders?_render dialect testFree, FieldTest.params_fragment]
      · rw [placeholders?_render dialect rightFree, holdsAfter.params_eq]
  · have outcomes := after_compile .postgres strict filter entries
    have others := after_compile .mysql strict filter entries
    change Except.map _ ((compile .postgres strict filter).after entries).1 =
      Except.map _ ((compile .mysql strict filter).after entries).1
    rw [outcomes, others]
    cases (trail strict filter).failure <;> rfl

/-- A disjunction before a field, after a value that was bound before. -/
theorem build_binds_in_order_disjunction :
    let filter : Value := .object
      [ ("$or", .list [.object [("a", .bool true)],
          .object [("b", .object [("$in", .list [.int 1, .null, .text "x"])])]]),
        ("c", .object [("$ne", .list [.text "y"]), ("gte", .int 5)]) ]
    ∃ text log,
      ((build .mysql true filter).run [.text "first"]).1.Returns [] text log ∧
      ((build .mysql true filter).run [.text "first"]).2 =
        [.text "first", .text "true", .int 1, .text "x", .text "[\"y\"]", .int 5] ∧
      ∃ left right,
        clause .mysql text = left ++ ((FieldTest.ordered "c" .greaterOrEqual (.int 5)).fragment
          .mysql).render .mysql ++ right ∧
        placeholders? left.toList = some 4 := by
  intro filter
  have returned : ((build .mysql true filter).run [.text "first"]).1.Returns [] _ _ := rfl
  obtain ⟨collected, _, _, places⟩ :=
    (build_binds_in_order true filter [.text "first"] []).1 .mysql _ _ returned
  obtain ⟨left, right, whole, count, _⟩ := places
    [.equals "a" (.bool true), .equals "b" (.int 1), .absent "b", .equals "b" (.text "x"),
      .sameJson "c" (.list [.text "y"])] (.ordered "c" .greaterOrEqual (.int 5)) [] rfl
  exact ⟨_, _, returned, collected, left, right, whole, count⟩

end Filter

end DocStore
