import DocStore.Proofs.Clause.FieldTest

/-!
# Reading compiled filters

Each part of a filter compiles to a text that is read as its verdict, or to no
text where the verdict is missing.  The induction is on the filter; a text is a
conjunction everywhere but directly in parentheses, where it may be a disjunction.
-/

namespace DocStore

open Sql Sql.Fragment

/-- Texts with a separator between them, or nothing if there are none. -/
def Sql.Fragment.joined? (separator : String) : List Fragment → Option Fragment
  | [] => none
  | texts => some (joined separator texts)

/-- A text that may be missing agrees with a verdict that may be: both are missing,
or the text is read as what the verdict says. -/
def Agrees (dialect : Dialect) (isRead : (Valuation → Prop) → Fragment → Prop)
    (text : Option Fragment) (verdict : FieldValuation → Verdict) : Prop :=
  match text with
  | none => ∀ fields, verdict fields = none
  | some text => ∃ accepts : FieldValuation → Bool,
      (∀ fields, verdict fields = some (accepts fields)) ∧
        isRead (fun valuation => accepts (valuation.onFields dialect) = true) text

namespace Agrees

variable {dialect : Dialect} {text : Option Fragment} {texts : List Fragment}
  {verdict verdicts : FieldValuation → Verdict}

theorem congr {isRead : (Valuation → Prop) → Fragment → Prop}
    (agrees : Agrees dialect isRead text verdict) (same : ∀ fields, verdict fields = verdicts fields) :
    Agrees dialect isRead text verdicts := by
  have equal : verdict = verdicts := funext same
  rwa [← equal]

theorem disjoined (agrees : Agrees dialect (IsConjoined dialect) text verdict) :
    Agrees dialect (IsDisjoined dialect) text verdict := by
  cases text with
  | none => exact agrees
  | some text =>
      obtain ⟨accepts, decided, conjoined⟩ := agrees
      exact ⟨accepts, decided, conjoined.disjoined⟩

theorem parenthesised (agrees : Agrees dialect (IsDisjoined dialect) text verdict) :
    Agrees dialect (IsConjoined dialect) (text.map Fragment.parenthesised) verdict := by
  cases text with
  | none => exact agrees
  | some text =>
      obtain ⟨accepts, decided, disjoined⟩ := agrees
      exact ⟨accepts, decided, disjoined.parenthesised⟩

theorem negated (agrees : Agrees dialect (IsDisjoined dialect) text verdict) :
    Agrees dialect (IsConjoined dialect)
      (text.map fun text => .raw "NOT COALESCE((" :: (text ++ [.raw "), FALSE)"]))
      (fun fields => (verdict fields).opposite) := by
  cases text with
  | none =>
      intro fields
      simp [agrees fields, Verdict.opposite]
  | some text =>
      obtain ⟨accepts, decided, disjoined⟩ := agrees
      refine ⟨fun fields => !accepts fields, ?_, ?_⟩
      · intro fields
        simp [decided fields, Verdict.opposite]
      · exact disjoined.negated.congr fun valuation => by simp

theorem cons_and (first : Agrees dialect (IsConjoined dialect) text verdict)
    (rest : Agrees dialect (IsConjoined dialect) (joined? " AND " texts) verdicts) :
    Agrees dialect (IsConjoined dialect) (joined? " AND " (text.toList ++ texts))
      (fun fields => (verdict fields).both (verdicts fields)) := by
  cases text with
  | none =>
      have same : (fun fields => (verdict fields).both (verdicts fields)) = verdicts := by
        funext fields
        rw [first fields, Verdict.both]
      rw [same]
      exact rest
  | some text =>
      obtain ⟨accepts, decided, conjoined⟩ := first
      cases texts with
      | nil =>
          refine ⟨accepts, ?_, conjoined⟩
          intro fields
          have missing : verdicts fields = none := rest fields
          simp only [decided fields, missing, Verdict.both]
      | cons next texts =>
          obtain ⟨restAccepts, restDecided, restConjoined⟩ := rest
          refine ⟨fun fields => accepts fields && restAccepts fields, ?_, ?_⟩
          · intro fields
            simp only [decided fields, restDecided fields, Verdict.both]
          · exact (conjoined.and restConjoined).congr fun valuation => by simp

theorem cons_or (first : Agrees dialect (IsDisjoined dialect) text verdict)
    (rest : Agrees dialect (IsDisjoined dialect) (joined? " OR " texts) verdicts) :
    Agrees dialect (IsDisjoined dialect) (joined? " OR " (text.toList ++ texts))
      (fun fields => (verdict fields).either (verdicts fields)) := by
  cases text with
  | none =>
      have same : (fun fields => (verdict fields).either (verdicts fields)) = verdicts := by
        funext fields
        rw [first fields, Verdict.either]
      rw [same]
      exact rest
  | some text =>
      obtain ⟨accepts, decided, disjoined⟩ := first
      cases texts with
      | nil =>
          refine ⟨accepts, ?_, disjoined⟩
          intro fields
          have missing : verdicts fields = none := rest fields
          simp only [decided fields, missing, Verdict.either]
      | cons next texts =>
          obtain ⟨restAccepts, restDecided, restDisjoined⟩ := rest
          refine ⟨fun fields => accepts fields || restAccepts fields, ?_, ?_⟩
          · intro fields
            simp only [decided fields, restDecided fields, Verdict.either]
          · exact (disjoined.or restDisjoined).congr fun valuation => by simp

end Agrees

namespace Condition

variable (dialect : Dialect)

theorem fragments_cons (part : Condition) (parts : List Condition) :
    fragments dialect (part :: parts) =
      (part.fragment? dialect).toList ++ fragments dialect parts := by
  rw [fragments]
  cases part.fragment? dialect <;> rfl

theorem fragment?_conjunction (parts : List Condition) :
    (conjunction parts).fragment? dialect = joined? " AND " (fragments dialect parts) := by
  rw [fragment?]
  cases fragments dialect parts <;> rfl

theorem fragment?_disjunction (parts : List Condition) :
    (disjunction parts).fragment? dialect = joined? " OR " (fragments dialect parts) := by
  rw [fragment?]
  cases fragments dialect parts <;> rfl

variable {dialect}

theorem agrees_test (test : FieldTest) (suited : test.Suited) {verdict : FieldValuation → Bool}
    (same : ∀ fields, verdict fields = test.passes fields) :
    Agrees dialect (IsConjoined dialect) ((Condition.test test).fragment? dialect)
      (fun fields => some (verdict fields)) := by
  rw [fragment?]
  refine ⟨verdict, fun _ => rfl, ?_⟩
  exact (FieldTest.isConjoined_fragment dialect suited).congr fun valuation => by rw [same]

theorem agrees_equality (path : String) (operand : Value) :
    Agrees dialect (IsConjoined dialect) ((equality path operand).fragment? dialect)
      (fun fields => some (fields.equals path operand)) := by
  cases operand with
  | null => exact agrees_test (.absent path) trivial fun _ => rfl
  | list items => exact agrees_test (.sameJson path (.list items)) rfl fun _ => rfl
  | object members => exact agrees_test (.sameJson path (.object members)) rfl fun _ => rfl
  | bool flag => exact agrees_test (.equals path (.bool flag)) rfl fun _ => rfl
  | int number => exact agrees_test (.equals path (.int number)) rfl fun _ => rfl
  | float number => exact agrees_test (.equals path (.float number)) rfl fun _ => rfl
  | decimal number => exact agrees_test (.equals path (.decimal number)) rfl fun _ => rfl
  | bytes content => exact agrees_test (.equals path (.bytes content)) rfl fun _ => rfl
  | text content => exact agrees_test (.equals path (.text content)) rfl fun _ => rfl

theorem agrees_inequality (path : String) (operand : Value) :
    Agrees dialect (IsConjoined dialect) ((inequality path operand).fragment? dialect)
      (fun fields => some (!fields.equals path operand)) := by
  unfold inequality
  split
  · exact agrees_test (.present path) trivial fun _ => rfl
  · rw [fragment?]
    exact (agrees_equality path operand).disjoined.negated

/-- The type that operands share is the type of each. -/
theorem jsonType?_of_commonType? {operands : List Value} {type : JsonType}
    (common : commonType? operands = some type) :
    operands ≠ [] ∧ ∀ operand ∈ operands, operand.jsonType? = some type := by
  unfold commonType? at common
  split at common
  · cases common
  · rename_i first rest
    obtain ⟨shared, firstType, rest⟩ := Option.bind_eq_some_iff.mp common
    split at rest
    · rename_i allShared
      cases rest
      simp only [List.all_eq_true, beq_iff_eq] at allShared
      exact ⟨by simp, List.forall_mem_cons.mpr ⟨firstType, allShared⟩⟩
    · cases rest

theorem agrees_equalities (path : String) (operands : List Value) :
    Agrees dialect (IsDisjoined dialect)
      (joined? " OR " (fragments dialect
        (operands.map fun operand => .enclosed (equality path operand))))
      (fun fields => if operands.isEmpty then none else some (fields.isMember path operands)) := by
  induction operands with
  | nil => exact fun _ => rfl
  | cons operand operands ih =>
      have first := (@agrees_equality dialect path operand).disjoined.parenthesised
      rw [List.map_cons, fragments_cons, fragment?]
      refine (first.disjoined.cons_or ih).congr fun fields => ?_
      cases operands <;> simp [FieldValuation.isMember, Verdict.either]

theorem agrees_membership (path : String) {operands : List Value} (someOperand : operands ≠ []) :
    Agrees dialect (IsDisjoined dialect) ((membership path operands).fragment? dialect)
      (fun fields => some (fields.isMember path operands)) := by
  unfold membership
  split
  · rename_i type common
    obtain ⟨_, typed⟩ := jsonType?_of_commonType? common
    refine (agrees_test (.oneOf path type operands) ⟨someOperand, typed⟩ fun fields => ?_).disjoined
    rw [FieldTest.passes, FieldValuation.isMember, Bool.eq_iff_iff, List.any_eq_true,
      List.any_eq_true]
    refine exists_congr fun operand => and_congr_right fun member => ?_
    cases operand with
    | null => cases typed .null member
    | _ => rfl
  · have equalities := @agrees_equalities dialect path operands
    rw [fragment?_disjunction]
    simpa [someOperand] using equalities

/-- A list of members, or of values outside; without a list nothing contributes. -/
theorem agrees_listed (path operator : String) (operand : Value) :
    Agrees dialect (IsConjoined dialect)
        ((listed path operator false operand).fragment? dialect)
        (fun fields => match operand.sequence? with
          | some operands => some (fields.isMember path operands)
          | none => none) ∧
      Agrees dialect (IsConjoined dialect)
        ((listed path operator true operand).fragment? dialect)
        (fun fields => match operand.sequence? with
          | some [] => none
          | some operands => some (!fields.isMember path operands)
          | none => none) := by
  unfold listed
  cases operand.sequence? with
  | none => exact ⟨fun _ => rfl, fun _ => rfl⟩
  | some operands =>
      cases operands with
      | nil =>
          refine ⟨?_, fun _ => rfl⟩
          have never : Agrees dialect (IsConjoined dialect)
              ((Condition.test .never).fragment? dialect)
              (fun fields => some (fields.isMember path [])) :=
            agrees_test .never trivial fun _ => rfl
          simpa [fragment?] using never.disjoined.parenthesised
      | cons first rest =>
          have members := @agrees_membership dialect path _ (List.cons_ne_nil first rest)
          refine ⟨?_, ?_⟩
          · simpa [fragment?] using members.parenthesised
          · simpa [fragment?, Verdict.opposite] using members.negated.disjoined.parenthesised

end Condition

namespace Filter

variable (dialect : Dialect)

theorem agrees_enclosed (path : String) (operand : Value) :
    Agrees dialect (IsConjoined dialect)
      ((Condition.enclosed (Condition.equality path operand)).fragment? dialect)
      (fun fields => some (fields.equals path operand)) := by
  rw [Condition.fragment?]
  exact (Condition.agrees_equality path operand).disjoined.parenthesised

mutual

/-- The text of a field and what stands below it agrees with the verdict on it. -/
theorem agrees_fieldCondition (path : String) :
    (operand : Value) →
      Agrees dialect (IsConjoined dialect) ((fieldCondition path operand).fragment? dialect)
        (fun fields => fieldVerdict none fields path operand)
  | .object operators => by
      simpa only [fieldCondition, fieldVerdict, Condition.fragment?_conjunction] using
        agrees_operatorConditions path operators
  | .null => agrees_enclosed dialect path .null
  | .bool flag => agrees_enclosed dialect path (.bool flag)
  | .int number => agrees_enclosed dialect path (.int number)
  | .float number => agrees_enclosed dialect path (.float number)
  | .decimal number => agrees_enclosed dialect path (.decimal number)
  | .bytes content => agrees_enclosed dialect path (.bytes content)
  | .text content => agrees_enclosed dialect path (.text content)
  | .list items => agrees_enclosed dialect path (.list items)

theorem agrees_operatorConditions (path : String) :
    (operators : List (Key × Value)) →
      Agrees dialect (IsConjoined dialect)
        (joined? " AND " (Condition.fragments dialect (operatorConditions path operators)))
        (fun fields => operatorsVerdict none fields path operators)
  | [] => fun _ => rfl
  | (key, operand) :: operators => by
      have rest := agrees_operatorConditions path operators
      have inner := agrees_fieldCondition path operand
      rw [operatorConditions, Condition.fragments_cons]
      simp only [operatorsVerdict]
      refine Agrees.cons_and ?_ rest
      cases FieldOperator.ofKey? key.shown with
      | none => exact fun _ => rfl
      | some operator =>
          cases operator with
          | equal => exact agrees_enclosed dialect path operand
          | unequal =>
              rw [Condition.fragment?]
              exact (Condition.agrees_inequality path operand).disjoined.parenthesised
          | ordered comparison =>
              have compares : Agrees dialect (IsConjoined dialect)
                  ((Condition.test (.ordered path comparison operand)).fragment? dialect)
                  (fun fields => some (fields.satisfies path (.ordered comparison) operand)) :=
                Condition.agrees_test (.ordered path comparison operand) trivial fun _ => rfl
              rw [Condition.fragment?]
              exact compares.disjoined.parenthesised
          | oneOf => exact (Condition.agrees_listed path _ operand).1
          | noneOf => exact (Condition.agrees_listed path _ operand).2
          | not =>
              rw [Condition.fragment?, Condition.fragment?]
              exact inner.disjoined.negated.disjoined.parenthesised

end

theorem agrees_unrecognised (key : String) (value : Value) :
    Agrees dialect (IsConjoined dialect) ((unrecognised key value).fragment? dialect)
      (fun fields => namedVerdict none fields key value) := by
  unfold unrecognised namedVerdict
  split
  · exact fun _ => rfl
  · exact agrees_fieldCondition dialect key value

mutual

/-- The text of a filter agrees with the verdict on it. -/
theorem agrees_condition :
    (filter : Value) →
      Agrees dialect (IsConjoined dialect) ((condition filter).fragment? dialect)
        (fun fields => verdict none fields filter)
  | .object entries => by
      simpa only [condition, verdict, Condition.fragment?_conjunction] using
        agrees_entryConditions entries
  | .null => fun _ => by simp [verdict]
  | .bool flag => fun _ => by simp [verdict]
  | .int number => fun _ => by simp [verdict]
  | .float number => fun _ => by simp [verdict]
  | .decimal number => fun _ => by simp [verdict]
  | .bytes content => fun _ => by simp [verdict]
  | .text content => fun _ => by simp [verdict]
  | .list items => fun _ => by simp [verdict]

theorem agrees_entryConditions :
    (entries : List (Key × Value)) →
      Agrees dialect (IsConjoined dialect)
        (joined? " AND " (Condition.fragments dialect (entryConditions entries)))
        (fun fields => entriesVerdict none fields entries)
  | [] => fun _ => by simp [entriesVerdict]
  | (key, value) :: entries => by
      have rest := agrees_entryConditions entries
      have inner := agrees_condition value
      have parts := agrees_subconditions value
      have named := agrees_unrecognised dialect key.shown value
      rw [entryConditions, Condition.fragments_cons]
      simp only [entriesVerdict]
      refine Agrees.cons_and ?_ rest
      cases Combinator.ofKey? key.shown with
      | none => exact named
      | some combinator =>
          cases combinator with
          | and =>
              by_cases sequence : value.sequence?.isSome = true
              · simp only [sequence, if_true, Condition.fragment?]
                exact parts.1.disjoined.parenthesised
              · simp only [sequence]
                exact named
          | or =>
              by_cases sequence : value.sequence?.isSome = true
              · simp only [sequence, if_true, Condition.fragment?]
                exact parts.2.parenthesised
              · simp only [sequence]
                exact named
          | not =>
              by_cases isObject : value.isObject = true
              · simp only [isObject, if_true, Condition.fragment?]
                exact inner.disjoined.negated
              · simp only [isObject]
                exact named

theorem agrees_subconditions :
    (value : Value) →
      Agrees dialect (IsConjoined dialect)
          (joined? " AND " (Condition.fragments dialect (subconditions value)))
          (fun fields => allVerdict none fields value) ∧
        Agrees dialect (IsDisjoined dialect)
          (joined? " OR " (Condition.fragments dialect (subconditions value)))
          (fun fields => anyVerdict none fields value)
  | .list items => by
      simpa only [subconditions, allVerdict, anyVerdict] using agrees_itemConditions items
  | .null => ⟨fun _ => by simp [allVerdict], fun _ => by simp [anyVerdict]⟩
  | .bool flag => ⟨fun _ => by simp [allVerdict], fun _ => by simp [anyVerdict]⟩
  | .int number => ⟨fun _ => by simp [allVerdict], fun _ => by simp [anyVerdict]⟩
  | .float number => ⟨fun _ => by simp [allVerdict], fun _ => by simp [anyVerdict]⟩
  | .decimal number => ⟨fun _ => by simp [allVerdict], fun _ => by simp [anyVerdict]⟩
  | .bytes content => ⟨fun _ => by simp [allVerdict], fun _ => by simp [anyVerdict]⟩
  | .text content => ⟨fun _ => by simp [allVerdict], fun _ => by simp [anyVerdict]⟩
  | .object members => ⟨fun _ => by simp [allVerdict], fun _ => by simp [anyVerdict]⟩

theorem agrees_itemConditions :
    (items : List Value) →
      Agrees dialect (IsConjoined dialect)
          (joined? " AND " (Condition.fragments dialect (itemConditions items)))
          (fun fields => itemsAllVerdict none fields items) ∧
        Agrees dialect (IsDisjoined dialect)
          (joined? " OR " (Condition.fragments dialect (itemConditions items)))
          (fun fields => itemsAnyVerdict none fields items)
  | [] => ⟨fun _ => by simp [itemsAllVerdict], fun _ => by simp [itemsAnyVerdict]⟩
  | item :: items => by
      have rest := agrees_itemConditions items
      have first := (agrees_condition item).disjoined.parenthesised
      rw [itemConditions, Condition.fragments_cons, Condition.fragment?]
      simp only [itemsAllVerdict, itemsAnyVerdict]
      exact ⟨first.cons_and rest.1, first.disjoined.cons_or rest.2⟩

end

end Filter

end DocStore
