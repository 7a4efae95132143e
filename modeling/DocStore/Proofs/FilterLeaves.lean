import DocStore.Filter.Compile
import DocStore.Proofs.Json.Values
import DocStore.Proofs.Outcome

/-!
# Leaves of filters

The traversal of a filter goes through its entries from left to right and into every
sub-filter.  What it comes upon is either a comparison or an entry that contributes
nothing.  These leaves are read off the filter itself; the condition of the filter has
the same leaves in the same order, whatever it puts around them, and compiling the
filter does what its leaves call for, one after another.

A compilation returns the fragment of the condition unless it ends early, and ends with the
first failure of a leaf.  A lenient one ends only at an operand without a JSON text.  So a
filter of JSON compiles unless it compares a field, as JSON, with a list or an object in which
an integer has too many digits.
-/

namespace DocStore

/-! ## Trails -/

namespace Filter

/-- A compilation returns the fragment of the condition unless its trail ends
early. -/
theorem compile_returns_iff {dialect : Dialect} {strict : Bool} {filter : Value}
    {entries log : List LogEntry} {text : Option Sql.Fragment} :
    (compile dialect strict filter).Returns entries text log ↔
      (trail strict filter).failure = none ∧
        (condition filter).fragment? dialect = text ∧
          entries ++ (trail strict filter).log = log := by
  unfold Logged.Returns Logged.after compile
  cases ended : (trail strict filter).failure with
  | none => simp [ExceptT.run, StateT.run, ended]
  | some failure => simp [ExceptT.run, StateT.run, ended]

/-- The failure that an event ends a compilation with, if it ends it. -/
def ending? (strict : Bool) : FilterEvent → Option Failure
  | .bind _ => none
  | .unwritable fault => some (.fault fault)
  | .note note => if strict then note.refusal?.map .store else none

/-- A compilation ends at the first event that ends it, or returns the text of the
condition. -/
theorem after_compile (dialect : Dialect) (strict : Bool) (filter : Value)
    (entries : List LogEntry) :
    ((compile dialect strict filter).after entries).1 =
      match (trail strict filter).failure with
      | some failure => .error failure
      | none => .ok ((condition filter).fragment? dialect) := by
  unfold Logged.after compile
  cases ended : (trail strict filter).failure <;> simp [ExceptT.run, StateT.run, ended]

theorem failure_follow (strict : Bool) (events : List FilterEvent) :
    (follow strict events).failure = events.findSome? (ending? strict) := by
  induction events with
  | nil => rfl
  | cons event events ih =>
      cases event with
      | bind value => exact ih
      | unwritable fault => rfl
      | note note =>
          cases strict <;> cases refused : note.refusal? <;>
            simp [follow, ending?, refused, ih]

/-- Every operand that is written in a list of events has a JSON text. -/
def Writable (events : List FilterEvent) : Prop := ∀ fault, .unwritable fault ∉ events

/-- Writing an operand is all that ends a lenient compilation. -/
theorem failure_follow_lenient {events : List FilterEvent} (writable : Writable events) :
    (follow false events).failure = none := by
  induction events with
  | nil => rfl
  | cons event events ih =>
      have rest := ih fun fault member => writable fault (List.mem_cons_of_mem _ member)
      cases event with
      | bind value => simpa [follow] using rest
      | note note => simpa [follow] using rest
      | unwritable fault => exact absurd List.mem_cons_self (writable fault)

theorem writable_append {left right : List FilterEvent} :
    Writable (left ++ right) ↔ Writable left ∧ Writable right := by
  simp only [Writable, List.mem_append, not_or, forall_and]

/-! ## Entries of filters -/

/-- Whether a value is an operand of a combinator. -/
def takes : Combinator → Value → Bool
  | .and, value => value.sequence?.isSome
  | .or, value => value.sequence?.isSome
  | .not, value => value.isObject

/-- The combinator that an entry of a filter applies, if it applies one. -/
def combinator? (key : String) (value : Value) : Option Combinator :=
  (Combinator.ofKey? key).filter fun combinator => takes combinator value

/-- The condition of an entry. -/
def entryCondition (key : String) (value : Value) : Condition :=
  match combinator? key value with
  | some .and => .enclosed (.conjunction (subconditions value))
  | some .or => .enclosed (.disjunction (subconditions value))
  | some .not => .negation (condition value)
  | none => unrecognised key value

theorem entryConditions_cons (key : Key) (value : Value) (entries : List (Key × Value)) :
    entryConditions ((key, value) :: entries) =
      entryCondition key.shown value :: entryConditions entries := by
  rw [entryConditions, entryCondition, combinator?]
  cases Combinator.ofKey? key.shown with
  | none => rfl
  | some combinator =>
      cases combinator <;> simp only [Option.filter, takes] <;> split <;> simp [*]

theorem fieldCondition_of_isObject {value : Value} (noObject : value.isObject = false)
    (path : String) : fieldCondition path value = .enclosed (.equality path value) := by
  cases value with
  | object operators => cases noObject
  | _ => rfl

theorem combinator?_congr {left right : Value}
    (same : ∀ combinator, takes combinator left = takes combinator right) (key : String) :
    combinator? key left = combinator? key right := by
  simp only [combinator?, same]

end Filter

/-- What the traversal of a filter comes upon: a comparison, or an entry that
contributes nothing. -/
inductive FilterLeaf where
  | test (fieldTest : FieldTest)
  | note (filterNote : FilterNote)

namespace FilterLeaf

def test? : FilterLeaf → Option FieldTest
  | test fieldTest => some fieldTest
  | note _ => none

/-- The operator that a leaf reports as unknown. -/
def unknown? : FilterLeaf → Option String
  | note (.unsupported operator) => some operator
  | _ => none

def events : FilterLeaf → List FilterEvent
  | test fieldTest => fieldTest.events
  | note filterNote => [.note filterNote]

/-- The failure that a leaf ends a compilation with, if it ends it. -/
def ending? (strict : Bool) : FilterLeaf → Option Failure
  | test (.sameJson _ operand) => (Json.obstacle? operand).map .fault
  | test _ => none
  | note filterNote => if strict then filterNote.refusal?.map .store else none

theorem findSome?_events (strict : Bool) (leaf : FilterLeaf) :
    leaf.events.findSome? (Filter.ending? strict) = leaf.ending? strict := by
  cases leaf with
  | note filterNote =>
      rw [events, List.findSome?_singleton]
      rfl
  | test fieldTest =>
      cases fieldTest with
      | sameJson path operand =>
          rw [events, FieldTest.events, Json.encode, ending?]
          cases Json.obstacle? operand <;> rfl
      | oneOf path type operands => simp [events, FieldTest.events, Filter.ending?, ending?]
      | _ => rfl

end FilterLeaf

/-! ## Comparisons -/

namespace FieldTest

/-- The comparison of a field with a value that it equals. -/
def equality (path : String) : Value → FieldTest
  | .null => absent path
  | .list items => sameJson path (.list items)
  | .object members => sameJson path (.object members)
  | operand => equals path operand

/-- The comparison of a field with a value that it does not equal; the null test apart,
it is an equality under a negation. -/
def inequality (path : String) : Value → FieldTest
  | .null => present path
  | operand => equality path operand

/-- The comparisons of a field with the elements of a list: one with all of them if they
have one type, or else one with each. -/
def memberships (path : String) (operands : List Value) : List FieldTest :=
  match Condition.commonType? operands with
  | some type => [oneOf path type operands]
  | none => operands.map (equality path)

/-- The operands of a comparison as they are bound: truth values by their names, lists
and objects as JSON texts, and null not at all. -/
def operands : FieldTest → List Value
  | equals _ operand => [operand.boundForm]
  | ordered _ _ operand => [operand.boundForm]
  | sameJson _ operand => [.text (String.ofList (Json.write operand))]
  | oneOf _ _ operands => operands.map Value.boundForm
  | absent _ => []
  | present _ => []
  | never => []

end FieldTest

/-! ## Leaves of filters -/

namespace Filter

/-- The leaves of a membership in a list, or of one outside it.  Nothing is in the empty
list. -/
def listedLeaves (path operator : String) (negated : Bool) (operand : Value) : List FilterLeaf :=
  match operand.sequence? with
  | none => [.note (.notSequence operator path)]
  | some [] => if negated then [] else [.test .never]
  | some operands => (FieldTest.memberships path operands).map .test

mutual

/-- The leaves of what stands below a field. -/
def fieldLeaves (path : String) : Value → List FilterLeaf
  | .object operators => operatorLeaves path operators
  | operand => [.test (.equality path operand)]

def operatorLeaves (path : String) : List (Key × Value) → List FilterLeaf
  | [] => []
  | (key, operand) :: operators =>
      (match FieldOperator.ofKey? key.shown with
        | some .equal => [.test (.equality path operand)]
        | some .unequal => [.test (.inequality path operand)]
        | some (.ordered comparison) => [.test (.ordered path comparison operand)]
        | some .oneOf => listedLeaves path (canonicalKey key.shown) false operand
        | some .noneOf => listedLeaves path (canonicalKey key.shown) true operand
        | some .not => fieldLeaves path operand
        | none => [.note (.unsupported (canonicalKey key.shown))])
      ++ operatorLeaves path operators

end

/-- The leaves of an entry that applies no combinator. -/
def namedLeaves (key : String) (value : Value) : List FilterLeaf :=
  if hasDollar key then [.note (.unsupported key)] else fieldLeaves key value

mutual

/-- The leaves of a filter, depth first and from left to right. -/
def leaves : Value → List FilterLeaf
  | .object entries => entryLeaves entries
  | _ => []

def entryLeaves : List (Key × Value) → List FilterLeaf
  | [] => []
  | (key, value) :: entries =>
      (match combinator? key.shown value with
        | some .not => leaves value
        | some _ => partLeaves value
        | none => namedLeaves key.shown value)
      ++ entryLeaves entries

/-- The leaves of the sub-filters of a combinator. -/
def partLeaves : Value → List FilterLeaf
  | .list items => itemLeaves items
  | _ => []

def itemLeaves : List Value → List FilterLeaf
  | [] => []
  | item :: items => leaves item ++ itemLeaves items

end

end Filter

/-! ## Leaves of conditions -/

namespace Condition

mutual

def leaves : Condition → List FilterLeaf
  | test fieldTest => [.test fieldTest]
  | note filterNote => [.note filterNote]
  | enclosed inner => inner.leaves
  | negation inner => inner.leaves
  | conjunction parts => leavesList parts
  | disjunction parts => leavesList parts

def leavesList : List Condition → List FilterLeaf
  | [] => []
  | part :: parts => part.leaves ++ leavesList parts

end

mutual

/-- Compiling a condition does what its leaves call for, one after another. -/
theorem events_eq_flatMap_leaves :
    (condition : Condition) → condition.events = condition.leaves.flatMap FilterLeaf.events
  | .test fieldTest => by simp [events, leaves, FilterLeaf.events]
  | .note filterNote => by simp [events, leaves, FilterLeaf.events]
  | .enclosed inner => by rw [events, leaves, events_eq_flatMap_leaves inner]
  | .negation inner => by rw [events, leaves, events_eq_flatMap_leaves inner]
  | .conjunction parts => by rw [events, leaves, eventsList_eq_flatMap_leaves parts]
  | .disjunction parts => by rw [events, leaves, eventsList_eq_flatMap_leaves parts]

theorem eventsList_eq_flatMap_leaves :
    (parts : List Condition) → eventsList parts = (leavesList parts).flatMap FilterLeaf.events
  | [] => rfl
  | part :: parts => by
      rw [eventsList, leavesList, List.flatMap_append, events_eq_flatMap_leaves part,
        eventsList_eq_flatMap_leaves parts]

end

theorem equality_eq_test (path : String) (operand : Value) :
    equality path operand = .test (.equality path operand) := by
  cases operand <;> rfl

theorem leaves_equality (path : String) (operand : Value) :
    (equality path operand).leaves = [.test (.equality path operand)] := by
  rw [equality_eq_test, leaves]

theorem leaves_inequality (path : String) (operand : Value) :
    (inequality path operand).leaves = [.test (.inequality path operand)] := by
  cases operand <;> rfl

theorem leaves_membership (path : String) (operands : List Value) :
    (membership path operands).leaves = (FieldTest.memberships path operands).map .test := by
  have each : leavesList (operands.map fun operand => enclosed (equality path operand)) =
      (operands.map (FieldTest.equality path)).map .test := by
    induction operands with
    | nil => rfl
    | cons operand operands ih =>
        simp only [List.map_cons, leavesList, leaves, leaves_equality, ih, List.singleton_append]
  unfold membership FieldTest.memberships
  cases commonType? operands with
  | some type => rfl
  | none => exact each

theorem leaves_listed (path operator : String) (negated : Bool) (operand : Value) :
    (listed path operator negated operand).leaves =
      Filter.listedLeaves path operator negated operand := by
  unfold listed Filter.listedLeaves
  cases operand.sequence? with
  | none => rfl
  | some operands =>
      have members := leaves_membership path operands
      cases operands with
      | nil => cases negated <;> rfl
      | cons first rest => cases negated <;> exact members

end Condition

namespace Filter

mutual

theorem leaves_fieldCondition (path : String) :
    (value : Value) → (fieldCondition path value).leaves = fieldLeaves path value
  | .object operators => by
      rw [fieldCondition, Condition.leaves, fieldLeaves,
        leavesList_operatorConditions path operators]
  | .null => Condition.leaves_equality path .null
  | .bool flag => Condition.leaves_equality path (.bool flag)
  | .int number => Condition.leaves_equality path (.int number)
  | .float number => Condition.leaves_equality path (.float number)
  | .decimal number => Condition.leaves_equality path (.decimal number)
  | .bytes content => Condition.leaves_equality path (.bytes content)
  | .text content => Condition.leaves_equality path (.text content)
  | .list items => Condition.leaves_equality path (.list items)

theorem leavesList_operatorConditions (path : String) :
    (operators : List (Key × Value)) →
      Condition.leavesList (operatorConditions path operators) = operatorLeaves path operators
  | [] => rfl
  | (key, operand) :: operators => by
      have rest := leavesList_operatorConditions path operators
      have inner := leaves_fieldCondition path operand
      rw [operatorConditions, Condition.leavesList, operatorLeaves, rest]
      congr 1
      cases FieldOperator.ofKey? key.shown with
      | none => rfl
      | some operator =>
          cases operator with
          | equal => exact Condition.leaves_equality path operand
          | unequal => exact Condition.leaves_inequality path operand
          | ordered comparison => rfl
          | oneOf => exact Condition.leaves_listed path _ false operand
          | noneOf => exact Condition.leaves_listed path _ true operand
          | not => exact inner

end

theorem leaves_unrecognised (key : String) (value : Value) :
    (unrecognised key value).leaves = namedLeaves key value := by
  unfold unrecognised namedLeaves
  split
  · rfl
  · exact leaves_fieldCondition key value

mutual

/-- The condition of a filter has the leaves of the filter. -/
theorem leaves_condition : (filter : Value) → (condition filter).leaves = leaves filter
  | .object entries => by
      rw [condition, Condition.leaves, leaves, leavesList_entryConditions entries]
  | .null => rfl
  | .bool flag => rfl
  | .int number => rfl
  | .float number => rfl
  | .decimal number => rfl
  | .bytes content => rfl
  | .text content => rfl
  | .list items => rfl

theorem leavesList_entryConditions :
    (entries : List (Key × Value)) →
      Condition.leavesList (entryConditions entries) = entryLeaves entries
  | [] => rfl
  | (key, value) :: entries => by
      have rest := leavesList_entryConditions entries
      have inner := leaves_condition value
      have parts := leavesList_subconditions value
      rw [entryConditions_cons, Condition.leavesList, entryLeaves, rest, entryCondition]
      congr 1
      cases combinator? key.shown value with
      | none => exact leaves_unrecognised key.shown value
      | some combinator =>
          cases combinator with
          | and => exact parts
          | or => exact parts
          | not => exact inner

theorem leavesList_subconditions :
    (value : Value) → Condition.leavesList (subconditions value) = partLeaves value
  | .list items => by rw [subconditions, partLeaves, leavesList_itemConditions items]
  | .null => rfl
  | .bool flag => rfl
  | .int number => rfl
  | .float number => rfl
  | .decimal number => rfl
  | .bytes content => rfl
  | .text content => rfl
  | .object members => rfl

theorem leavesList_itemConditions :
    (items : List Value) → Condition.leavesList (itemConditions items) = itemLeaves items
  | [] => rfl
  | item :: items => by
      rw [itemConditions, Condition.leavesList, itemLeaves, Condition.leaves,
        leaves_condition item, leavesList_itemConditions items]

end

/-- A compilation follows the leaves of the filter. -/
theorem trail_eq_follow_leaves (strict : Bool) (filter : Value) :
    trail strict filter = follow strict ((leaves filter).flatMap FilterLeaf.events) := by
  rw [trail, Condition.events_eq_flatMap_leaves, leaves_condition]

/-- A compilation ends with the first failure of a leaf. -/
theorem failure_trail (strict : Bool) (filter : Value) :
    (trail strict filter).failure = (leaves filter).findSome? (FilterLeaf.ending? strict) := by
  rw [trail_eq_follow_leaves, failure_follow]
  induction leaves filter with
  | nil => rfl
  | cons leaf leaves ih =>
      rw [List.flatMap_cons, List.findSome?_append, ih, FilterLeaf.findSome?_events,
        List.findSome?_cons]
      cases leaf.ending? strict <;> rfl

end Filter

/-! ## Properties of all comparisons -/

/-- What holds of a value and of all its parts makes something hold of the comparisons that
a filter makes of it. -/
structure FieldTest.Inherits (ofValue : Value → Prop) (ofTest : FieldTest → Prop) : Prop where
  member : ∀ {members : Members} {key value},
    ofValue (.object members) → (key, value) ∈ members → ofValue value
  item : ∀ {value items item},
    ofValue value → value.sequence? = some items → item ∈ items → ofValue item
  equality : ∀ path {operand}, ofValue operand → ofTest (.equality path operand)
  present : ∀ path, ofTest (.present path)
  ordered : ∀ path comparison {operand}, ofValue operand →
    ofTest (.ordered path comparison operand)
  oneOf : ∀ path {type operands}, Condition.commonType? operands = some type →
    (∀ operand ∈ operands, ofValue operand) → ofTest (.oneOf path type operands)
  never : ofTest .never

/-- A property of the comparison of a leaf; notes have it. -/
def FilterLeaf.Compares (ofTest : FieldTest → Prop) : FilterLeaf → Prop
  | .test fieldTest => ofTest fieldTest
  | .note _ => True

namespace FieldTest.Inherits

variable {ofValue : Value → Prop} {ofTest : FieldTest → Prop}

theorem inequality (inherits : Inherits ofValue ofTest) (path : String) {operand : Value}
    (holds : ofValue operand) : ofTest (.inequality path operand) := by
  unfold FieldTest.inequality
  split
  · exact inherits.present path
  · exact inherits.equality path holds

theorem listedLeaves (inherits : Inherits ofValue ofTest) (path operator : String)
    (negated : Bool) {operand : Value} (holds : ofValue operand) :
    ∀ leaf ∈ Filter.listedLeaves path operator negated operand, leaf.Compares ofTest := by
  unfold Filter.listedLeaves
  split
  · exact List.forall_mem_singleton.mpr trivial
  · cases negated with
    | true => simp
    | false => exact List.forall_mem_singleton.mpr inherits.never
  · rename_i items _ listed
    have each : ∀ item ∈ _, ofValue item := fun item member =>
      inherits.item holds listed member
    refine List.forall_mem_map.mpr ?_
    unfold memberships
    split
    · rename_i type common
      exact List.forall_mem_singleton.mpr (inherits.oneOf path common each)
    · exact List.forall_mem_map.mpr fun item member => inherits.equality path (each item member)

mutual

theorem fieldLeaves (inherits : Inherits ofValue ofTest) (path : String) (value : Value)
    (holds : ofValue value) :
    ∀ leaf ∈ Filter.fieldLeaves path value, leaf.Compares ofTest := by
  cases value with
  | object operators =>
      rw [Filter.fieldLeaves]
      exact operatorLeaves inherits path operators fun member isMember =>
        inherits.member holds isMember
  | _ => exact List.forall_mem_singleton.mpr (inherits.equality path holds)

theorem operatorLeaves (inherits : Inherits ofValue ofTest) (path : String) :
    (operators : List (Key × Value)) → (∀ member ∈ operators, ofValue member.2) →
      ∀ leaf ∈ Filter.operatorLeaves path operators, leaf.Compares ofTest
  | [], _ => by simp [Filter.operatorLeaves]
  | (key, operand) :: operators, holds => by
      obtain ⟨first, others⟩ := List.forall_mem_cons.mp holds
      rw [Filter.operatorLeaves]
      refine List.forall_mem_append.mpr ⟨?_, operatorLeaves inherits path operators others⟩
      split
      · exact List.forall_mem_singleton.mpr (inherits.equality path first)
      · exact List.forall_mem_singleton.mpr (inherits.inequality path first)
      · exact List.forall_mem_singleton.mpr (inherits.ordered path _ first)
      · exact inherits.listedLeaves path _ _ first
      · exact inherits.listedLeaves path _ _ first
      · exact fieldLeaves inherits path operand first
      · exact List.forall_mem_singleton.mpr trivial

end

mutual

theorem leaves (inherits : Inherits ofValue ofTest) (filter : Value) (holds : ofValue filter) :
    ∀ leaf ∈ Filter.leaves filter, leaf.Compares ofTest := by
  cases filter with
  | object entries =>
      rw [Filter.leaves]
      exact entryLeaves inherits entries fun member isMember => inherits.member holds isMember
  | _ => exact List.forall_mem_nil _

theorem entryLeaves (inherits : Inherits ofValue ofTest) :
    (entries : List (Key × Value)) → (∀ member ∈ entries, ofValue member.2) →
      ∀ leaf ∈ Filter.entryLeaves entries, leaf.Compares ofTest
  | [], _ => by simp [Filter.entryLeaves]
  | (key, value) :: entries, holds => by
      obtain ⟨first, others⟩ := List.forall_mem_cons.mp holds
      have inner := leaves inherits value first
      have parts := partLeaves inherits value first
      rw [Filter.entryLeaves]
      refine List.forall_mem_append.mpr ⟨?_, entryLeaves inherits entries others⟩
      split
      · exact inner
      · exact parts
      · unfold Filter.namedLeaves
        split
        · exact List.forall_mem_singleton.mpr trivial
        · exact fieldLeaves inherits _ value first

theorem partLeaves (inherits : Inherits ofValue ofTest) (value : Value) (holds : ofValue value) :
    ∀ leaf ∈ Filter.partLeaves value, leaf.Compares ofTest := by
  cases value with
  | list items =>
      rw [Filter.partLeaves]
      exact itemLeaves inherits items fun item member => inherits.item holds rfl member
  | _ => exact List.forall_mem_nil _

theorem itemLeaves (inherits : Inherits ofValue ofTest) :
    (items : List Value) → (∀ item ∈ items, ofValue item) →
      ∀ leaf ∈ Filter.itemLeaves items, leaf.Compares ofTest
  | [], _ => by simp [Filter.itemLeaves]
  | item :: items, holds => by
      obtain ⟨first, others⟩ := List.forall_mem_cons.mp holds
      rw [Filter.itemLeaves]
      exact List.forall_mem_append.mpr
        ⟨leaves inherits item first, itemLeaves inherits items others⟩

end

end FieldTest.Inherits

/-! ## Filters that can be written -/

theorem FieldTest.writable_equality (path : String) {operand : Value}
    (writable : Json.obstacle? operand = none) :
    Filter.Writable (equality path operand).events := by
  intro fault
  cases operand <;> simp [equality, events, Json.encode, writable]

theorem FieldTest.inherits_writable :
    Inherits (fun value => Json.obstacle? value = none)
      fun test => Filter.Writable test.events where
  member writable isMember := Json.obstacle?_of_mem_members writable _ isMember
  item {value _ _} writable listed isItem := by
    cases value with
    | list items =>
        cases listed
        exact Json.obstacle?_of_mem_items writable _ isItem
    | bytes content => cases writable
    | _ => cases listed
  equality path _ writable := writable_equality path writable
  present path := by simp [Filter.Writable, events]
  ordered path comparison _ _ := by simp [Filter.Writable, events]
  oneOf path _ _ _ _ := by simp [Filter.Writable, events]
  never := by simp [Filter.Writable, events]

namespace Filter

/-- All operands of a filter that can be written as JSON have a JSON text. -/
theorem writable_condition (filter : Value) (writable : Json.obstacle? filter = none) :
    Writable (condition filter).events := by
  rw [Condition.events_eq_flatMap_leaves, leaves_condition]
  intro fault member
  obtain ⟨leaf, isLeaf, isEvent⟩ := List.mem_flatMap.mp member
  have compares := FieldTest.inherits_writable.leaves filter writable leaf isLeaf
  cases leaf with
  | test fieldTest => exact compares fault isEvent
  | note filterNote => simp [FilterLeaf.events] at isEvent

/-- The filter compares a field, as JSON, with an operand that cannot be written. -/
def ComparesUnwritable (filter : Value) : Prop :=
  ∃ path operand fault, .test (.sameJson path operand) ∈ leaves filter ∧
    Json.obstacle? operand = some fault

theorem not_comparesUnwritable {filter : Value} (writable : Json.obstacle? filter = none) :
    ¬ ComparesUnwritable filter := by
  rintro ⟨path, operand, fault, isLeaf, obstacle⟩
  have events : Writable (FieldTest.sameJson path operand).events :=
    FieldTest.inherits_writable.leaves filter writable _ isLeaf
  exact events fault (by simp [FieldTest.events, Json.encode, obstacle])

/-- A lenient compilation fails only at an operand that cannot be written. -/
theorem comparesUnwritable_of_failure {filter : Value} {failure : Failure}
    (ends : (trail false filter).failure = some failure) : ComparesUnwritable filter := by
  rw [failure_trail] at ends
  obtain ⟨leaf, isLeaf, isEnding⟩ := List.exists_of_findSome?_eq_some ends
  rcases leaf with fieldTest | filterNote
  · cases fieldTest with
    | sameJson path operand =>
        obtain ⟨fault, obstacle, _⟩ := Option.map_eq_some_iff.mp isEnding
        exact ⟨path, operand, fault, isLeaf, obstacle⟩
    | _ => cases isEnding
  · cases isEnding

/-- A filter that can be written as JSON compiles in lenient mode. -/
theorem compile_returns_of_writable {filter : Value} (writable : Json.obstacle? filter = none)
    (dialect : Dialect) (entries : List LogEntry) :
    ∃ text log, (compile dialect false filter).Returns entries text log :=
  ⟨_, _, compile_returns_iff.mpr
    ⟨failure_follow_lenient (writable_condition filter writable), rfl, rfl⟩⟩

end Filter

/-! ## Operands with too many digits -/

/-- An operand that is compared as JSON is of JSON. -/
def FieldTest.WritesJson : FieldTest → Prop
  | sameJson _ operand => operand.IsJson
  | _ => True

theorem FieldTest.inherits_writesJson : Inherits Value.IsJson WritesJson where
  member json isMember := json.of_mem isMember
  item {value _ _} json listed isItem := by
    cases value with
    | list items =>
        cases listed
        exact Value.isJson_list_iff.mp json _ isItem
    | bytes content => cases json
    | _ => cases listed
  equality path operand json := by cases operand <;> first | exact json | trivial
  present _ := trivial
  ordered _ _ _ _ := trivial
  oneOf _ _ _ _ _ := trivial
  never := trivial

namespace Filter

variable {filter : Value}

/-- The filter compares a field, as JSON, with a list or an object in which an integer has too
many digits. -/
def ComparesTooLong (filter : Value) : Prop :=
  ∃ path operand, .test (.sameJson path operand) ∈ leaves filter ∧ operand.isWritable = false

/-- The operands that a filter of JSON compares as JSON are written, or have an integer with too
many digits. -/
theorem ending?_sameJson (json : filter.IsJson) {path : String} {operand : Value}
    (isLeaf : .test (.sameJson path operand) ∈ leaves filter) (strict : Bool) :
    FilterLeaf.ending? strict (.test (.sameJson path operand)) =
      if operand.isWritable then none else some (.fault .malformedValue) := by
  have operandJson : operand.IsJson := FieldTest.inherits_writesJson.leaves filter json _ isLeaf
  have written := operandJson.obstacle?_eq_none_iff
  rw [FilterLeaf.ending?]
  cases obstacle : Json.obstacle? operand with
  | none => simp [written.mp obstacle]
  | some fault =>
      have unwritable : operand.isWritable = false := by
        rw [← Bool.not_eq_true, ← written, obstacle]
        simp
      rw [operandJson.eq_of_obstacle? obstacle, unwritable]
      rfl

/-- A lenient compilation of a filter of JSON fails only at an operand with too many digits. -/
theorem failure_trail_lenient (json : filter.IsJson) (failure : Failure) :
    (trail false filter).failure = some failure ↔
      ComparesTooLong filter ∧ failure = .fault .malformedValue := by
  have ends : ∀ leaf ∈ leaves filter, ∀ ending, leaf.ending? false = some ending →
      ComparesTooLong filter ∧ ending = .fault .malformedValue := by
    intro leaf isLeaf ending isEnding
    rcases leaf with fieldTest | filterNote
    · cases fieldTest with
      | sameJson path operand =>
          rw [ending?_sameJson json isLeaf] at isEnding
          split at isEnding
          · cases isEnding
          · rename_i unwritable
            exact ⟨⟨path, operand, isLeaf, by simpa using unwritable⟩,
              (Option.some.inj isEnding).symm⟩
      | _ => cases isEnding
    · cases isEnding
  rw [failure_trail]
  constructor
  · intro isEnding
    obtain ⟨leaf, isLeaf, isEnding⟩ := List.exists_of_findSome?_eq_some isEnding
    exact ends leaf isLeaf failure isEnding
  · rintro ⟨⟨path, operand, isLeaf, unwritable⟩, rfl⟩
    cases found : (leaves filter).findSome? (FilterLeaf.ending? false) with
    | none =>
        have goesOn := List.findSome?_eq_none_iff.mp found _ isLeaf
        simp [ending?_sameJson json isLeaf, unwritable] at goesOn
    | some ending =>
        obtain ⟨leaf, isLeaf, isEnding⟩ := List.exists_of_findSome?_eq_some found
        rw [(ends leaf isLeaf ending isEnding).2]

theorem failure_trail_lenient_eq_none_iff (json : filter.IsJson) :
    (trail false filter).failure = none ↔ ¬ ComparesTooLong filter := by
  rw [Option.eq_none_iff_forall_ne_some]
  constructor
  · exact fun goesOn long => goesOn _ ((failure_trail_lenient json _).mpr ⟨long, rfl⟩)
  · exact fun short failure ends => short ((failure_trail_lenient json failure).mp ends).1

end Filter

end DocStore
