import DocStore.Client.Find
import DocStore.Proofs.FilterLeaves
import DocStore.Proofs.Matcher
import DocStore.Proofs.Sorting

/-!
# Filters of pages

The filter of a page accepts what the filter of the search accepts beyond the
boundary.  This needs a field that the filter can name: a key with a dollar sign
is unknown, and `not` in front of an object is the combinator.
-/

namespace DocStore

namespace Filter

variable (fields : FieldValuation)

/-- A field whose comparisons a filter can state. -/
structure NamesField (field : String) : Prop where
  noDollar : hasDollar field = false
  notCombinator : field ≠ "not"

theorem NamesField.ofKey?_ne_not {field : String} (names : NamesField field) :
    Combinator.ofKey? field ≠ some .not := by
  unfold Combinator.ofKey?
  split
  · simp
  · split
    · simp
    · split
      · rename_i canonical
        rw [canonicalKey, if_neg (by simp [names.noDollar])] at canonical
        have named : field.toList = "not".toList := by
          have texts := congrArg String.toList canonical
          simpa using texts
        exact absurd (String.toList_injective named) names.notCombinator
      · simp

section Field

variable {field : String} (names : NamesField field) (operators : Members)

include names

theorem verdict_field :
    verdict none fields (.object [(field, .object operators)]) =
      operatorsVerdict none fields field operators := by
  have named : namedVerdict none fields field (.object operators) =
      operatorsVerdict none fields field operators := by
    rw [namedVerdict, if_neg (by simp [names.noDollar]), fieldVerdict]
  have shown : (Key.text field).shown = field := rfl
  have single (verdict : Verdict) : Verdict.both verdict none = verdict := by
    cases verdict <;> rfl
  rw [verdict, entriesVerdict, entriesVerdict, shown, single]
  cases combinator : Combinator.ofKey? field with
  | none => exact named
  | some combinator' =>
      cases combinator' with
      | not => exact absurd combinator names.ofKey?_ne_not
      | _ => exact named

theorem condition_field :
    condition (.object [(field, .object operators)]) =
      .conjunction [.conjunction (operatorConditions field operators)] := by
  have named : unrecognised field (.object operators) =
      .conjunction (operatorConditions field operators) := by
    rw [unrecognised, if_neg (by simp [names.noDollar]), fieldCondition]
  have shown : (Key.text field).shown = field := rfl
  rw [condition, entryConditions, entryConditions, shown]
  cases combinator : Combinator.ofKey? field with
  | none => simp only [named]
  | some combinator' =>
      cases combinator' with
      | not => exact absurd combinator names.ofKey?_ne_not
      | _ =>
          dsimp only
          rw [named]
          rfl

end Field

/-- Nothing contributes to a value that counts as false. -/
theorem verdict_of_not_isTruthy {filter : Value} (falsy : filter.isTruthy = false) :
    verdict none fields filter = none := by
  cases filter with
  | object entries =>
      cases entries with
      | nil => rfl
      | cons entry entries => cases falsy
  | _ => rfl

theorem failure_follow_append (strict : Bool) (left right : List FilterEvent) :
    (follow strict (left ++ right)).failure = none ↔
      (follow strict left).failure = none ∧ (follow strict right).failure = none := by
  induction left with
  | nil => simp [follow]
  | cons event events ih =>
      cases event with
      | bind value => simpa [follow] using ih
      | unwritable fault => simp [follow]
      | note note =>
          cases strict with
          | false => simpa [follow] using ih
          | true =>
              cases refused : note.refusal? with
              | none => simpa [follow, refused] using ih
              | some error => simp [follow, refused]

end Filter

namespace Client

open DocStore.Filter

variable (fields : FieldValuation) {filter : Value} {options : CursorOptions}

theorem verdict_boundFilter (names : NamesField options.cursorField) :
    verdict none fields (boundFilter options) =
      some (fields.satisfies options.cursorField (.ordered (boundComparison options.reverse))
        options.cursorValue) := by
  rw [boundFilter, verdict_field fields names]
  cases reverse : options.reverse <;> rfl

/-- The filter of a page accepts what the filter of the search does, beyond the
boundary. -/
theorem accepts_pageFilter (names : NamesField options.cursorField)
    (bounded : options.cursorValue.isNull = false) :
    accepts fields (pageFilter filter options) =
      (accepts fields filter &&
        fields.satisfies options.cursorField (.ordered (boundComparison options.reverse))
          options.cursorValue) := by
  have bound := verdict_boundFilter fields names
  rw [pageFilter, if_neg (by simp [bounded])]
  split
  · have both : verdict none fields (.object [("$and", .list [filter, boundFilter options])]) =
        Verdict.both (verdict none fields filter) (verdict none fields (boundFilter options)) := by
      have combinator : Combinator.ofKey? (Key.shown "$and") = some .and := rfl
      simp only [verdict, entriesVerdict, combinator, Value.sequence?, Option.isSome_some,
        if_true, allVerdict, itemsAllVerdict]
      cases verdict none fields filter <;> cases verdict none fields (boundFilter options) <;> rfl
    rw [accepts, both, bound, accepts]
    cases verdict none fields filter <;> simp [Verdict.both]
  · rename_i falsy
    have none := verdict_of_not_isTruthy fields (by simpa using falsy)
    simp [accepts, bound, none]

/-- Whatever binds in a comparison, the filter of a page compiles if the filter of the
search does. -/
theorem failure_pageFilter {strict : Bool} (names : NamesField options.cursorField)
    (compiles : (trail strict filter).failure = none) :
    (trail strict (pageFilter filter options)).failure = none := by
  have bound : (trail strict (boundFilter options)).failure = none := by
    rw [trail, boundFilter, condition_field names]
    cases reverse : options.reverse <;> rfl
  unfold pageFilter
  split
  · exact compiles
  · split
    · have events : (condition (.object [("$and", .list [filter, boundFilter options])])).events =
          (condition filter).events ++ (condition (boundFilter options)).events := by
        have combinator : Combinator.ofKey? (Key.shown "$and") = some .and := rfl
        simp [condition, entryConditions, combinator, Value.sequence?, subconditions,
          itemConditions, Condition.events, Condition.eventsList]
      rw [trail, events]
      exact (failure_follow_append _ _ _).mpr ⟨compiles, bound⟩
    · exact bound

end Client

end DocStore
