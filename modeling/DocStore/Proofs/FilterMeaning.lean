import DocStore.Proofs.Alignment.Expression
import DocStore.Proofs.Clause.Filter
import DocStore.Proofs.FilterLeaves

/-!
# The meaning of filters

The clause of a filter, formatted with the values bound in it and read with the
precedence of SQL, holds for a document exactly if the filter accepts it.  There
is no clause exactly if nothing in the filter contributes.

Exclusion from the empty list is passed over, although every value lies outside of
that list.  This is told from a condition that holds for all documents only below a
negation and in a disjunction.
-/

namespace DocStore

open Sql Sql.Fragment

theorem Sql.Fragment.IsConjoined.clause?_render {dialect : Dialect}
    {meaning : Valuation → Prop} {fragment : Fragment}
    (conjoined : IsConjoined dialect meaning fragment) (free : PercentFree fragment) :
    ∃ condition,
      clause? dialect (render dialect fragment).toList (params fragment) = some condition ∧
        ∀ valuation, condition.truth valuation = .holds ↔ meaning valuation := by
  obtain ⟨trees, alternatives, reads, disjunction, means⟩ := conjoined.disjoined
  refine ⟨SqlCondition.anyOf alternatives, ?_, ?_⟩
  · simp [clause?, format_render dialect free, reads.treesOf?_eq, condition?, disjunction.read]
  · intro valuation
    simp [means valuation]

theorem clause?_empty (dialect : Dialect) (values : List Value) :
    clause? dialect "".toList values = none := by
  cases values <;> rfl

namespace Filter

/-! ## Exclusion from the empty list -/

def isEmptyList (operand : Value) : Bool :=
  match operand.sequence? with
  | some [] => true
  | _ => false

mutual

/-- Whether below a field an exclusion from the empty list stands in a negation; or anywhere,
if the field itself does. -/
def fieldHides (within : Bool) : Value → Bool
  | .object operators => operatorsHide within operators
  | _ => false

def operatorsHide (within : Bool) : List (Key × Value) → Bool
  | [] => false
  | (key, operand) :: operators =>
      (match FieldOperator.ofKey? key.shown with
        | some .noneOf => within && isEmptyList operand
        | some .not => fieldHides true operand
        | _ => false)
      || operatorsHide within operators

end

/-- The same of an entry that applies no combinator. -/
def namedHides (within : Bool) (key : String) (value : Value) : Bool :=
  !hasDollar key && fieldHides within value

mutual

/-- Whether in a filter an exclusion from the empty list stands in a negation or a disjunction;
or anywhere, if the filter itself does. -/
def hidesExclusion (within : Bool) : Value → Bool
  | .object entries => entriesHide within entries
  | _ => false

def entriesHide (within : Bool) : List (Key × Value) → Bool
  | [] => false
  | (key, value) :: entries =>
      (match combinator? key.shown value with
        | some .and => partsHide within value
        | some .or => partsHide true value
        | some .not => hidesExclusion true value
        | none => namedHides within key.shown value)
      || entriesHide within entries

/-- The same of the sub-filters of a combinator. -/
def partsHide (within : Bool) : Value → Bool
  | .list items => itemsHide within items
  | _ => false

def itemsHide (within : Bool) : List Value → Bool
  | [] => false
  | item :: items => hidesExclusion within item || itemsHide within items

end

/-- The verdicts if exclusion from the empty list is passed over and if it accepts.  Outside of
negations and disjunctions one may be missing where the other accepts. -/
def Settles (within : Bool) (skipped held : Verdict) : Prop :=
  skipped = held ∨ within = false ∧ skipped = none ∧ held = some true

namespace Settles

variable {within : Bool} {skipped held others othersHeld : Verdict}

theorem refl (within : Bool) (verdict : Verdict) : Settles within verdict verdict := .inl rfl

theorem eq_of_within (settles : Settles true skipped held) : skipped = held := by
  rcases settles with same | ⟨outside, _⟩
  · exact same
  · cases outside

theorem both (first : Settles within skipped held) (rest : Settles within others othersHeld) :
    Settles within (skipped.both others) (held.both othersHeld) := by
  rcases first with rfl | ⟨rfl, rfl, rfl⟩ <;> rcases rest with rfl | ⟨outside, rfl, rfl⟩
  · exact .refl _ _
  · cases skipped with
    | none => exact .inr ⟨outside, rfl, rfl⟩
    | some accepted => exact .inl (by simp [Verdict.both])
  · cases others with
    | none => exact .inr ⟨rfl, rfl, rfl⟩
    | some accepted => exact .inl (by simp [Verdict.both])
  · exact .inr ⟨rfl, rfl, rfl⟩

theorem getD_eq (settles : Settles within skipped held) : skipped.getD true = held.getD true := by
  rcases settles with rfl | ⟨_, rfl, rfl⟩ <;> rfl

end Settles

section

variable (fields : FieldValuation)

/-- The verdict on an entry. -/
def entryVerdict (excluded : Verdict) (key : String) (value : Value) : Verdict :=
  match combinator? key value with
  | some .and => allVerdict excluded fields value
  | some .or => anyVerdict excluded fields value
  | some .not => (verdict excluded fields value).opposite
  | none => namedVerdict excluded fields key value

theorem entriesVerdict_cons (excluded : Verdict) (key : Key) (value : Value)
    (entries : List (Key × Value)) :
    entriesVerdict excluded fields ((key, value) :: entries) =
      (entryVerdict fields excluded key.shown value).both
        (entriesVerdict excluded fields entries) := by
  rw [entriesVerdict, entryVerdict, combinator?]
  cases Combinator.ofKey? key.shown with
  | none => rfl
  | some combinator =>
      cases combinator <;> simp only [Option.filter, takes] <;> split <;> simp [*]

mutual

theorem settles_fieldVerdict (path : String) (within : Bool) (value : Value)
    (clear : fieldHides within value = false) :
    Settles within (fieldVerdict none fields path value)
      (fieldVerdict (some true) fields path value) := by
  cases value with
  | object operators =>
      rw [fieldVerdict, fieldVerdict]
      rw [fieldHides] at clear
      exact settles_operatorsVerdict path within operators clear
  | _ => exact .refl _ _

theorem settles_operatorsVerdict (path : String) (within : Bool) :
    (operators : List (Key × Value)) → operatorsHide within operators = false →
      Settles within (operatorsVerdict none fields path operators)
        (operatorsVerdict (some true) fields path operators)
  | [], _ => .refl _ _
  | (key, operand) :: operators, clear => by
      rw [operatorsHide, Bool.or_eq_false_iff] at clear
      obtain ⟨first, others⟩ := clear
      have rest := settles_operatorsVerdict path within operators others
      have inner := settles_fieldVerdict path true operand
      rw [operatorsVerdict, operatorsVerdict]
      refine Settles.both ?_ rest
      cases operator : FieldOperator.ofKey? key.shown with
      | none => exact .refl _ _
      | some known =>
          rw [operator] at first
          cases known with
          | noneOf =>
              -- an exclusion that is passed over stands outside of negations
              dsimp only at first ⊢
              unfold isEmptyList at first
              split
              · rename_i empty
                rw [empty] at first
                exact .inr ⟨by simpa using first, rfl, rfl⟩
              · exact .refl _ _
              · exact .refl _ _
          | not => rw [(inner first).eq_of_within]; exact .refl _ _
          | _ => exact .refl _ _

end

theorem settles_namedVerdict {within : Bool} {key : String} {value : Value}
    (clear : namedHides within key value = false) :
    Settles within (namedVerdict none fields key value)
      (namedVerdict (some true) fields key value) := by
  rw [namedHides] at clear
  rw [namedVerdict, namedVerdict]
  cases dollar : hasDollar key with
  | true => exact .refl _ _
  | false => exact settles_fieldVerdict fields key within value (by simpa [dollar] using clear)

mutual

theorem settles_verdict (within : Bool) (filter : Value)
    (clear : hidesExclusion within filter = false) :
    Settles within (verdict none fields filter) (verdict (some true) fields filter) := by
  cases filter with
  | object entries =>
      rw [verdict, verdict]
      rw [hidesExclusion] at clear
      exact settles_entriesVerdict within entries clear
  | _ => exact .refl _ _

theorem settles_entriesVerdict (within : Bool) :
    (entries : List (Key × Value)) → entriesHide within entries = false →
      Settles within (entriesVerdict none fields entries)
        (entriesVerdict (some true) fields entries)
  | [], _ => .refl _ _
  | (key, value) :: entries, clear => by
      rw [entriesHide, Bool.or_eq_false_iff] at clear
      obtain ⟨first, others⟩ := clear
      have rest := settles_entriesVerdict within entries others
      have inner := settles_verdict true value
      have conjoined := settles_allVerdict within value
      have disjoined := anyVerdict_eq value
      rw [entriesVerdict_cons, entriesVerdict_cons]
      refine Settles.both ?_ rest
      rw [entryVerdict, entryVerdict]
      cases combinator : combinator? key.shown value with
      | none =>
          rw [combinator] at first
          exact settles_namedVerdict fields first
      | some known =>
          rw [combinator] at first
          cases known with
          | and => exact conjoined first
          | or => rw [disjoined first]; exact .refl _ _
          | not => rw [(inner first).eq_of_within]; exact .refl _ _

theorem settles_allVerdict (within : Bool) (value : Value)
    (clear : partsHide within value = false) :
    Settles within (allVerdict none fields value) (allVerdict (some true) fields value) := by
  cases value with
  | list items =>
      rw [allVerdict, allVerdict]
      rw [partsHide] at clear
      exact settles_itemsAllVerdict within items clear
  | _ => exact .refl _ _

theorem settles_itemsAllVerdict (within : Bool) :
    (items : List Value) → itemsHide within items = false →
      Settles within (itemsAllVerdict none fields items) (itemsAllVerdict (some true) fields items)
  | [], _ => .refl _ _
  | item :: items, clear => by
      rw [itemsHide, Bool.or_eq_false_iff] at clear
      rw [itemsAllVerdict, itemsAllVerdict]
      exact (settles_verdict within item clear.1).both
        (settles_itemsAllVerdict within items clear.2)

theorem anyVerdict_eq (value : Value) (clear : partsHide true value = false) :
    anyVerdict none fields value = anyVerdict (some true) fields value := by
  cases value with
  | list items =>
      rw [anyVerdict, anyVerdict]
      rw [partsHide] at clear
      exact itemsAnyVerdict_eq items clear
  | _ => rfl

theorem itemsAnyVerdict_eq :
    (items : List Value) → itemsHide true items = false →
      itemsAnyVerdict none fields items = itemsAnyVerdict (some true) fields items
  | [], _ => rfl
  | item :: items, clear => by
      rw [itemsHide, Bool.or_eq_false_iff] at clear
      rw [itemsAnyVerdict, itemsAnyVerdict, (settles_verdict true item clear.1).eq_of_within,
        itemsAnyVerdict_eq items clear.2]

end

/-- If no exclusion from the empty list stands in a negation or a disjunction, passing over it
changes nothing. -/
theorem admits_eq_accepts {filter : Value} (clear : hidesExclusion false filter = false) :
    admits fields filter = accepts fields filter :=
  (settles_verdict fields false filter clear).getD_eq.symm

end

/-! ## Clauses -/

/-- The clause of a filter is empty if nothing contributes, and else holds where the filter
accepts. -/
def MeansFilter (dialect : Dialect) (filter : Value) (text : Option Fragment) : Prop :=
  (∀ fields, render dialect (text.getD []) = "" ↔ verdict none fields filter = none) ∧
    (render dialect (text.getD []) ≠ "" →
      ∃ condition,
        clause? dialect (render dialect (text.getD [])).toList (params (text.getD [])) =
            some condition ∧
          ∀ valuation, condition.truth valuation = .holds ↔
            accepts (valuation.onFields dialect) filter = true)

theorem meansFilter_fragment? (dialect : Dialect) (filter : Value) :
    MeansFilter dialect filter ((condition filter).fragment? dialect) := by
  have agrees := agrees_condition dialect filter
  cases written : (condition filter).fragment? dialect with
  | none =>
      rw [written] at agrees
      refine ⟨fun fields => ?_, fun notEmpty => absurd rfl notEmpty⟩
      simp [agrees fields, render, renderWith]
  | some text =>
      rw [written] at agrees
      obtain ⟨accepted, decided, conjoined⟩ := agrees
      have free : PercentFree text := Condition.percentFree_fragment? dialect _ written
      obtain ⟨condition, read, means⟩ := conjoined.clause?_render free
      have notEmpty : render dialect text ≠ "" := by
        intro empty
        rw [empty, clause?_empty] at read
        cases read
      refine ⟨fun fields => by simp [decided fields, notEmpty], fun _ => ⟨condition, read, ?_⟩⟩
      intro valuation
      simp [means valuation, Filter.accepts, decided]

/-- A filter of JSON compiles in lenient mode unless it compares a field with an operand that has
too many digits.  Its clause is empty exactly if nothing contributes, and else holds exactly
where the filter accepts, whatever the truth values of the comparisons are.  There exclusion from
the empty list is passed over, which makes no difference outside of negations and disjunctions. -/
theorem clause_holds_iff_accepts (dialect : Dialect) {filter : Value} (json : filter.IsJson)
    (entries : List LogEntry) :
    ((ComparesTooLong filter ∧
        ((compile dialect false filter).after entries).1 = .error (.fault .malformedValue)) ∨
      (¬ ComparesTooLong filter ∧
        ∃ text log, (compile dialect false filter).Returns entries text log ∧
          MeansFilter dialect filter text)) ∧
    (hidesExclusion false filter = false →
      ∀ fields, admits fields filter = accepts fields filter) := by
  refine ⟨?_, fun clear fields => admits_eq_accepts fields clear⟩
  rw [after_compile]
  cases ends : (trail false filter).failure with
  | some failure =>
      obtain ⟨long, rfl⟩ := (failure_trail_lenient json failure).mp ends
      exact .inl ⟨long, rfl⟩
  | none =>
      exact .inr ⟨(failure_trail_lenient_eq_none_iff json).mp ends, _, _,
        compile_returns_iff.mpr ⟨ends, rfl, rfl⟩, meansFilter_fragment? dialect filter⟩

/-- A negated membership in a disjunction. -/
theorem clause_holds_iff_accepts_mixedTypes :
    let filter : Value := .object [("$or", .list
      [ .object [("a", .object [("$nin", .list [.bool true, .text "%"])])],
        .object [("b", .null)] ])]
    filter.IsJson ∧ ∃ text log,
      (compile .mysql false filter).Returns [] text log ∧
      ∃ condition,
        clause? .mysql (render .mysql (text.getD [])).toList (params (text.getD [])) =
            some condition ∧
          ∀ valuation, condition.truth valuation = .holds ↔
            admits (valuation.onFields .mysql) filter = true := by
  intro filter
  have json : filter.IsJson := by
    simp [filter, Value.isJson_object_iff, Value.isJson_list_iff, Members.keys,
      Value.IsJson.null, Value.IsJson.bool, Value.IsJson.text]
  obtain ⟨compiled, same⟩ := clause_holds_iff_accepts .mysql json []
  rcases compiled with ⟨_, fails⟩ | ⟨_, text, log, returned, empty, holds⟩
  · cases fails
  obtain ⟨condition, read, means⟩ := holds fun isEmpty => by
    cases (empty (Valuation.onFields .mysql default)).mp isEmpty
  refine ⟨json, text, log, returned, condition, read, fun valuation => ?_⟩
  rw [means valuation, same (by decide +kernel)]

/-- Every value lies outside of the empty list, so a filter that negates this admits no document.
It compiles to no clause, and so to the one for all documents. -/
theorem compile_not_noneOf_nil :
    let filter : Value := .object [("$not", .object [("a", .object [("$nin", .list [])])])]
    filter.IsJson ∧
      (compile .postgres false filter).Returns [] none [] ∧
      ∀ fields, admits fields filter = false ∧ accepts fields filter = true := by
  refine ⟨?_, rfl, fun fields => ⟨rfl, rfl⟩⟩
  simp [Value.isJson_object_iff, Value.isJson_list_iff, Members.keys]

end Filter

end DocStore
