import DocStore.Filter.Meaning
import DocStore.Proofs.Clause.Condition

/-!
# What a filter accepts

The reference for the clauses that filters compile to, read off the filter
itself.  A verdict is missing where nothing contributes: for unknown operators,
malformed entries, and whatever consists of these alone.  Combinators pass over
missing verdicts.

Every value lies outside of the empty list, and yet a compiler may pass over exclusion
from it as if nothing was said.  Which verdict it comes to is a parameter.
-/

namespace DocStore

open Sql

/-- What is known of the fields of one document: the truth values of comparisons,
and which fields are missing or null. -/
structure FieldValuation where
  compare : String → Relation → Value → Truth
  isNull : String → Bool

namespace FieldValuation

variable (valuation : FieldValuation)

def satisfies (path : String) (relation : Relation) (operand : Value) : Bool :=
  decide (valuation.compare path relation operand = .holds)

/-- Equality with null is the null test. -/
def equals (path : String) : Value → Bool
  | .null => valuation.isNull path
  | operand => valuation.satisfies path .equal operand

def isMember (path : String) (operands : List Value) : Bool :=
  operands.any fun operand => valuation.equals path operand

end FieldValuation

/-- Whether something accepts, if it contributes. -/
abbrev Verdict := Option Bool

namespace Verdict

/-- Both accept; a missing verdict is passed over. -/
def both : Verdict → Verdict → Verdict
  | none, other => other
  | some accepts, none => some accepts
  | some left, some right => some (left && right)

def either : Verdict → Verdict → Verdict
  | none, other => other
  | some accepts, none => some accepts
  | some left, some right => some (left || right)

def opposite (verdict : Verdict) : Verdict := verdict.map fun accepts => !accepts

end Verdict

namespace Filter

variable (excluded : Verdict) (valuation : FieldValuation)

mutual

/-- The verdict on a field and what stands below it. -/
def fieldVerdict (path : String) : Value → Verdict
  | .object operators => operatorsVerdict path operators
  | operand => some (valuation.equals path operand)

/-- The verdict on the operators below a field, which are conjoined. -/
def operatorsVerdict (path : String) : List (Key × Value) → Verdict
  | [] => none
  | (key, operand) :: operators =>
      Verdict.both
        (match FieldOperator.ofKey? key.shown with
          | some .equal => some (valuation.equals path operand)
          | some .unequal => some (!valuation.equals path operand)
          | some (.ordered comparison) =>
              some (valuation.satisfies path (.ordered comparison) operand)
          | some .oneOf =>
              match operand.sequence? with
              | some operands => some (valuation.isMember path operands)
              | none => none
          | some .noneOf =>
              match operand.sequence? with
              | some [] => excluded
              | some operands => some (!valuation.isMember path operands)
              | none => none
          | some .not => Verdict.opposite (fieldVerdict path operand)
          | none => none)
        (operatorsVerdict path operators)

end

/-- The verdict on an entry that combines no filters: keys with a dollar sign are
unknown, all others are fields. -/
def namedVerdict (key : String) (value : Value) : Verdict :=
  if hasDollar key then none else fieldVerdict excluded valuation key value

mutual

def verdict : Value → Verdict
  | .object entries => entriesVerdict entries
  | _ => none

def entriesVerdict : List (Key × Value) → Verdict
  | [] => none
  | (key, value) :: entries =>
      Verdict.both
        (match Combinator.ofKey? key.shown with
          | some .and =>
              if value.sequence?.isSome then allVerdict value
              else namedVerdict excluded valuation key.shown value
          | some .or =>
              if value.sequence?.isSome then anyVerdict value
              else namedVerdict excluded valuation key.shown value
          | some .not =>
              if value.isObject then Verdict.opposite (verdict value)
              else namedVerdict excluded valuation key.shown value
          | none => namedVerdict excluded valuation key.shown value)
        (entriesVerdict entries)

/-- All of the sub-filters that contribute accept. -/
def allVerdict : Value → Verdict
  | .list items => itemsAllVerdict items
  | _ => none

def itemsAllVerdict : List Value → Verdict
  | [] => none
  | item :: items => Verdict.both (verdict item) (itemsAllVerdict items)

/-- One of the sub-filters that contribute accepts. -/
def anyVerdict : Value → Verdict
  | .list items => itemsAnyVerdict items
  | _ => none

def itemsAnyVerdict : List Value → Verdict
  | [] => none
  | item :: items => Verdict.either (verdict item) (itemsAnyVerdict items)

end

/-- Whether a filter accepts, exclusion from the empty list being passed over; one to which
nothing contributes accepts everything. -/
def accepts (valuation : FieldValuation) (filter : Value) : Bool :=
  (verdict none valuation filter).getD true

/-- Whether a filter accepts if everything lies outside of the empty list. -/
def admits (valuation : FieldValuation) (filter : Value) : Bool :=
  (verdict (some true) valuation filter).getD true

end Filter

end DocStore
