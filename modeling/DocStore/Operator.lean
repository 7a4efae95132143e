/-!
# Operator names

Filters, updates and pipelines are plain objects whose keys name operators.  A
key may be written with or without its leading dollar sign; the tables below
know the canonical spelling with the sign.
-/

namespace DocStore

def hasDollar (key : String) : Bool := key.toList.head? == some '$'

def canonicalKey (key : String) : String :=
  if hasDollar key then key else String.ofList ('$' :: key.toList)

/-- A canonical spelling starts with a dollar sign. -/
theorem hasDollar_canonicalKey (key : String) : hasDollar (canonicalKey key) = true := by
  unfold canonicalKey
  split
  · assumption
  · simp [hasDollar]

/-- A key with its dollar sign is its own canonical spelling. -/
theorem canonicalKey_of_hasDollar {key : String} (dollar : hasDollar key = true) :
    canonicalKey key = key := by
  simp [canonicalKey, dollar]

/-- The field path that a reference such as `$total` names. -/
def fieldOfReference (reference : String) : String :=
  if hasDollar reference then String.ofList (reference.toList.drop 1) else reference

/-- Combinators of whole filters. -/
inductive Combinator where
  | and | or | not
deriving DecidableEq, Repr

def Combinator.ofKey? (key : String) : Option Combinator :=
  if canonicalKey key = "$and" then some .and
  else if canonicalKey key = "$or" then some .or
  else if canonicalKey key = "$not" then some .not
  else none

inductive Comparison where
  | greater | greaterOrEqual | less | lessOrEqual
deriving DecidableEq, Repr

def Comparison.sign : Comparison → String
  | greater => ">"
  | greaterOrEqual => ">="
  | less => "<"
  | lessOrEqual => "<="

inductive FieldOperator where
  | equal
  | unequal
  | ordered (comparison : Comparison)
  | oneOf
  | noneOf
  | not
deriving DecidableEq, Repr

def FieldOperator.ofKey? (key : String) : Option FieldOperator :=
  match canonicalKey key with
  | "$eq" => some .equal
  | "$ne" => some .unequal
  | "$gt" => some (.ordered .greater)
  | "$gte" => some (.ordered .greaterOrEqual)
  | "$lt" => some (.ordered .less)
  | "$lte" => some (.ordered .lessOrEqual)
  | "$in" => some .oneOf
  | "$nin" => some .noneOf
  | "$not" => some .not
  | _ => none

/-- Operators of updates, in the order in which they are applied. -/
inductive UpdateOperator where
  | set | increment | push | pull | unset
deriving DecidableEq, Repr

namespace UpdateOperator

def ofKey? (key : String) : Option UpdateOperator :=
  match canonicalKey key with
  | "$set" => some .set
  | "$inc" => some .increment
  | "$push" => some .push
  | "$pull" => some .pull
  | "$unset" => some .unset
  | _ => none

def key : UpdateOperator → String
  | set => "$set"
  | increment => "$inc"
  | push => "$push"
  | pull => "$pull"
  | unset => "$unset"

def applicationOrder : List UpdateOperator := [.set, .increment, .push, .pull, .unset]

end UpdateOperator

inductive StageKind where
  | filter | sort | group | project | limit | skip | unwind
deriving DecidableEq, Repr

def StageKind.ofKey? (key : String) : Option StageKind :=
  match canonicalKey key with
  | "$match" => some .filter
  | "$sort" => some .sort
  | "$group" => some .group
  | "$project" => some .project
  | "$limit" => some .limit
  | "$skip" => some .skip
  | "$unwind" => some .unwind
  | _ => none

/-- Accumulators over the numbers of a group. -/
inductive NumericAccumulator where
  | sum | average | minimum | maximum
deriving DecidableEq, Repr

def NumericAccumulator.function : NumericAccumulator → String
  | sum => "SUM"
  | average => "AVG"
  | minimum => "MIN"
  | maximum => "MAX"

inductive Accumulator where
  | count
  | numeric (function : NumericAccumulator)
deriving DecidableEq, Repr

def Accumulator.ofKey? (key : String) : Option Accumulator :=
  match canonicalKey key with
  | "$count" => some .count
  | "$sum" => some (.numeric .sum)
  | "$avg" => some (.numeric .average)
  | "$min" => some (.numeric .minimum)
  | "$max" => some (.numeric .maximum)
  | _ => none

/-- The field that identifies a document. -/
def idField : String := "id"

end DocStore
