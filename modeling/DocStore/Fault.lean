/-!
# Faults

An operation on dynamic values has no result when a value has the wrong kind,
the wrong form, or no counterpart in the kind it should become.  A fault is the
reason, without a wording.
-/

namespace DocStore

/-- Why an operation has no result for the values it was given. -/
inductive Fault where
  /-- A value of a kind that the operation does not take. -/
  | unsuitableKind
  /-- Members were asked of a value that is no object. -/
  | notAnObject
  /-- A row or a table of names lacks the entry asked for. -/
  | missingEntry
  /-- A value of the right kind with a malformed content. -/
  | malformedValue
  /-- A number without a counterpart in the kind it should become. -/
  | outOfRange
  /-- A text that is no JSON document. -/
  | malformedJson
  /-- Bytes that are no UTF-8 text. -/
  | malformedUtf8
  /-- A comparison or an operation of decimals that has no result. -/
  | undefinedDecimal
  /-- A decimal beyond the greatest one. -/
  | oversizedDecimal
  /-- A division of numbers by zero. -/
  | divisionByZero
  /-- An address of a schema under which nothing is found. -/
  | missingResource
  /-- An address of a schema that was not taken in under that address. -/
  | unknownResource
  /-- A pointer to a place that a schema does not have. -/
  | missingPlace
  /-- The name of an anchor that a schema does not have. -/
  | missingAnchor
  /-- A text that cannot be the name of an anchor. -/
  | malformedAnchor
  /-- A schema that refers to a place that does not exist. -/
  | unresolvedReference
  /-- A validation that comes to no end. -/
  | endless
  /-- A schema with a type that has no known name. -/
  | unknownType
  /-- A text that is no pattern. -/
  | malformedPattern
deriving DecidableEq, Repr

end DocStore
