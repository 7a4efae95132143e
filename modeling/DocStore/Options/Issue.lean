import DocStore.Value.Display

/-!
# Issues of rejected options

Data for an option record is checked field by field, and every violation is
reported as an issue with its place in the data.
-/

namespace DocStore

/-- One step from a value to one of its parts. -/
inductive Step where
  | key (name : Key)
  | index (position : Nat)
  /-- From an object to a key itself. -/
  | keyItself
deriving DecidableEq

/-- The place of a value inside a larger one. -/
abbrev Place := List Step

/-- What is wrong with a value. -/
inductive IssueKind where
  | missing
  | unknownField
  | notRecord (record : String)
  | notInteger
  | fractionalInteger
  | malformedInteger
  | oversizedInteger
  | infiniteInteger
  | notNumber
  | malformedNumber
  | notTruthValue
  | malformedTruthValue
  | notText
  | malformedText
  | notTable
  | notList
  | belowLeast (bound : Int)
  | notAbove (bound : Int)
  | outsideChoices (choices : List String)
deriving DecidableEq, Repr

namespace IssueKind

def tag : IssueKind → String
  | missing => "missing"
  | unknownField => "extra_forbidden"
  | notRecord _ => "model_type"
  | notInteger => "int_type"
  | fractionalInteger => "int_from_float"
  | malformedInteger => "int_parsing"
  | oversizedInteger => "int_parsing_size"
  | infiniteInteger => "finite_number"
  | notNumber => "float_type"
  | malformedNumber => "float_parsing"
  | notTruthValue => "bool_type"
  | malformedTruthValue => "bool_parsing"
  | notText => "string_type"
  | malformedText => "string_unicode"
  | notTable => "dict_type"
  | notList => "list_type"
  | belowLeast _ => "greater_than_equal"
  | notAbove _ => "greater_than"
  | outsideChoices _ => "literal_error"

/-- Readable text of an issue. -/
def message : IssueKind → String
  | missing => "Field required"
  | unknownField => "Extra inputs are not permitted"
  | notRecord record => "Input should be a valid dictionary or instance of " ++ record
  | notInteger => "Input should be a valid integer"
  | fractionalInteger =>
      "Input should be a valid integer, got a number with a fractional part"
  | malformedInteger =>
      "Input should be a valid integer, unable to parse string as an integer"
  | oversizedInteger =>
      "Unable to parse input string as an integer, exceeded maximum size"
  | infiniteInteger => "Input should be a finite number"
  | notNumber => "Input should be a valid number"
  | malformedNumber =>
      "Input should be a valid number, unable to parse string as a number"
  | notTruthValue => "Input should be a valid boolean"
  | malformedTruthValue => "Input should be a valid boolean, unable to interpret input"
  | notText => "Input should be a valid string"
  | malformedText =>
      "Input should be a valid string, unable to parse raw data as a unicode string"
  | notTable => "Input should be a valid dictionary"
  | notList => "Input should be a valid list"
  | belowLeast bound => "Input should be greater than or equal to " ++ toString bound
  | notAbove bound => "Input should be greater than " ++ toString bound
  | outsideChoices choices => "Input should be " ++ String.intercalate " or " choices

end IssueKind

/-- An issue and the place of the value it is about. -/
structure Issue where
  place : Place
  kind : IssueKind
deriving DecidableEq

/-- The issues found in the data for one kind of record. -/
structure IssueReport where
  record : String
  issues : List Issue
deriving DecidableEq

/-- The first line of a report. -/
def IssueReport.summary (report : IssueReport) : String :=
  let count := report.issues.length
  toString count ++ " validation error" ++ (if count = 1 then "" else "s")
    ++ " for " ++ report.record

/-- Whether an integer has at most 64 bits. -/
def isSmallInteger (number : Int) : Bool :=
  -Int.ofNat (Nat.pow 2 63) ≤ number && number < Int.ofNat (Nat.pow 2 63)

/-- A key as it is shown in a place: texts and small integers stay what they are,
and every other key is shown by its display form. -/
def Key.inPlace : Key → Value
  | .text content => .text content
  | .bool flag => .int (if flag then 1 else 0)
  | .int number =>
      if isSmallInteger number then .int number
      else .text (Key.int number).display
  | key => .text key.display

def Step.toValue : Step → Value
  | .key name => name.inPlace
  | .index position => .int position
  | .keyItself => .text "[key]"

def Issue.toValue (issue : Issue) : Value :=
  .object
    [ ("loc", .list (issue.place.map Step.toValue)), ("type", .text issue.kind.tag),
      ("msg", .text issue.kind.message) ]

def IssueReport.toValue (report : IssueReport) : Value :=
  .list (report.issues.map Issue.toValue)

end DocStore
