import DocStore.Sql.Fragment
import DocStore.Text.Cut

/-!
# Expressions of the two dialects

Every expression over a document field that the compilers need: its value as
JSON and as text, tests of its type, and the typed projections that comparisons
use.  A typed projection is NULL unless the stored value has the wanted type, so
a value of another type is never cast and never matches.
-/

namespace DocStore

/-! ## Field paths

A field path is a text whose segments are separated by dots; empty segments do
not count.  Inside a path literal a segment that is no plain name is written in
double quotes with backslash escapes.
-/

namespace Sql

/-- The segments of a dotted field path. -/
def splitPath (path : String) : List String :=
  ((cutAt '.' path.toList).filter fun segment => !segment.isEmpty).map String.ofList

/-- An ASCII letter or an underscore. -/
def isNameStart (character : Char) : Bool := character.isAlpha || character == '_'

/-- An ASCII letter, a digit or an underscore. -/
def isNamePart (character : Char) : Bool := character.isAlphanum || character == '_'

/-- The body of a name: its characters without one line feed at the end, which
the test for names passes over. -/
def nameBody (characters : List Char) : List Char :=
  if characters.getLast? = some '\n' then characters.dropLast else characters

/-- Whether a segment is a plain name. -/
def isSimpleKey (segment : String) : Bool :=
  match nameBody segment.toList with
  | [] => false
  | first :: rest => isNameStart first && rest.all isNamePart

def escapeSegmentCharacter (character : Char) : List Char :=
  if character = '\\' ∨ character = '"' then ['\\', character] else [character]

def segmentText (segment : String) : String :=
  if isSimpleKey segment then segment
  else String.ofList ('"' :: (segment.toList.flatMap escapeSegmentCharacter ++ ['"']))

def arrayContent (segments : List String) : String :=
  "\x7b" ++ String.intercalate "," (segments.map segmentText) ++ "\x7d"

def dollarContent (segments : List String) : String :=
  "$." ++ String.intercalate "." (segments.map segmentText)

end Sql

/-! ## Expressions -/

/-- The types of JSON scalars that comparisons tell apart. -/
inductive JsonType where
  | number
  | string
  | boolean
deriving DecidableEq, Repr

def JsonType.name : JsonType → String
  | .number => "number"
  | .string => "string"
  | .boolean => "boolean"

/-- The JSON type of a scalar operand; other values have none. -/
def Value.jsonType? : Value → Option JsonType
  | .bool _ => some .boolean
  | .int _ => some .number
  | .float _ => some .number
  | .text _ => some .string
  | _ => none

/-- An operand in the form in which the engine holds the projected text: truth
values become their JSON names. -/
def Value.boundForm : Value → Value
  | .bool flag => .text (if flag then "true" else "false")
  | value => value

namespace Dialect

open Sql

def documentColumn : String := "data"

def rowColumn : String := "id"

def jsonPath (dialect : Dialect) (path : String) : Fragment :=
  match dialect with
  | .postgres =>
      match splitPath path with
      | [segment] => [.raw (documentColumn ++ "->"), .literal segment]
      | segments => [.raw (documentColumn ++ " #> "), .literal (arrayContent segments)]
  | .mysql =>
      [ .raw ("JSON_EXTRACT(" ++ documentColumn ++ ", "),
        .literal (dollarContent (splitPath path)), .raw ")" ]

/-- The value at a path as text. -/
def fieldPath (dialect : Dialect) (path : String) : Fragment :=
  match dialect with
  | .postgres =>
      match splitPath path with
      | [segment] => [.raw (documentColumn ++ "->>"), .literal segment]
      | segments => [.raw (documentColumn ++ " #>> "), .literal (arrayContent segments)]
  | .mysql => .raw "JSON_UNQUOTE(" :: (jsonPath dialect path ++ [.raw ")"])

def engineTypeNames : JsonType → String
  | .number => "'INTEGER', 'UNSIGNED INTEGER', 'DOUBLE', 'DECIMAL'"
  | .string => "'STRING'"
  | .boolean => "'BOOLEAN'"

def postgresTypeTest (path typeName : String) : Fragment :=
  .raw "jsonb_typeof(" :: (jsonPath .postgres path ++ [.raw ") = ", .literal typeName])

/-- Tests that the value at a path has a JSON type. -/
def hasType (dialect : Dialect) (path : String) (type : JsonType) : Fragment :=
  match dialect with
  | .postgres => postgresTypeTest path type.name
  | .mysql =>
      .raw "JSON_TYPE("
        :: (jsonPath .mysql path ++ [.raw (") IN (" ++ engineTypeNames type ++ ")")])

/-- Tests a type given by its name.  Postgres knows every name; MySQL knows those
of the three scalar types. -/
def hasTypeNamed (dialect : Dialect) (path typeName : String) : Except Fault Fragment :=
  match dialect with
  | .postgres => .ok (postgresTypeTest path typeName)
  | .mysql =>
      match [JsonType.number, .string, .boolean].find? fun type => type.name == typeName with
      | some type => .ok (hasType .mysql path type)
      | none => .error .missingEntry

/-- Casts a text expression to an exact number. -/
def numeric (dialect : Dialect) (expression : Fragment) : Fragment :=
  .raw "CAST(" :: (expression ++ [.raw (match dialect with
    | .postgres => " AS NUMERIC)"
    | .mysql => " AS DECIMAL(65, 10))")])

/-- An expression that is NULL unless the value at `path` has the type. -/
def guarded (dialect : Dialect) (path : String) (type : JsonType) (expression : Fragment) :
    Fragment :=
  .raw "CASE WHEN " :: (hasType dialect path type
    ++ .raw " THEN " :: (expression ++ [.raw " END"]))

def numericValue (dialect : Dialect) (path : String) : Fragment :=
  guarded dialect path .number (numeric dialect (fieldPath dialect path))

/-- The projection of a path that compares with an operand of a type. -/
def typedValue (dialect : Dialect) (path : String) : JsonType → Fragment
  | .number => numericValue dialect path
  | type => guarded dialect path type (fieldPath dialect path)

/-- The projection of a path that compares with an operand; an operand that is no
typed scalar compares with the text at the path. -/
def comparable (dialect : Dialect) (path : String) (operand : Value) : Fragment :=
  match operand.jsonType? with
  | some type => typedValue dialect path type
  | none => fieldPath dialect path

/-- Matches a missing field and a JSON null. -/
def isNull (dialect : Dialect) (path : String) : Fragment :=
  match dialect with
  | .postgres => fieldPath .postgres path ++ [.raw " IS NULL"]
  | .mysql =>
      .raw "(" :: (jsonPath .mysql path ++ .raw " IS NULL OR JSON_TYPE("
        :: (jsonPath .mysql path ++ [.raw ") = 'NULL')"]))

/-- Matches every value but a JSON null. -/
def isNotNull (dialect : Dialect) (path : String) : Fragment :=
  match dialect with
  | .postgres => fieldPath .postgres path ++ [.raw " IS NOT NULL"]
  | .mysql =>
      .raw "(" :: (jsonPath .mysql path ++ .raw " IS NOT NULL AND JSON_TYPE("
        :: (jsonPath .mysql path ++ [.raw ") <> 'NULL')"]))

/-- MySQL has no offset without a limit; this number stands for none. -/
def unlimited : Int := 18446744073709551615

/-- The limit that is written: MySQL adds one to a lone offset. -/
def effectiveLimit (dialect : Dialect) (limit offset : Value) : Value :=
  match dialect with
  | .postgres => limit
  | .mysql => if offset.isTruthy && limit.isNull then .int unlimited else limit

/-- A paging line; a number with too many digits cannot be written. -/
def pagingLine (word : String) (amount : Value) : Except Fault String := do
  let count ← amount.toInteger
  if isWritableInteger count then pure (word ++ toString count) else throw .malformedValue

/-- The paging lines of a statement. -/
def paging (dialect : Dialect) (limit offset : Value) : Except Fault (List String) := do
  let limit := effectiveLimit dialect limit offset
  let limitLine ←
    if limit.isNull then pure []
    else (pagingLine "LIMIT " limit).map fun line => [line]
  let offsetLine ←
    if offset.isTruthy then (pagingLine "OFFSET " offset).map fun line => [line]
    else pure []
  pure (limitLine ++ offsetLine)

end Dialect

end DocStore
