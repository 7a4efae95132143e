import DocStore.Document
import DocStore.Error
import DocStore.Options.Check
import DocStore.Sql.Statement

/-!
# Index descriptions from catalogs

The catalogs report an index by the text of its definition.  The field paths are
read back from the path literals in that text.
-/

namespace DocStore

/-- An index as the catalog reports it: its fields with their directions. -/
structure IndexDescription where
  name : String
  key : List (Key × Int)
  unique : Bool
deriving DecidableEq

namespace Catalog

/-- Reads a quoted text up to its closing quote, a doubled quote standing for
itself as written.  The rest begins after the closing quote. -/
def readQuoted : List Char → Option (List Char × List Char)
  | [] => none
  | '\'' :: '\'' :: rest =>
      (readQuoted rest).map fun (content, rest) => ('\'' :: '\'' :: content, rest)
  | '\'' :: rest => some ([], rest)
  | character :: rest =>
      (readQuoted rest).map fun (content, rest) => (character :: content, rest)

/-- Reads a quoted text that may lack its closing quote.  Then the first half of
its last doubled quote closes it. -/
def readLooselyQuoted : List Char → Option (List Char × List Char)
  | [] => none
  | '\'' :: '\'' :: rest =>
      match readLooselyQuoted rest with
      | some (content, rest) => some ('\'' :: '\'' :: content, rest)
      | none => some ([], '\'' :: rest)
  | '\'' :: rest => some ([], rest)
  | character :: rest =>
      (readLooselyQuoted rest).map fun (content, rest) => (character :: content, rest)

def singleQuotes : List Char → List Char
  | '\'' :: '\'' :: rest => '\'' :: singleQuotes rest
  | character :: rest => character :: singleQuotes rest
  | [] => []

/-- The dotted path of segments that may stand in double quotes. -/
def dottedPath (separator : Char) (text : List Char) : String :=
  String.intercalate "." ((cutAt separator text).map fun segment =>
    String.ofList (trimEnds (· == '"') segment))

def after? (word : String) (text : List Char) : Option (List Char) :=
  Json.afterWord? word.toList text

/-- The rest of a text after a word, or the text itself. -/
def afterOptional (word : String) (text : List Char) : List Char :=
  (after? word text).getD text

/-- One key of a Postgres index definition at the start of a text, and what
follows it. -/
def postgresKey? (text : List Char) : Option ((Key × Int) × List Char) := do
  let rest ← after? "data " text
  let (nested, rest) ←
    match after? "->> '" rest with
    | some rest => some (false, rest)
    | none => (after? "#>> '" rest).map fun rest => (true, rest)
  let (content, rest) ← readQuoted rest
  let rest ← after? "::text" rest
  let rest ← after? ")" (afterOptional "[]" rest)
  let rest := rest.dropWhile (· == ')')
  let path := singleQuotes content
  let field : Key :=
    if nested then dottedPath ',' (trimEnds (fun c => c == '\x7b' || c == '\x7d') path)
    else String.ofList path
  match after? " DESC" rest with
  | some rest => some ((field, -1), rest)
  | none => some ((field, 1), rest)

/-- All keys of a Postgres index definition, from left to right. -/
def postgresKeysFrom : Nat → List Char → List (Key × Int)
  | 0, _ => []
  | _ + 1, [] => []
  | fuel + 1, text@(_ :: tail) =>
      match postgresKey? text with
      | some (key, rest) => key :: postgresKeysFrom fuel rest
      | none => postgresKeysFrom fuel tail

/-- Sets the direction of a field where it stands, or adds it at the end. -/
def setKey (field : Key) (direction : Int) : List (Key × Int) → List (Key × Int)
  | [] => [(field, direction)]
  | (known, old) :: keys =>
      if known.same field then (known, direction) :: keys
      else (known, old) :: setKey field direction keys

/-- Keys in order, a repeated field keeping its first place. -/
def mergeKeys (keys : List (Key × Int)) : List (Key × Int) :=
  keys.foldl (fun merged key => setKey key.1 key.2 merged) []

def postgresKeys (definition : String) : List (Key × Int) :=
  let text := definition.toList
  mergeKeys (postgresKeysFrom (text.length + 1) text)

/-- The path inside the first MySQL path literal of a text. -/
def mysqlPath? : List Char → Option (List Char)
  | [] => none
  | text@(_ :: tail) =>
      match (after? "'$." text).bind readLooselyQuoted with
      | some (content, _) => some content
      | none => mysqlPath? tail

/-- The member of a row; a value that is no row has none. -/
def rowMember (row : Value) (name : String) : Except Fault Value := do
  let members ← row.asObject
  pure (members.getD name)

/-- A text column that may be missing or null. -/
def textOrEmpty (value : Value) : Except Fault String :=
  if !value.isTruthy then .ok ""
  else
    match value with
    | .text content => .ok content
    | _ => .error .unsuitableKind

/-- The name of an index, which must be a text or the bytes of one. -/
def indexName (scalars : ScalarReader) (value : Value) : Except Failure String :=
  ((Check.text scalars [.key "name"] value).report "IndexDescription").mapError .options

def postgresIndex (scalars : ScalarReader) (row : Value) : Except Failure IndexDescription := do
  let definition ← rowMember row "definition"
  let definition ← textOrEmpty definition
  let name ← Document.column row "name"
  let name ← indexName scalars name
  pure
    { name
      key := postgresKeys definition
      unique := occursIn "UNIQUE".toList definition.toList }

/-- The field of a MySQL row: that of its expression, or else its column. -/
def mysqlField (expression : String) (column : Value) : Except Fault (Option Key) :=
  match mysqlPath? expression.toList with
  | some path =>
      let field := dottedPath '.' (singleQuotes path)
      .ok (if field.isEmpty then none else some (.text field))
  | none => if !column.isTruthy then .ok none else column.asKey.map some

/-- Adds a field to the description with a label, which is created with a name if it is
missing. -/
def addMysqlField (label : Key) (name : String) (unique : Bool) (key : Option (Key × Int)) :
    List (Key × IndexDescription) → List (Key × IndexDescription)
  | [] => [(label, { name, key := key.toList, unique })]
  | (known, description) :: descriptions =>
      if known.same label then
        (known, match key with
          | some (field, direction) =>
              { description with key := setKey field direction description.key }
          | none => description) :: descriptions
      else (known, description) :: addMysqlField label name unique key descriptions

/-- Takes one MySQL row into the descriptions; an index has a row for each of its
keys.  The rows of one index are those with one name as the engine returned it. -/
def addMysqlRow (scalars : ScalarReader) (descriptions : List (Key × IndexDescription))
    (row : Value) : Except Failure (List (Key × IndexDescription)) := do
  let given ← Document.column row "name"
  let nonUnique ← rowMember row "non_unique"
  let name ← indexName scalars given
  let label ← given.asKey
  let collation ← rowMember row "collation"
  let expression ← rowMember row "expression"
  let expression ← textOrEmpty expression
  let column ← rowMember row "column_name"
  let field ← mysqlField expression column
  let direction : Int := if collation.equal (.text "D") then -1 else 1
  pure (addMysqlField label name (!nonUnique.isTruthy)
    (field.map fun field => (field, direction)) descriptions)

def indexes (scalars : ScalarReader) (dialect : Dialect) (rows : List Value) :
    Except Failure (List IndexDescription) :=
  match dialect with
  | .postgres => rows.mapM (postgresIndex scalars)
  | .mysql => do
      let descriptions ← rows.foldlM (addMysqlRow scalars) []
      pure (descriptions.map Prod.snd)

end Catalog

end DocStore
