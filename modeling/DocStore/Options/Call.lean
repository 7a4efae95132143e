import DocStore.Operator
import DocStore.Options.Check
import DocStore.Value.Equality

/-!
# Options of single calls
-/

namespace DocStore

inductive Direction where
  | ascending
  | descending
deriving DecidableEq, Repr

namespace Direction

/-- The number that stands for a direction. -/
def sign : Direction → Int
  | ascending => 1
  | descending => -1

/-- Reads a direction: one or minus one, as any kind of number. -/
def check : Check Direction := fun _ place value =>
  if value.equal (.int 1) then .accepted .ascending
  else if value.equal (.int (-1)) then .accepted .descending
  else .reject place (.outsideChoices ["1", "-1"])

end Direction

/-- Fields with the directions in which they are sorted, the first field first. -/
abbrev SortOrder := List (String × Direction)

def SortOrder.toValue (order : SortOrder) : Value :=
  .object (order.map fun item => (.text item.1, .int item.2.sign))

/-- Reads the flag of a projection: an integer or a truth value stays what it is,
and any other value is read as an integer or else as a truth value. -/
def projectionFlag : Check Value := fun scalars place value =>
  match value with
  | .int number => .accepted (.int number)
  | .bool flag => .accepted (.bool flag)
  | value =>
      match Check.integer scalars (place ++ [.key "int"]) value with
      | .accepted number => .accepted (.int number)
      | .rejected integerIssues =>
          match Check.truth scalars (place ++ [.key "bool"]) value with
          | .accepted flag => .accepted (.bool flag)
          | .rejected truthIssues => .rejected (integerIssues ++ truthIssues)

structure FindOptions where
  limit : Option Nat := none
  skip : Option Nat := none
  sort : Option SortOrder := none
  projection : Option Members := none

namespace FindOptions

open FieldCheck

def fields : FieldCheck FindOptions := fun scalars place members =>
  FindOptions.mk
    <$> withDefault "limit" none (.nullable (.naturalFrom 0)) scalars place members
    <*> withDefault "skip" none (.nullable (.naturalFrom 0)) scalars place members
    <*> withDefault "sort" none (.nullable (.table Direction.check)) scalars place members
    <*> withDefault "projection" none (.nullable (.object projectionFlag)) scalars place members

/-- Reads the options from data. -/
def check : Check FindOptions :=
  toCheck "FindOptions" (closed ["limit", "skip", "sort", "projection"] fields)

def toValue (options : FindOptions) : Value :=
  .object
    [ ("limit", .optional .natural options.limit),
      ("skip", .optional .natural options.skip),
      ("sort", .optional SortOrder.toValue options.sort),
      ("projection", .optional .object options.projection) ]

end FindOptions

/-- Options of a paged search. -/
structure CursorOptions where
  /-- The field on which pages are ordered and cut. -/
  cursorField : String := idField
  /-- The boundary taken from the page before. -/
  cursorValue : Value := .null
  limit : Nat := 10
  reverse : Bool := false
  /-- Whether the number of all matching documents is wanted too. -/
  count : Bool := false
  sort : Option SortOrder := none

namespace CursorOptions

open FieldCheck

def fields : FieldCheck CursorOptions := fun scalars place members =>
  CursorOptions.mk
    <$> withDefault "cursor_field" idField .text scalars place members
    <*> withDefault "cursor_value" .null .anything scalars place members
    <*> withDefault "limit" 10 (.naturalFrom 1) scalars place members
    <*> withDefault "reverse" false .truth scalars place members
    <*> withDefault "count" false .truth scalars place members
    <*> withDefault "sort" none (.nullable (.table Direction.check)) scalars place members

/-- Reads the options from data. -/
def check : Check CursorOptions :=
  toCheck "CursorOptions"
    (closed ["cursor_field", "cursor_value", "limit", "reverse", "count", "sort"] fields)

def toValue (options : CursorOptions) : Value :=
  .object
    [ ("cursor_field", .text options.cursorField), ("cursor_value", options.cursorValue),
      ("limit", .natural options.limit), ("reverse", .bool options.reverse),
      ("count", .bool options.count), ("sort", .optional SortOrder.toValue options.sort) ]

end CursorOptions

structure UpdateOptions where
  /-- Whether a document is inserted when none matches. -/
  upsert : Bool := false

namespace UpdateOptions

open FieldCheck

/-- Reads the options from data. -/
def check : Check UpdateOptions :=
  toCheck "UpdateOptions" (closed ["upsert"] fun scalars place members =>
    UpdateOptions.mk <$> withDefault "upsert" false .truth scalars place members)

def toValue (options : UpdateOptions) : Value := .object [("upsert", .bool options.upsert)]

end UpdateOptions

structure IndexOptions where
  unique : Bool := false
  name : Option String := none

namespace IndexOptions

open FieldCheck

/-- Reads the options from data. -/
def check : Check IndexOptions :=
  toCheck "IndexOptions" (closed ["unique", "name"] fun scalars place members =>
    IndexOptions.mk
      <$> withDefault "unique" false .truth scalars place members
      <*> withDefault "name" none (.nullable .text) scalars place members)

def toValue (options : IndexOptions) : Value :=
  .object [("unique", .bool options.unique), ("name", .optional .text options.name)]

end IndexOptions

end DocStore
