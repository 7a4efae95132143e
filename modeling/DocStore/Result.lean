import DocStore.Options.Check
import DocStore.Sql.Catalog

/-!
# Results of calls
-/

namespace DocStore

/-- The handle of a created collection. -/
structure Collection where
  name : String

/-- What an insertion of one document did. -/
structure InsertOneResult where
  acknowledged : Bool := true
  insertedId : Value := .null
  rowId : Option Int := none
  inserted : Members

/-- What an insertion of several documents did. -/
structure InsertManyResult where
  acknowledged : Bool := true
  insertedIds : List Value := []
  rowIds : List Int := []
  inserted : List Members := []

structure UpdateResult where
  acknowledged : Bool := true
  matchedCount : Int := 0
  modifiedCount : Int := 0
  upsertedId : Value := .null

structure DeleteResult where
  acknowledged : Bool := true
  deletedCount : Int := 0

structure CursorPage where
  data : List Members := []
  /-- The cursor for the next page, if this page is full. -/
  nextCursor : Value := .null
  hasMore : Bool := false
  totalCount : Option Int := none

open FieldCheck

def Collection.check : Check Collection :=
  toCheck "Collection" fun scalars place members =>
    Collection.mk <$> required "name" .text scalars place members

def IndexDescription.check : Check IndexDescription :=
  toCheck "IndexDescription" fun scalars place members =>
    IndexDescription.mk
      <$> required "name" .text scalars place members
      <*> withDefault "key" [] (fun scalars place value =>
        (Check.table .integer scalars place value).map fun entries =>
          entries.map fun entry => (.text entry.1, entry.2)) scalars place members
      <*> withDefault "unique" false .truth scalars place members

def InsertOneResult.check : Check InsertOneResult :=
  toCheck "InsertOneResult" fun scalars place members =>
    InsertOneResult.mk
      <$> withDefault "acknowledged" true .truth scalars place members
      <*> withDefault "inserted_id" .null .anything scalars place members
      <*> withDefault "row_id" none (.nullable .integer) scalars place members
      <*> required "inserted" (.object .anything) scalars place members

def InsertManyResult.check : Check InsertManyResult :=
  toCheck "InsertManyResult" fun scalars place members =>
    InsertManyResult.mk
      <$> withDefault "acknowledged" true .truth scalars place members
      <*> withDefault "inserted_ids" [] (.list .anything) scalars place members
      <*> withDefault "row_ids" [] (.list .integer) scalars place members
      <*> withDefault "inserted" [] (.list (.object .anything)) scalars place members

def UpdateResult.check : Check UpdateResult :=
  toCheck "UpdateResult" fun scalars place members =>
    UpdateResult.mk
      <$> withDefault "acknowledged" true .truth scalars place members
      <*> withDefault "matched_count" 0 .integer scalars place members
      <*> withDefault "modified_count" 0 .integer scalars place members
      <*> withDefault "upserted_id" .null .anything scalars place members

def DeleteResult.check : Check DeleteResult :=
  toCheck "DeleteResult" fun scalars place members =>
    DeleteResult.mk
      <$> withDefault "acknowledged" true .truth scalars place members
      <*> withDefault "deleted_count" 0 .integer scalars place members

def CursorPage.check : Check CursorPage :=
  toCheck "CursorPage" fun scalars place members =>
    CursorPage.mk
      <$> withDefault "data" [] (.list (.object .anything)) scalars place members
      <*> withDefault "next_cursor" .null .anything scalars place members
      <*> withDefault "has_more" false .truth scalars place members
      <*> withDefault "total_count" none (.nullable .integer) scalars place members

/-! ## Results of documents and row ids

The keys of a document in a result are texts, and row ids are integers. -/

def InsertOneResult.make (scalars : ScalarReader) (insertedId rowId : Value) (inserted : Members) :
    Except IssueReport InsertOneResult :=
  (InsertOneResult.check scalars []
    (.object
      [ ("inserted_id", insertedId), ("row_id", rowId),
        ("inserted", .object inserted) ])).report "InsertOneResult"

def InsertManyResult.make (scalars : ScalarReader) (insertedIds rowIds : List Value)
    (inserted : List Members) : Except IssueReport InsertManyResult :=
  (InsertManyResult.check scalars []
    (.object
      [ ("inserted_ids", .list insertedIds), ("row_ids", .list rowIds),
        ("inserted", .list (inserted.map .object)) ])).report "InsertManyResult"

def CursorPage.make (scalars : ScalarReader) (data : List Members) (nextCursor : Value)
    (hasMore : Bool) (totalCount : Option Int) : Except IssueReport CursorPage :=
  (CursorPage.check scalars []
    (.object
      [ ("data", .list (data.map .object)), ("next_cursor", nextCursor),
        ("has_more", .bool hasMore),
        ("total_count", .optional .int totalCount) ])).report "CursorPage"

/-! ## Results as data -/

def Collection.toValue (collection : Collection) : Value :=
  .object [("name", .text collection.name)]

def IndexDescription.toValue (description : IndexDescription) : Value :=
  .object
    [ ("name", .text description.name),
      ("key", .object (description.key.map fun key => (key.1, .int key.2))),
      ("unique", .bool description.unique) ]

def InsertOneResult.toValue (result : InsertOneResult) : Value :=
  .object
    [ ("acknowledged", .bool result.acknowledged), ("inserted_id", result.insertedId),
      ("row_id", .optional .int result.rowId), ("inserted", .object result.inserted) ]

def InsertManyResult.toValue (result : InsertManyResult) : Value :=
  .object
    [ ("acknowledged", .bool result.acknowledged), ("inserted_ids", .list result.insertedIds),
      ("row_ids", .list (result.rowIds.map .int)),
      ("inserted", .list (result.inserted.map .object)) ]

def UpdateResult.toValue (result : UpdateResult) : Value :=
  .object
    [ ("acknowledged", .bool result.acknowledged), ("matched_count", .int result.matchedCount),
      ("modified_count", .int result.modifiedCount), ("upserted_id", result.upsertedId) ]

def DeleteResult.toValue (result : DeleteResult) : Value :=
  .object
    [("acknowledged", .bool result.acknowledged), ("deleted_count", .int result.deletedCount)]

def CursorPage.toValue (page : CursorPage) : Value :=
  .object
    [ ("data", .list (page.data.map .object)), ("next_cursor", page.nextCursor),
      ("has_more", .bool page.hasMore), ("total_count", .optional .int page.totalCount) ]

end DocStore
