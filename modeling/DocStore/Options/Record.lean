import DocStore.Options.Call
import DocStore.Options.Client
import DocStore.Result

/-!
# Records by name

The data of every kind of record can be checked by the name of the kind.  What is
accepted comes back as data with all fields.
-/

namespace DocStore

namespace Record

/-- Checks data and gives the record back as data. -/
def complete {α : Type} (scalars : ScalarReader) (name : String) (check : Check α)
    (toValue : α → Value) (data : Value) : Except IssueReport Value :=
  ((check scalars [] data).report name).map toValue

def check? (name : String) (scalars : ScalarReader := .lenient) :
    Option (Value → Except IssueReport Value) :=
  let complete {α : Type} : Check α → (α → Value) → Value → Except IssueReport Value :=
    complete scalars name
  match name with
  | "FindOptions" => some (complete FindOptions.check FindOptions.toValue)
  | "CursorOptions" => some (complete CursorOptions.check CursorOptions.toValue)
  | "UpdateOptions" => some (complete UpdateOptions.check UpdateOptions.toValue)
  | "IndexOptions" => some (complete IndexOptions.check IndexOptions.toValue)
  | "ConnectionConfig" => some (complete ConnectionConfig.check ConnectionConfig.toValue)
  | "ClientOptions" => some (complete ClientOptions.check ClientOptions.toValue)
  | "Collection" => some (complete Collection.check Collection.toValue)
  | "IndexDescription" => some (complete IndexDescription.check IndexDescription.toValue)
  | "InsertOneResult" => some (complete InsertOneResult.check InsertOneResult.toValue)
  | "InsertManyResult" => some (complete InsertManyResult.check InsertManyResult.toValue)
  | "UpdateResult" => some (complete UpdateResult.check UpdateResult.toValue)
  | "DeleteResult" => some (complete DeleteResult.check DeleteResult.toValue)
  | "CursorPage" => some (complete CursorPage.check CursorPage.toValue)
  | _ => none

end Record

end DocStore
