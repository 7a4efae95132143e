import DocStore.Client.Interface
import DocStore.Result

/-!
# Finding documents

A collection that does not exist holds no documents.
-/

namespace DocStore

namespace Client

open ClientAction

variable (settings : ClientSettings)

/-- Reads the document of a row and keeps the fields of a projection. -/
def readRow (projection : Option Members) (row : Value) : Except Fault Members := do
  let stored ← Document.column row Dialect.documentColumn
  let document ← Document.decode stored
  Document.project document (.optional .object projection)

/-- The documents that match a filter. -/
def find (collection : String) (filter : Value) (options : FindOptions)
    (session : Option SessionId) : ClientAction (List Members) := do
  if ← tableExists collection then do
    let selection ← request settings (.select collection filter options)
    let rows ← rowsOf selection session
    Action.ofFault (rows.mapM (readRow options.projection))
  else pure []

/-- The first document that matches a filter. -/
def findOne (collection : String) (filter : Value) (options : FindOptions)
    (session : Option SessionId) : ClientAction (Option Members) := do
  let documents ← find settings collection filter { options with limit := some 1 } session
  pure documents.head?

/-- The number in the first row of a count. -/
def readCount : List Value → Except Fault Int
  | [] => .ok 0
  | row :: _ => do
      let count ← Document.column row "count"
      count.toInteger

def countDocuments (collection : String) (filter : Value) (session : Option SessionId) :
    ClientAction Int := do
  if ← tableExists collection then do
    let counting ← request settings (.count collection filter)
    let rows ← rowsOf counting session
    Action.ofFault (readCount rows)
  else pure 0

/-- The documents that a pipeline yields. -/
def aggregate (collection : String) (pipeline : Value) (session : Option SessionId) :
    ClientAction (List Value) := do
  if ← tableExists collection then do
    let plan ← Action.ofLogged (PipelinePlan.compile settings collection pipeline)
    let rows ← rowsOf
      { command := .aggregate collection pipeline, statement := plan.statement } session
    Action.ofFault do
      let documents ← plan.decodeRows rows
      plan.applyPost documents
  else pure []

end Client

/-! ## Pages

A page holds the documents after a boundary in the order of one field.  One more
document than a page holds is asked for, which tells whether more follow.
-/

namespace Client

variable (settings : ClientSettings)

/-- The sort order of pages: the given one, or the one of the cursor field. -/
def pageSort (options : CursorOptions) : SortOrder :=
  match options.sort with
  | some (item :: items) => item :: items
  | _ => [(options.cursorField, if options.reverse then .descending else .ascending)]

def boundFilter (options : CursorOptions) : Value :=
  .object
    [ (options.cursorField,
        .object [(if options.reverse then "$lt" else "$gt", options.cursorValue)]) ]

def pageFilter (filter : Value) (options : CursorOptions) : Value :=
  if options.cursorValue.isNull then filter
  else if filter.isTruthy then .object [("$and", .list [filter, boundFilter options])]
  else boundFilter options

/-- The cursor for the next page: the field of the last document of a full page. -/
def nextCursor (options : CursorOptions) (page : List Members) : Value :=
  if page.length = options.limit then
    (page.getLast?.map fun document => document.getD options.cursorField).getD .null
  else .null

def findPage (collection : String) (filter : Value) (options : CursorOptions)
    (session : Option SessionId) : ClientAction CursorPage := do
  let documents ← find settings collection (pageFilter filter options)
    { sort := some (pageSort options), limit := some (options.limit + 1) } session
  let page := documents.take options.limit
  let totalCount ←
    if options.count then do
      let count ← countDocuments settings collection filter session
      pure (some count)
    else pure none
  Action.ofReport (CursorPage.make settings.scalars page (nextCursor options page)
    (options.limit < documents.length) totalCount)

end Client

end DocStore
