import DocStore.Client.Write
import DocStore.Proofs.Run
import DocStore.Proofs.Tables

/-!
# A database

An engine that carries out all statements on documents.  It decides what the
comparisons say about the fields of a document, in which order documents are found
and how a column shows them.  A filter selects the documents that it accepts.

A statement that is restricted to one id meets the rows whose id equals that id at
that moment.  What other statements for the replacement or removal of a document
meet is left to the database, which counts all rows that such statements meet.  The
documents that it adds or puts in the place of others are those that the statements
bind.
-/

namespace DocStore

/-- What a database keeps. -/
structure Disk where
  tables : Tables
  /-- How often the time or random bytes were asked for. -/
  asked : Nat
  /-- How many rows were replaced or removed. -/
  touched : Nat

namespace Disk

def rows (disk : Disk) (collection : String) : List Members :=
  (disk.tables collection).getD []

def write (disk : Disk) (collection : String) (documents : List Members) : Disk :=
  { disk with tables := disk.tables.write collection documents }

end Disk

structure Database where
  fields : Members → FieldValuation
  arrange : Option SortOrder → List Members → List Members
  arrange_perm : ∀ sort documents, (arrange sort documents).Perm documents
  column : Members → Value
  unkeyed : Value → Members → Bool
  rowIds : Disk → Nat → List Value
  seconds : Nat → Int
  random : Nat → Nat → List UInt8

namespace Database

variable (database : Database)

def accepts (filter : Value) (document : Members) : Bool :=
  Filter.accepts (database.fields document) filter

def row (document : Members) : Value :=
  .object [(Dialect.documentColumn, database.column document)]

/-- The documents that match a filter, in the order of a search. -/
def matched (filter : Value) (sort : Option SortOrder) (documents : List Members) :
    List Members :=
  database.arrange sort (documents.filter (database.accepts filter))

def found (filter : Value) (options : FindOptions) (documents : List Members) : List Members :=
  let rest := (database.matched filter options.sort documents).drop (options.skip.getD 0)
  options.limit.elim rest rest.take

theorem mem_matched {filter : Value} {sort : Option SortOrder} {documents : List Members}
    {document : Members} :
    document ∈ database.matched filter sort documents ↔
      document ∈ documents ∧ database.accepts filter document = true := by
  rw [matched, (database.arrange_perm _ _).mem_iff, List.mem_filter]

theorem mem_of_mem_found {filter : Value} {options : FindOptions} {documents : List Members}
    {document : Members} (member : document ∈ database.found filter options documents) :
    document ∈ documents := by
  unfold found at member
  have arranged : document ∈ database.matched filter options.sort documents := by
    cases limited : options.limit with
    | none =>
        rw [limited] at member
        exact List.mem_of_mem_drop member
    | some limit =>
        rw [limited] at member
        exact List.mem_of_mem_drop (List.mem_of_mem_take member)
  exact (database.mem_matched.mp arranged).1

/-- Whether the statement for the document with an id meets a row. -/
def meets (id : Value) (row : Members) : Bool :=
  if id.isObject then database.unkeyed id row else (database.fields row).equals idField id

/-- Replaces or removes the rows that the statement for an id meets. -/
noncomputable def change (collection : String) (id : Value) (statement : Statement)
    (rewrite : (Members → Bool) → List Members → List Members) :
    StateM Disk (Except Failure (List Value)) :=
  open Classical in
  fun disk =>
    match disk.tables collection with
    | some documents =>
        let met : Members → Bool :=
          if statement.whereClause? = some (idTest statement.dialect id) then
            fun row => (database.fields row).equals idField id
          else database.unkeyed id
        (.ok [], { disk.write collection (rewrite met documents) with
          touched := disk.touched + documents.countP met })
    | none => (.error TableEngine.refusal, disk)

noncomputable def carryOut (request : Request) : StateM Disk (Except Failure (List Value)) :=
  match request.command with
  | .select collection filter options => fun disk =>
      match disk.tables collection with
      | some documents =>
          (.ok ((database.found filter options documents).map database.row), disk)
      | none => (.error TableEngine.refusal, disk)
  | .count collection filter => fun disk =>
      match disk.tables collection with
      | some documents =>
          (.ok [.object [("count", .natural (documents.countP (database.accepts filter)))]],
            disk)
      | none => (.error TableEngine.refusal, disk)
  | .update collection id _ =>
      match request.statement.replacement with
      | .ok document =>
          database.change collection id request.statement fun met documents =>
            documents.map fun row => if met row then document else row
      | .error _ => pure (.error TableEngine.refusal)
  | .delete collection id =>
      database.change collection id request.statement fun met documents =>
        documents.filter fun row => !met row
  | _ => pure (.error TableEngine.refusal)

/-- Adds the documents of an insertion after the rows that there are. -/
def insert (request : Request) (count : Nat) : StateM Disk (Except Failure (List Value)) :=
  match request.command with
  | .insert collection _ => fun disk =>
      match disk.tables collection, request.statement.insertedDocuments with
      | some rows, .ok documents =>
          (.ok (database.rowIds disk count), disk.write collection (rows ++ documents))
      | _, _ => (.error TableEngine.refusal, disk)
  | _ => pure (.error TableEngine.refusal)

/-- Answers the calls of the client. -/
noncomputable def answers : ClientAction.Answers Disk
  | .tableExists collection => fun disk => (.ok (disk.tables collection).isSome, disk)
  | .createTable collection => fun disk => (.ok (), disk.write collection (disk.rows collection))
  | .run request _ => database.carryOut request
  | .insert request count _ => database.insert request count
  | .seconds => fun disk =>
      (.ok (database.seconds disk.asked), { disk with asked := disk.asked + 1 })
  | .randomBytes count => fun disk =>
      (database.random disk.asked count, { disk with asked := disk.asked + 1 })
  | .dropTable _ => pure (.error TableEngine.refusal)
  | .listTables => pure (.error TableEngine.refusal)
  | .direct _ => pure (.error TableEngine.refusal)
  | .createIndex .. => pure (.error TableEngine.refusal)
  | .dropIndex .. => pure (.error TableEngine.refusal)
  | .listIndexes _ => pure (.error TableEngine.refusal)

end Database

/-! ## Runs on a database

What the steps of the verbs come to: searching, counting, and the statements that
replace or remove the document with an id.  A request that does not compile fails
and leaves the database as it is.
-/

namespace Command

variable {settings : ClientSettings} {command : Command} {statement : Statement}
  {entries log : List LogEntry}

theorem request_returns_iff {request : Request} :
    (command.request settings).Returns entries request log ↔
      ∃ statement, (command.compile settings).Returns entries statement log ∧
        { command, statement } = request := by
  constructor
  · intro returned
    obtain ⟨statement, middle, compiled, rest⟩ := Logged.returns_bind.mp returned
    obtain ⟨made, rfl⟩ := Logged.returns_pure.mp rest
    exact ⟨statement, compiled, made⟩
  · rintro ⟨statement, compiled, rfl⟩
    exact Logged.returns_bind.mpr ⟨statement, log, compiled, Logged.returns_pure.mpr ⟨rfl, rfl⟩⟩

/-- A request fails, or the command compiles. -/
theorem request_cases (settings : ClientSettings) (command : Command) :
    (∃ failure, (command.request settings).outcome.1 = .error failure) ∨
      ∃ statement log, (command.compile settings).Returns [] statement log := by
  rcases requested : (command.request settings).outcome with ⟨outcome, log⟩
  cases outcome with
  | error failure => exact .inl ⟨failure, rfl⟩
  | ok request =>
      obtain ⟨statement, compiled, _⟩ := request_returns_iff.mp requested
      exact .inr ⟨statement, log, compiled⟩

end Command

namespace Database

open ClientAction Client

variable {database : Database} {settings : ClientSettings} {collection : String}
  {session : Option SessionId} {schemas : SchemaCatalog} {disk : Disk} {rows : List Members}

/-- The columns of some documents show these documents. -/
def Shows (database : Database) (documents : List Members) : Prop :=
  ∀ document ∈ documents, Document.decode (database.column document) = .ok (.object document)

theorem run_tableExists :
    run database.answers (tableExists collection) schemas disk =
      ((.ok (disk.tables collection).isSome, schemas), disk) := rfl

theorem run_request (command : Command) :
    run database.answers (ClientAction.request settings command) schemas disk =
      (((command.request settings).outcome.1, schemas), disk) :=
  run_ofLogged _ _ _ _

theorem run_request_of_returns {command : Command} {statement : Statement} {log : List LogEntry}
    (compiled : (command.compile settings).Returns [] statement log) :
    run database.answers (ClientAction.request settings command) schemas disk =
      ((.ok { command, statement }, schemas), disk) := by
  have requested : (command.request settings).outcome = (.ok { command, statement }, log) :=
    Command.request_returns_iff.mpr ⟨statement, compiled, rfl⟩
  rw [run_request, requested]

theorem run_rowsOf (request : Request) :
    run database.answers (rowsOf request session) schemas disk =
      (((database.carryOut request disk).1, schemas), (database.carryOut request disk).2) := rfl

/-! ### Searching -/

section Find

variable {filter : Value} {options : FindOptions} {statement : Statement} {log : List LogEntry}

theorem run_find (stored : disk.tables collection = some rows) (shown : database.Shows rows)
    (whole : options.projection = none)
    (compiled : ((Command.select collection filter options).compile settings).Returns []
      statement log) :
    run database.answers (find settings collection filter options session) schemas disk =
      ((.ok (database.found filter options rows), schemas), disk) := by
  have answered : database.carryOut
      { command := .select collection filter options, statement } disk =
        (.ok ((database.found filter options rows).map database.row), disk) := by
    simp [carryOut, stored]
  have read : ((database.found filter options rows).map database.row).mapM
      (readRow options.projection) = .ok (database.found filter options rows) := by
    rw [whole]
    exact mapM_readRow fun document member => shown document (mem_of_mem_found _ member)
  simp only [find, run_bind, run_tableExists, stored, Option.isSome_some, if_true,
    run_request_of_returns compiled, run_rowsOf, answered, run_ofFault, read]
  rfl

/-- A search fails, or yields the documents found. -/
theorem run_find_cases (stored : disk.tables collection = some rows)
    (shown : database.Shows rows) (whole : options.projection = none) :
    (∃ failure, run database.answers (find settings collection filter options session) schemas
        disk = ((.error failure, schemas), disk)) ∨
      run database.answers (find settings collection filter options session) schemas disk =
        ((.ok (database.found filter options rows), schemas), disk) := by
  rcases Command.request_cases settings (.select collection filter options) with
    ⟨failure, failed⟩ | ⟨statement, log, compiled⟩
  · left
    refine ⟨failure, ?_⟩
    simp only [find, run_bind, run_tableExists, stored, Option.isSome_some, if_true, run_request,
      failed]
  · right
    exact run_find stored shown whole compiled

theorem run_countDocuments (stored : disk.tables collection = some rows)
    (compiled : ((Command.count collection filter).compile settings).Returns [] statement log) :
    run database.answers (countDocuments settings collection filter session) schemas disk =
      ((.ok (rows.countP (database.accepts filter) : Nat), schemas), disk) := by
  have answered : database.carryOut { command := .count collection filter, statement } disk =
      (.ok [.object [("count", .natural (rows.countP (database.accepts filter)))]], disk) := by
    simp [carryOut, stored]
  simp only [countDocuments, run_bind, run_tableExists, stored, Option.isSome_some, if_true,
    run_request_of_returns compiled, run_rowsOf, answered, run_ofFault]
  rfl

end Find

end Database

end DocStore
