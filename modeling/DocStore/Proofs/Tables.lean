import DocStore.Client.Write
import DocStore.Proofs.KeyedStatement
import DocStore.Proofs.WrittenDocuments
import DocStore.Value.Equality

/-!
# Tables of an engine

An engine keeps a list of documents for every collection that exists.  It leaves
open which documents match a filter, in which order they are found and how a
column shows them.  A document is replaced or removed by the statement that is
restricted to its id: whatever row holds that id at that moment is meant, and
any other statement for this is refused.  The new document is what the statement
binds.
-/

namespace DocStore

/-- The documents of the collections that exist. -/
abbrev Tables := String → Option (List Members)

def Tables.write (tables : Tables) (collection : String) (documents : List Members) : Tables :=
  fun name => if name = collection then some documents else tables name

@[simp] theorem Tables.write_self (tables : Tables) (collection : String)
    (documents : List Members) : tables.write collection documents collection = some documents := by
  simp [write]

@[simp] theorem Tables.write_write (tables : Tables) (collection : String)
    (first second : List Members) :
    (tables.write collection first).write collection second =
      tables.write collection second := by
  funext name
  by_cases same : name = collection <;> simp [write, same]

@[simp] theorem Tables.write_eq_self {tables : Tables} {collection : String}
    {documents : List Members} (found : tables collection = some documents) :
    tables.write collection documents = tables := by
  funext name
  by_cases same : name = collection
  · simp [write, same, found]
  · simp [write, same]

/-! ## Ids -/

/-- Whether a stored id is the id of a statement: the same text or the same number. -/
def sameId : Value → Value → Bool
  | .text stored, .text id => stored == id
  | stored, id => stored.isNumber && id.isNumber && stored.equal id

/-- Texts and numbers, with which rows are told apart. -/
def Value.isKey : Value → Bool
  | .text _ => true
  | .int _ => true
  | .float number => Double.ofFloat number != .nan
  | _ => false

theorem Exact.equal_self_of_ofDouble {number : Double} (known : number ≠ .nan) :
    (Exact.ofDouble number).equal (Exact.ofDouble number) = true := by
  cases number with
  | nan => exact absurd rfl known
  | infinite negative => simp [Exact.ofDouble, Exact.equal]
  | finite negative significand exponent =>
      cases exponent <;> simp [Exact.ofDouble, Exact.equal]

theorem Value.equal_of_isNumber {left right : Value} (leftNumber : left.isNumber = true)
    (rightNumber : right.isNumber = true) :
    ∃ leftExact rightExact, left.exactNumber? = some leftExact ∧
      right.exactNumber? = some rightExact ∧ left.equal right = leftExact.equal rightExact := by
  cases left <;> cases leftNumber <;> cases right <;> cases rightNumber <;>
    refine ⟨_, _, rfl, rfl, ?_⟩ <;>
    simp [Value.equal, Value.compare, Value.compareBy, Value.compareScalars,
      Value.exactNumber?, Value.isSignaling]

theorem Value.equal_comm_of_isNumber {left right : Value} (leftNumber : left.isNumber = true)
    (rightNumber : right.isNumber = true) : left.equal right = right.equal left := by
  obtain ⟨leftExact, rightExact, leftIs, rightIs, forward⟩ :=
    equal_of_isNumber leftNumber rightNumber
  obtain ⟨rightExact', leftExact', rightIs', leftIs', backward⟩ :=
    equal_of_isNumber rightNumber leftNumber
  cases leftIs.symm.trans leftIs'
  cases rightIs.symm.trans rightIs'
  rw [forward, backward, Exact.equal_comm]

theorem sameId_comm (left right : Value) : sameId left right = sameId right left := by
  have numbers : (left.isNumber && right.isNumber && left.equal right) =
      (right.isNumber && left.isNumber && right.equal left) := by
    cases leftNumber : left.isNumber with
    | false => simp
    | true =>
        cases rightNumber : right.isNumber with
        | false => simp
        | true => simp [Value.equal_comm_of_isNumber leftNumber rightNumber]
  cases left with
  | text leftContent =>
      cases right with
      | text rightContent => exact Bool.beq_comm
      | _ => exact numbers
  | _ => cases right <;> exact numbers

theorem sameId_self {id : Value} (isKey : id.isKey = true) : sameId id id = true := by
  cases id with
  | text content => simp [sameId]
  | int number =>
      simp [sameId, Value.isNumber, Value.equal, Value.compare, Value.compareBy,
        Value.compareScalars, Value.exactNumber?, Value.isSignaling, Exact.ofInt, Exact.equal]
  | float number =>
      have known : Double.ofFloat number ≠ .nan := by simpa [Value.isKey] using isKey
      have equal := Exact.equal_self_of_ofDouble known
      simp [sameId, Value.isNumber, Value.equal, Value.compare, Value.compareBy,
        Value.compareScalars, Value.exactNumber?, Value.isSignaling, Exact.ofFloat, equal]
  | _ => cases isKey

/-! ## Rows -/

namespace Client

/-- A row whose column shows a document is read as this document. -/
theorem readRow_column {column : Value} {document : Members}
    (shown : Document.decode column = .ok (.object document)) :
    readRow none (.object [(Dialect.documentColumn, column)]) = .ok document := by
  have found : Document.column (.object [(Dialect.documentColumn, column)])
      Dialect.documentColumn = .ok column := rfl
  simp only [readRow, found]
  change (Document.decode column >>= _) = _
  rw [shown]
  rfl

theorem mapM_readRow {column : Members → Value} {documents : List Members}
    (shown : ∀ document ∈ documents, Document.decode (column document) = .ok (.object document)) :
    (documents.map fun document => .object [(Dialect.documentColumn, column document)]).mapM
      (readRow none) = .ok documents := by
  rw [Except.mapM_eq_ok, List.forall₂_map_left_iff, List.forall₂_same]
  exact fun document member => readRow_column (shown document member)

end Client

/-! ## The engine -/

/-- What an engine decides about its tables. -/
structure TableEngine where
  accepts : Value → Members → Bool
  arrange : List Members → List Members
  arrange_perm : ∀ documents, (arrange documents).Perm documents
  column : Members → Value

/-- All documents match and are found in their order, and columns are read already. -/
instance : Inhabited TableEngine where
  default :=
    { accepts := fun _ _ => true
      arrange := id
      arrange_perm := fun _ => .refl _
      column := .object }

namespace TableEngine

variable (engine : TableEngine)

/-- The documents of a table have texts or numbers as their ids, no two of them the
same, and the rows show them again. -/
structure Keeps (table : List Members) : Prop where
  keys : ∀ document ∈ table, (Client.idOf document).isKey = true
  distinct : table.Pairwise fun first later =>
    sameId (Client.idOf first) (Client.idOf later) = false
  shown : ∀ document ∈ table,
    Document.decode (engine.column document) = .ok (.object document)

theorem Keeps.differ {table : List Members} (kept : engine.Keeps table) {first second : Members}
    (firstMember : first ∈ table) (secondMember : second ∈ table) (different : first ≠ second) :
    sameId (Client.idOf first) (Client.idOf second) = false := by
  have all : ∀ ⦃one⦄, one ∈ table → ∀ ⦃other⦄, other ∈ table →
      one ≠ other → sameId (Client.idOf one) (Client.idOf other) = false := by
    refine List.Pairwise.forall_of_forall_of_flip (fun _ _ unequal => absurd rfl unequal) ?_ ?_
    · refine kept.distinct.imp ?_
      exact fun differ _ => differ
    · refine kept.distinct.imp ?_
      exact fun differ _ => by rwa [sameId_comm]
  exact all firstMember secondMember different

def row (document : Members) : Value :=
  .object [(Dialect.documentColumn, engine.column document)]

/-- The documents of a table that match a filter, as they are found. -/
def found (filter : Value) (documents : List Members) : List Members :=
  engine.arrange (documents.filter (engine.accepts filter))

theorem found_perm (filter : Value) (documents : List Members) :
    (engine.found filter documents).Perm (documents.filter (engine.accepts filter)) :=
  engine.arrange_perm _

theorem mem_found {filter : Value} {documents : List Members} {document : Members} :
    document ∈ engine.found filter documents ↔
      document ∈ documents ∧ engine.accepts filter document = true := by
  rw [(engine.found_perm filter documents).mem_iff, List.mem_filter]

def refusal : Failure := .fault .missingEntry

/-- Changes the documents of a table by a statement that is restricted to an id. -/
noncomputable def change (collection : String) (id : Value) (statement : Statement)
    (rewrite : List Members → List Members) :
    StateM Tables (Except Failure (List Value)) :=
  open Classical in
  fun tables =>
    match tables collection with
    | some documents =>
        if statement.whereClause? = some (idTest statement.dialect id) then
          (.ok [], tables.write collection (rewrite documents))
        else (.error refusal, tables)
    | none => (.error refusal, tables)

noncomputable def carryOut (request : Request) : StateM Tables (Except Failure (List Value)) :=
  match request.command with
  | .select collection filter options => fun tables =>
      match tables collection with
      | some documents =>
          let rows := ((engine.found filter documents).drop (options.skip.getD 0)).map engine.row
          (.ok (options.limit.elim rows rows.take), tables)
      | none => (.error refusal, tables)
  | .update collection id _ =>
      match request.statement.replacement with
      | .ok document =>
          change collection id request.statement fun documents =>
            documents.map fun stored =>
              if sameId (Client.idOf stored) id then document else stored
      | .error _ => pure (.error refusal)
  | .delete collection id =>
      change collection id request.statement fun documents =>
        documents.filter fun stored => !sameId (Client.idOf stored) id
  | _ => pure (.error refusal)

/-- Answers the calls of the client. -/
noncomputable def reply : (call : StoreCall) → StateM Tables call.Reply
  | .tableExists collection => fun tables => (.ok (tables collection).isSome, tables)
  | .run request _ => engine.carryOut request
  | .randomBytes _ => pure []
  | .createTable _ => pure (.error refusal)
  | .dropTable _ => pure (.error refusal)
  | .listTables => pure (.error refusal)
  | .direct _ => pure (.error refusal)
  | .insert .. => pure (.error refusal)
  | .createIndex .. => pure (.error refusal)
  | .dropIndex .. => pure (.error refusal)
  | .listIndexes _ => pure (.error refusal)
  | .seconds => pure (.error refusal)

end TableEngine

/-! ## Runs on tables

`Yields` says that a program of the client, run on the tables of an engine, comes
to a result without a failure.  Its log entries are passed over.
-/

/-- The schemas of a client, and the tables of its engine. -/
structure Store where
  schemas : SchemaCatalog
  tables : Tables

namespace ClientAction

variable {α β : Type}

/-- Run on a store, an action comes to a result and leaves a store. -/
def Yields (engine : TableEngine) (action : ClientAction α) (before : Store) (result : α)
    (after : Store) : Prop :=
  (Program.answer (fun _ => pure ()) engine.reply (action before.schemas)).run before.tables =
    ((.ok result, after.schemas), after.tables)

variable {engine : TableEngine} {before middle after : Store}

theorem yields_pure (result : α) : Yields engine (pure result) before result before := rfl

/-- A step goes on from the store that the step before it left. -/
theorem yields_bind {action : ClientAction α} {next : α → ClientAction β} {value : α}
    {result : β} (first : Yields engine action before value middle)
    (second : Yields engine (next value) middle result after) :
    Yields engine (action >>= next) before result after := by
  have unfolded : (action >>= next) before.schemas =
      (action before.schemas).bind fun outcome =>
        ExceptT.bindCont next outcome.1 outcome.2 := rfl
  rw [Yields, unfolded, Program.answer_bind, StateT.run_bind, first]
  exact second

theorem yields_perform {call : StoreCall} {read : call.Reply → Except Failure α}
    {reply : call.Reply} {tables : Tables} {result : α}
    (answered : engine.reply call before.tables = (reply, tables))
    (isRead : read reply = .ok result) :
    Yields engine (Action.perform call read) before result { before with tables } := by
  change ((read (engine.reply call before.tables).1, before.schemas),
    (engine.reply call before.tables).2) = _
  rw [answered, isRead]

theorem yields_ofFault {outcome : Except Fault α} {result : α} (isOk : outcome = .ok result) :
    Yields engine (Action.ofFault outcome) before result before := by
  subst isOk
  rfl

theorem yields_ofOutcome {outcome : Except Failure α} {result : α} (isOk : outcome = .ok result) :
    Yields engine (Action.ofOutcome outcome) before result before := by
  subst isOk
  rfl

theorem yields_notes (entries : List LogEntry) (result : α) :
    Yields engine (Action.notes entries (.ok result)) before result before := by
  induction entries with
  | nil => rfl
  | cons entry entries ih => exact ih

theorem yields_ofLogged {computation : Logged α} {result : α} {log : List LogEntry}
    (returned : computation.Returns [] result log) :
    Yields engine (Action.ofLogged computation) before result before := by
  have outcome : computation.outcome = (.ok result, log) := returned
  rw [Action.ofLogged, outcome]
  exact yields_notes log result

end ClientAction

end DocStore
