import DocStore.Proofs.ClientCalls
import DocStore.Proofs.Concurrency
import DocStore.Proofs.Tables

/-!
# Tables that are shared

The calls of the client that run at the same time work on the same tables.  Each statement
takes effect at once.  Every row has a key that no other row has or had, so that a row that
is replaced can be told from one that is removed and inserted again.

The engine leaves much open: searches find rows in any order, a statement that fails may
have taken effect all the same, and a statement for an id that is no text or number meets
any rows.  What it stores are the documents that statements bind.
-/

namespace DocStore

open Client

structure Row where
  key : Nat
  document : Members

structure SharedTables where
  tables : String → Option (List Row)
  /-- The first key that no row has had. -/
  fresh : Nat

namespace SharedTables

variable (shared : SharedTables)

def rows (collection : String) : List Row := (shared.tables collection).getD []

def keys (collection : String) : List Nat := (shared.rows collection).map Row.key

def write (collection : String) (rows : List Row) : SharedTables :=
  { shared with
    tables := fun name => if name = collection then some rows else shared.tables name }

def newRows (documents : List Members) : List Row :=
  documents.zipIdx.map fun (document, place) => { key := shared.fresh + place, document }

/-- Adds documents after the rows that there are. -/
def append (collection : String) (documents : List Members) : SharedTables :=
  { shared.write collection (shared.rows collection ++ shared.newRows documents) with
    fresh := shared.fresh + documents.length }

variable {shared}

theorem rows_of_stored {collection : String} {stored : List Row}
    (isStored : shared.tables collection = some stored) : shared.rows collection = stored := by
  rw [rows, isStored, Option.getD_some]

@[simp] theorem rows_write (collection name : String) (written : List Row) :
    (shared.write collection written).rows name =
      if name = collection then written else shared.rows name := by
  by_cases same : name = collection
  · simp [write, rows, same]
  · simp [write, rows, same]

@[simp] theorem rows_append (collection name : String) (documents : List Members) :
    (shared.append collection documents).rows name =
      if name = collection then shared.rows collection ++ shared.newRows documents
      else shared.rows name :=
  rows_write collection name _

theorem mem_newRows {documents : List Members} {row : Row}
    (member : row ∈ shared.newRows documents) :
    row.document ∈ documents ∧ shared.fresh ≤ row.key := by
  obtain ⟨⟨document, place⟩, isPlaced, rfl⟩ := List.mem_map.mp member
  exact ⟨List.fst_mem_of_mem_zipIdx isPlaced, Nat.le_add_right _ _⟩

end SharedTables

/-- What an engine decides about documents. -/
structure DocumentEngine where
  accepts : Value → Members → Bool
  column : Members → Value

namespace DocumentEngine

variable (engine : DocumentEngine)

def row (document : Members) : Value :=
  .object [(Dialect.documentColumn, engine.column document)]

/-- The columns show the documents that JSON can write. -/
def ShowsKeyed : Prop :=
  ∀ document : Members, document.TextKeyed →
    Document.decode (engine.column document) = .ok (.object document)

/-- The rows that a statement for an id meets.  Restricted to the test for a text or a
number, it meets the rows that hold this id. -/
def Meets (statement : Statement) (id : Value) (stored : List Row) (met : Row → Bool) : Prop :=
  statement.whereClause? = some (idTest statement.dialect id) → id.isKey = true →
    ∀ row ∈ stored, met row = sameId (idOf row.document) id

/-- What the statement of a command does if it takes effect: the rows that it yields, and
the tables after it. -/
inductive Takes (shared : SharedTables) (statement : Statement) :
    Command → List Value → SharedTables → Prop where
  | select {collection : String} {filter : Value} {options : FindOptions}
      {stored found : List Row} (isStored : shared.tables collection = some stored)
      (arranged : found.Perm (stored.filter fun row => engine.accepts filter row.document)) :
      Takes shared statement (.select collection filter options)
        (options.limit.elim id List.take
          ((found.drop (options.skip.getD 0)).map fun row => engine.row row.document)) shared
  | count {collection : String} {filter : Value} {rows : List Value} :
      Takes shared statement (.count collection filter) rows shared
  | aggregate {collection : String} {pipeline : Value} {rows : List Value} :
      Takes shared statement (.aggregate collection pipeline) rows shared
  | insert {collection : String} {named documents : List Members} {stored : List Row}
      {rows : List Value} (isStored : shared.tables collection = some stored)
      (bound : statement.insertedDocuments = .ok documents) :
      Takes shared statement (.insert collection named) rows
        (shared.append collection documents)
  | update {collection : String} {id : Value} {named document : Members} {stored : List Row}
      {met : Row → Bool} {rows : List Value} (isStored : shared.tables collection = some stored)
      (meets : Meets statement id stored met) (bound : statement.replacement = .ok document) :
      Takes shared statement (.update collection id named) rows
        (shared.write collection
          (stored.map fun row => if met row then { row with document } else row))
  | delete {collection : String} {id : Value} {stored : List Row} {met : Row → Bool}
      {rows : List Value} (isStored : shared.tables collection = some stored)
      (meets : Meets statement id stored met) :
      Takes shared statement (.delete collection id) rows
        (shared.write collection (stored.filter fun row => !met row))

def Refuses {α : Type} (shared : SharedTables) (reply : Except Failure α) (after : SharedTables) :
    Prop :=
  after = shared ∧ ∃ failure, reply = .error failure

/-- The answers to the calls of the client.  What is asked in texts and drops of tables may
have any effect. -/
def answering : Answering storeInterface SharedTables
  | shared, .tableExists collection, reply, after =>
      after = shared ∧ ∀ found, reply = .ok found → found = (shared.tables collection).isSome
  | shared, .createTable collection, reply, after =>
      after = shared.write collection (shared.rows collection) ∨ Refuses shared reply after
  | shared, .run request _, reply, after =>
      (∃ rows, engine.Takes shared request.statement request.command rows after ∧
        ∀ shown, reply = .ok shown → shown = rows) ∨ Refuses shared reply after
  | shared, .insert request _ _, reply, after =>
      (∃ rows, engine.Takes shared request.statement request.command rows after) ∨
        Refuses shared reply after
  | _, .dropTable _, _, _ => True
  | _, .direct _, _, _ => True
  | shared, _, _, after => after = shared

end DocumentEngine

/-! ## What one statement changes -/

/-- From some tables to later ones: the rows of the later ones hold documents that were there
or that were stored in between, their keys were there or are new, and no keys were added
unless that is allowed. -/
structure SharedTables.Evolves (shared : SharedTables) (stores : String → Members → Prop)
    (inserts : Prop) (after : SharedTables) : Prop where
  documents : ∀ name, ∀ row ∈ after.rows name,
    (∃ former ∈ shared.rows name, former.document = row.document) ∨ stores name row.document
  keys : ∀ name, ∀ key ∈ after.keys name, key ∈ shared.keys name ∨ shared.fresh ≤ key
  fresh : shared.fresh ≤ after.fresh
  sublist : ¬inserts → ∀ name, (after.keys name).Sublist (shared.keys name)

namespace SharedTables.Evolves

variable {shared after : SharedTables} {stores : String → Members → Prop} {inserts : Prop}
  {collection : String}

theorem refl (shared : SharedTables) : shared.Evolves stores inserts shared where
  documents _ row member := .inl ⟨row, member, rfl⟩
  keys _ _ member := .inl member
  fresh := Nat.le_refl _
  sublist _ _ := .refl _

/-- The rows of one table are replaced by others, with keys that they had. -/
theorem of_write {written : List Row}
    (documents : ∀ row ∈ written,
      (∃ former ∈ shared.rows collection, former.document = row.document) ∨
        stores collection row.document)
    (sublist : (written.map Row.key).Sublist (shared.keys collection)) :
    shared.Evolves stores inserts (shared.write collection written) := by
  have keys (name : String) : ((shared.write collection written).keys name).Sublist
      (shared.keys name) := by
    unfold SharedTables.keys at sublist ⊢
    rw [rows_write]
    split
    · rename_i same
      rw [same]
      exact sublist
    · exact .refl _
  refine ⟨?_, ?_, Nat.le_refl _, fun _ => keys⟩
  · intro name row member
    rw [rows_write] at member
    split at member
    · rename_i same
      rw [same]
      exact documents row member
    · exact .inl ⟨row, member, rfl⟩
  · intro name key member
    exact .inl ((keys name).mem member)

theorem of_append {documents : List Members}
    (stored : ∀ document ∈ documents, stores collection document) (allowed : inserts) :
    shared.Evolves stores inserts (shared.append collection documents) := by
  refine ⟨?_, ?_, Nat.le_add_right _ _, fun refused => absurd allowed refused⟩
  · intro name row member
    rw [rows_append] at member
    split at member
    · rename_i same
      rw [same]
      rcases List.mem_append.mp member with old | new
      · exact .inl ⟨row, old, rfl⟩
      · exact .inr (stored _ (mem_newRows new).1)
    · exact .inl ⟨row, member, rfl⟩
  · intro name key member
    obtain ⟨row, isRow, rfl⟩ := List.mem_map.mp member
    rw [rows_append] at isRow
    split at isRow
    · rename_i same
      rw [same]
      rcases List.mem_append.mp isRow with old | new
      · exact .inl (List.mem_map_of_mem old)
      · exact .inr (mem_newRows new).2
    · exact .inl (List.mem_map_of_mem isRow)

end SharedTables.Evolves

namespace DocumentEngine

variable {engine : DocumentEngine} {shared after : SharedTables} {statement : Statement}
  {command : Command} {rows : List Value} {settings : ClientSettings}

/-- A statement stores what its command stores, if that has text keys, and only insertions
add rows. -/
theorem Takes.evolves {log : List LogEntry}
    (compiled : (command.compile settings).Returns [] statement log) (keyed : command.StoresKeyed)
    (takes : engine.Takes shared statement command rows after) :
    shared.Evolves command.Stores command.IsInsertion after := by
  cases takes with
  | select => exact .refl shared
  | count => exact .refl shared
  | aggregate => exact .refl shared
  | @insert collection named documents _ _ isStored bound =>
      have stores := Command.insertedDocuments_of_insert
        (fun document member => keyed collection document ⟨rfl, member⟩) compiled
      cases stores.symm.trans bound
      exact .of_append (fun document member => ⟨rfl, member⟩) trivial
  | @update collection id named document stored met _ isStored meets bound =>
      have stores := Command.replacement_of_update (keyed collection named ⟨rfl, rfl⟩) compiled
      cases stores.symm.trans bound
      rw [← SharedTables.rows_of_stored isStored]
      apply SharedTables.Evolves.of_write
      · intro row member
        obtain ⟨former, isFormer, rfl⟩ := List.mem_map.mp member
        split
        · exact .inr ⟨rfl, rfl⟩
        · exact .inl ⟨former, isFormer, rfl⟩
      · have sameKeys : ((shared.rows collection).map fun row =>
            if met row then { row with document := named } else row).map Row.key =
              shared.keys collection := by
          rw [List.map_map]
          apply List.map_congr_left
          intro row _
          dsimp only [Function.comp_apply]
          split
          · rfl
          · rfl
        simp only [sameKeys, List.Sublist.refl]
  | delete isStored meets =>
      rw [← SharedTables.rows_of_stored isStored]
      apply SharedTables.Evolves.of_write
      · intro row member
        exact .inl ⟨row, (List.mem_filter.mp member).1, rfl⟩
      · exact List.filter_sublist.map Row.key

/-- A search yields rows that its filter accepts, and changes nothing. -/
theorem Takes.found {collection : String} {filter : Value} {options : FindOptions}
    (takes : engine.Takes shared statement (.select collection filter options) rows after) :
    after = shared ∧ ∀ shown ∈ rows, ∃ row ∈ shared.rows collection,
      engine.accepts filter row.document = true ∧ shown = engine.row row.document := by
  cases takes with
  | @select _ _ _ stored found isStored arranged =>
      refine ⟨rfl, ?_⟩
      intro shown member
      have isShown : shown ∈
          (found.drop (options.skip.getD 0)).map fun row => engine.row row.document := by
        cases limited : options.limit with
        | none =>
            rw [limited] at member
            exact member
        | some limit =>
            rw [limited] at member
            exact List.mem_of_mem_take member
      obtain ⟨row, isRow, rfl⟩ := List.mem_map.mp isShown
      have accepted := arranged.mem_iff.mp (List.mem_of_mem_drop isRow)
      rw [List.mem_filter, ← SharedTables.rows_of_stored isStored] at accepted
      exact ⟨row, accepted.1, accepted.2, rfl⟩

/-! ## What one answer changes -/

variable {reads : String → Members → Prop} {asks : Command → Prop} {call : StoreCall}
  {reply : call.Reply}

def StoredBy (asks : Command → Prop) (collection : String) (document : Members) : Prop :=
  ∃ command, asks command ∧ command.Stores collection document

def InsertedBy (asks : Command → Prop) : Prop :=
  ∃ command, asks command ∧ command.IsInsertion

theorem evolves_of_request {request : Request} (compiled : request.IsCompiled settings)
    (asked : asks request.command) (keyed : request.command.StoresKeyed)
    (answered : (∃ rows, engine.Takes shared request.statement request.command rows after) ∨
      after = shared) :
    shared.Evolves (StoredBy asks) (InsertedBy asks) after := by
  rcases answered with ⟨rows, takes⟩ | rfl
  · obtain ⟨log, returned⟩ := compiled
    have evolves := takes.evolves returned keyed
    refine ⟨?_, evolves.keys, evolves.fresh, ?_⟩
    · intro name row member
      rcases evolves.documents name row member with old | stores
      · exact .inl old
      · exact .inr ⟨request.command, asked, stores⟩
    · intro noInsertion
      exact evolves.sublist fun isInsertion => noInsertion ⟨request.command, asked, isInsertion⟩
  · exact .refl _

/-- An answer to a call that is permitted stores what was asked for. -/
theorem evolves_of_answering {alters : Prop}
    (permitted : (storing settings reads asks alters).permits () call) (whole : ¬alters)
    (keyed : ∀ command, asks command → command.StoresKeyed)
    (answered : engine.answering shared call reply after) :
    shared.Evolves (StoredBy asks) (InsertedBy asks) after := by
  obtain ⟨requested, altered⟩ := permitted
  cases call with
  | dropTable collection => exact absurd (altered trivial) whole
  | direct sql => exact absurd (altered trivial) whole
  | run request session =>
      obtain ⟨compiled, asked⟩ := requested request rfl
      apply evolves_of_request compiled asked (keyed _ asked)
      rcases answered with ⟨rows, takes, _⟩ | ⟨same, _⟩
      · exact .inl ⟨rows, takes⟩
      · exact .inr same
  | insert request count session =>
      obtain ⟨compiled, asked⟩ := requested request rfl
      apply evolves_of_request compiled asked (keyed _ asked)
      rcases answered with ⟨rows, takes⟩ | ⟨same, _⟩
      · exact .inl ⟨rows, takes⟩
      · exact .inr same
  | createTable collection =>
      rcases answered with rfl | ⟨rfl, _⟩
      · exact .of_write (fun row member => .inl ⟨row, member, rfl⟩) (.refl _)
      · exact .refl _
  | tableExists collection =>
      obtain ⟨rfl, _⟩ := answered
      exact .refl _
  | _ =>
      cases answered
      exact .refl _

/-- The rows of a search are read as the documents that are stored. -/
theorem shows_of_answering (shows : engine.ShowsKeyed)
    (keyed : ∀ name, ∀ row ∈ shared.rows name, row.document.TextKeyed)
    (kind : ∀ name, ∀ row ∈ shared.rows name, reads name row.document)
    (answered : engine.answering shared call reply after) : call.Shows reads reply := by
  cases call with
  | run request session =>
      intro shown isShown collection filter options isSelect row member document isRead
      rcases answered with ⟨rows, takes, same⟩ | ⟨_, failure, failed⟩
      · cases same shown isShown
        rw [isSelect] at takes
        obtain ⟨stored, isStored, _, rfl⟩ := takes.found.2 row member
        have read := readRow_column (shows _ (keyed collection stored isStored))
        cases read.symm.trans isRead
        exact kind collection stored isStored
      · cases isShown.symm.trans failed
  | _ => trivial

end DocumentEngine

/-! ## Calls side by side -/

abbrev Calls (ι : Type) :=
  Concurrent storeInterface ι SharedTables (Except Failure Value × SchemaCatalog)

namespace Calls

variable {ι : Type}

def begin (settings : ClientSettings) (schemas : SchemaCatalog) (verbs : ι → ClientVerb)
    (start : SharedTables) : Calls ι :=
  { shared := start, programs := fun index => (verbs index).perform settings schemas }

/-- The statements of the calls come in any order. -/
abbrev Runs [DecidableEq ι] (engine : DocumentEngine) (before after : Calls ι) : Prop :=
  Concurrent.Reaches engine.answering before after

end Calls

end DocStore
