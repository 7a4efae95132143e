import DocStore.Client.Write
import DocStore.Proofs.Tables
import DocStore.Proofs.UpdateKeys

/-!
# Updating many documents

The documents that match are found first and then rewritten one by one, each by
the statement on the id that it was found with.  An update may change ids, and
then a later statement can meet a row that was rewritten before.
-/

namespace DocStore

namespace Client

/-! ## Statements one after another -/

/-- A row after the statements on the ids of some documents. -/
def settle (revised : Members → Members) : List Members → Members → Members
  | [], row => row
  | document :: documents, row =>
      settle revised documents
        (if sameId (idOf row) (idOf document) then revised document else row)

/-- A document does not take the id of a later one, or both become the same. -/
def Undisturbed (revised : Members → Members) (document later : Members) : Prop :=
  sameId (idOf (revised document)) (idOf later) = true → revised document = revised later

section Settle

variable {revised : Members → Members} {documents : List Members} {row : Members}

/-- A row that no statement names stays as it is. -/
theorem settle_of_unnamed
    (unnamed : ∀ document ∈ documents, sameId (idOf row) (idOf document) = false) :
    settle revised documents row = row := by
  induction documents with
  | nil => rfl
  | cons document documents ih =>
      obtain ⟨first, others⟩ := List.forall_mem_cons.mp unnamed
      rw [settle, if_neg (by simp [first]), ih others]

/-- Among undisturbed documents a row stays as it is exactly if every statement
that names it writes it as it is. -/
theorem settle_eq_self_iff (undisturbed : documents.Pairwise (Undisturbed revised)) :
    settle revised documents row = row ↔
      ∀ document ∈ documents, sameId (idOf row) (idOf document) = true →
        row = revised document := by
  induction documents generalizing row with
  | nil => simp [settle]
  | cons document documents ih =>
      obtain ⟨first, others⟩ := List.pairwise_cons.mp undisturbed
      rw [settle, List.forall_mem_cons]
      by_cases named : sameId (idOf row) (idOf document) = true
      · rw [if_pos named, (ih others).mpr first]
        constructor
        · rintro rfl
          exact ⟨fun _ => rfl, first⟩
        · rintro ⟨same, _⟩
          exact (same named).symm
      · rw [if_neg named, ih others]
        simp [named]

/-- Every document is rewritten as it should be exactly if none is disturbed. -/
theorem settle_eq_revised_iff
    (keys : ∀ document ∈ documents, (idOf document).isKey = true)
    (distinct : documents.Pairwise fun first later =>
      sameId (idOf first) (idOf later) = false) :
    (∀ document ∈ documents, settle revised documents document = revised document) ↔
      documents.Pairwise (Undisturbed revised) := by
  induction documents with
  | nil => simp
  | cons document documents ih =>
      obtain ⟨isKey, otherKeys⟩ := List.forall_mem_cons.mp keys
      obtain ⟨apart, otherDistinct⟩ := List.pairwise_cons.mp distinct
      have own : settle revised (document :: documents) document =
          settle revised documents (revised document) := by
        rw [settle, if_pos (sameId_self isKey)]
      have skipped : ∀ later ∈ documents,
          settle revised (document :: documents) later = settle revised documents later := by
        intro later member
        rw [settle, if_neg (by simp [sameId_comm, apart later member])]
      rw [List.forall_mem_cons, List.pairwise_cons, own]
      constructor
      · rintro ⟨first, others⟩
        have undisturbed := (ih otherKeys otherDistinct).mp fun later member => by
          rw [← skipped later member, others later member]
        exact ⟨(settle_eq_self_iff undisturbed).mp first, undisturbed⟩
      · rintro ⟨first, others⟩
        refine ⟨(settle_eq_self_iff others).mpr first, fun later member => ?_⟩
        rw [skipped later member, (ih otherKeys otherDistinct).mpr others later member]

end Settle

/-! ## Runs -/

open ClientAction

section Runs

variable {settings : ClientSettings} {engine : TableEngine} {collection : String}
  {session : Option SessionId} {store : Store} {table : List Members}

theorem yields_tableExists (stored : store.tables collection = some table) :
    Yields engine (tableExists collection) store true store := by
  have answered : engine.reply (.tableExists collection) store.tables =
      (.ok true, store.tables) := by
    simp [TableEngine.reply, stored]
  exact yields_perform answered rfl

theorem compile_select {filter : Value} {text : Option Sql.Fragment} {log : List LogEntry}
    (compiles : (Filter.compile settings.dialect settings.strict filter).Returns [] text log) :
    ∃ statement, (Query.select settings collection filter .null .null .null).Returns []
      statement log := by
  have line : (Query.whereLine settings filter).Returns [] _ log :=
    Query.whereLine_returns_iff.mpr ⟨text, compiles, rfl⟩
  have paged : ∃ paging, settings.dialect.paging .null .null = .ok paging := by
    cases settings.dialect <;> exact ⟨_, rfl⟩
  obtain ⟨paging, paged⟩ := paged
  have tail : (Query.selectionTail settings filter .null .null .null).Returns [] _ log :=
    Logged.returns_bind.mpr ⟨_, _, line, Logged.returns_bind.mpr ⟨_, _,
      Logged.returns_ofFault.mpr ⟨rfl, rfl⟩, Logged.returns_bind.mpr ⟨_, _,
        Logged.returns_ofFault.mpr ⟨paged, rfl⟩, Logged.returns_pure.mpr ⟨rfl, rfl⟩⟩⟩⟩
  exact ⟨_, Logged.returns_bind.mpr ⟨_, _, tail, Logged.returns_pure.mpr ⟨rfl, rfl⟩⟩⟩

/-- The documents that match are found in the order of the engine. -/
theorem yields_matching {filter : Value} {text : Option Sql.Fragment} {log : List LogEntry}
    (stored : store.tables collection = some table) (kept : engine.Keeps table)
    (compiles : (Filter.compile settings.dialect settings.strict filter).Returns [] text log) :
    Yields engine (matching settings collection filter none session) store
      (engine.found filter table) store := by
  obtain ⟨statement, compiled⟩ : ∃ statement, (Query.select settings collection filter .null
    .null .null).Returns [] statement log := compile_select compiles
  have requested : ((Command.select collection filter {}).request settings).Returns []
      { command := .select collection filter {}, statement } log :=
    Logged.returns_bind.mpr ⟨_, _, compiled, Logged.returns_pure.mpr ⟨rfl, rfl⟩⟩
  have answered : engine.reply
      (.run { command := .select collection filter {}, statement } session) store.tables =
        (.ok ((engine.found filter table).map engine.row), store.tables) := by
    simp [TableEngine.reply, TableEngine.carryOut, stored]
  have read : ((engine.found filter table).map engine.row).mapM (readRow none) = .ok _ :=
    mapM_readRow fun document member => kept.shown document (engine.mem_found.mp member).1
  refine yields_bind (yields_tableExists stored) ?_
  refine yields_bind (yields_tableExists stored) ?_
  refine yields_bind (yields_ofLogged requested) ?_
  exact yields_bind (yields_perform answered rfl) (yields_ofFault read)

/-! ## Statements on keys -/

theorem isNull_of_isKey {id : Value} (isKey : id.isKey = true) : id.isNull = false := by
  cases id with
  | null => cases isKey
  | _ => rfl

theorem isObject_of_isKey {id : Value} (isKey : id.isKey = true) : id.isObject = false := by
  cases id with
  | object members => cases isKey
  | _ => rfl

theorem failure_trail_idFilter {id : Value} (isKey : id.isKey = true) (strict : Bool) :
    (Filter.trail strict (Query.idFilter id)).failure = none := by
  rw [Filter.trail, Query.condition_idFilter]
  cases id with
  | text content => rfl
  | int number => rfl
  | float number => rfl
  | _ => cases isKey

/-- What an update stores for a document: it applies, the schema of the collection
accepts the outcome, and the text of the outcome stands for what is stored. -/
inductive Revises (settings : ClientSettings) (schemas : SchemaCatalog) (collection : String)
    (change : Value) (document revised : Members) : Prop where
  | intro {updated : Members} {log : List LogEntry} {text : String}
      (applied : (Update.apply settings.strict (.object document) change).Returns [] updated log)
      (accepted : schemas.validate collection (.object updated) = .ok ())
      (encoded : Document.encode (.object updated) = .ok text)
      (stored : Document.ofBound (.text text) = .ok revised)

/-- An outcome with text keys is stored as it is. -/
theorem Revises.of_textKeyed {schemas : SchemaCatalog} {change : Value}
    {document revised : Members} {log : List LogEntry}
    (applied : (Update.apply settings.strict (.object document) change).Returns [] revised log)
    (accepted : schemas.validate collection (.object revised) = .ok ())
    (writable : Json.obstacle? (.object revised) = none) (keyed : revised.TextKeyed) :
    Revises settings schemas collection change document revised := by
  have encoded : Document.encode (.object revised) =
      .ok (String.ofList (Json.write (.object revised))) := by
    simp [Document.encode, Json.encode, writable]
  exact .intro applied accepted encoded (Document.ofBound_of_encode keyed encoded)

/-- For a document and an update with text keys, what is stored is what the update makes of
the document. -/
theorem revises_iff {schemas : SchemaCatalog} {change : Value} {document revised : Members}
    (keyed : document.TextKeyed) (changeKeyed : change.hasTextKeys = true) :
    Revises settings schemas collection change document revised ↔
      (∃ log, (Update.apply settings.strict (.object document) change).Returns [] revised log) ∧
        schemas.validate collection (.object revised) = .ok () ∧
        Json.obstacle? (.object revised) = none := by
  constructor
  · rintro ⟨applied, accepted, encoded, stored⟩
    have same := Document.ofBound_of_encode
      (Update.textKeyed_apply keyed changeKeyed applied) encoded
    cases same.symm.trans stored
    exact ⟨⟨_, applied⟩, accepted, Json.obstacle?_of_encode encoded⟩
  · rintro ⟨⟨log, applied⟩, accepted, writable⟩
    exact .of_textKeyed applied accepted writable
      (Update.textKeyed_apply keyed changeKeyed applied)

theorem compile_update (settings : ClientSettings) (collection : String) {id : Value}
    {updated : Members} {text : String} (isKey : id.isKey = true)
    (encoded : Document.encode (.object updated) = .ok text) :
    ∃ statement log, ((Command.update collection id updated).compile settings).Returns []
        statement log ∧ statement.whereClause? = some (idTest statement.dialect id) ∧
      statement.replacement = Document.ofBound (.text text) := by
  have restriction : (Filter.compile settings.dialect settings.strict
      (Query.idFilter id)).Returns [] _ _ :=
    Filter.compile_returns_iff.mpr ⟨failure_trail_idFilter isKey settings.strict, rfl, rfl⟩
  have returned : ((Command.update collection id updated).compile settings).Returns [] _ _ :=
    Logged.returns_bind.mpr ⟨_, [], Logged.returns_ofFault.mpr ⟨encoded, rfl⟩,
      Logged.returns_bind.mpr ⟨_, _, Query.whereLine_returns_iff.mpr ⟨_, restriction, rfl⟩,
        Logged.returns_pure.mpr ⟨rfl, rfl⟩⟩⟩
  obtain ⟨bound, encodes, replacement⟩ := Command.exists_replacement_of_update returned
  cases encoded.symm.trans encodes
  exact ⟨_, _, returned, Query.whereClause?_of_notObject (isNull_of_isKey isKey)
    (isObject_of_isKey isKey) (Query.isRestricted_update returned), replacement⟩

/-- The statement on a key rewrites the rows that hold it. -/
theorem yields_revise {change : Value} {document revised : Members}
    (stored : store.tables collection = some table)
    (isKey : (idOf document).isKey = true)
    (revises : Revises settings store.schemas collection change document revised) :
    Yields engine (revise settings collection change session (idOf document) document) store ()
      { store with tables := store.tables.write collection (table.map fun row =>
          if sameId (idOf row) (idOf document) then revised else row) } := by
  obtain @⟨updated, log, text, applied, accepted, encoded, isStored⟩ := revises
  obtain ⟨statement, compileLog, compiled, restricted, replacement⟩ :=
    compile_update settings collection isKey encoded
  have requested : ((Command.update collection (idOf document) updated).request settings).Returns
      [] { command := .update collection (idOf document) updated, statement } compileLog :=
    Logged.returns_bind.mpr ⟨_, _, compiled, Logged.returns_pure.mpr ⟨rfl, rfl⟩⟩
  have answered : engine.reply
      (.run { command := .update collection (idOf document) updated, statement } session)
        store.tables =
      (.ok [], store.tables.write collection (table.map fun row =>
        if sameId (idOf row) (idOf document) then revised else row)) := by
    simp [TableEngine.reply, TableEngine.carryOut, TableEngine.change, stored, restricted,
      replacement, isStored]
  refine yields_bind (yields_ofLogged applied) ?_
  refine yields_bind (yields_ofOutcome accepted) ?_
  refine yields_bind (yields_ofLogged requested) ?_
  exact yields_bind (yields_perform answered rfl) (yields_pure ())

/-- Writing the documents of a list settles every row, and counts them all. -/
theorem yields_writeEach {change : Value} {revised : Members → Members}
    {documents : List Members} (stored : store.tables collection = some table)
    (keys : ∀ document ∈ documents, (idOf document).isKey = true)
    (revises : ∀ document ∈ documents,
      Revises settings store.schemas collection change document (revised document)) :
    Yields engine (writeEach collection (revise settings collection change session) documents)
      store documents.length
      { store with tables :=
          store.tables.write collection (table.map (settle revised documents)) } := by
  induction documents generalizing store table with
  | nil =>
      have settled : table.map (settle revised []) = table := List.map_id' table
      rw [settled, Tables.write_eq_self stored]
      exact yields_pure 0
  | cons document documents ih =>
      obtain ⟨isKey, otherKeys⟩ := List.forall_mem_cons.mp keys
      obtain ⟨first, others⟩ := List.forall_mem_cons.mp revises
      rw [writeEach, if_neg (by simp [isNull_of_isKey isKey])]
      refine yields_bind (yields_revise stored isKey first) ?_
      refine yields_bind (ih (Tables.write_self _ _ _) otherKeys others) ?_
      rw [Tables.write_write, List.map_map]
      exact yields_pure (documents.length + 1)

/-- An update of all documents that match settles every row, and counts them. -/
theorem yields_updateMany (session : Option SessionId) {filter change : Value}
    {options : UpdateOptions} {revised : Members → Members} {text : Option Sql.Fragment}
    {log : List LogEntry}
    (stored : store.tables collection = some table) (kept : engine.Keeps table)
    (compiles : (Filter.compile settings.dialect settings.strict filter).Returns [] text log)
    (revises : ∀ document ∈ table, engine.accepts filter document = true →
      Revises settings store.schemas collection change document (revised document))
    (noUpsert : options.upsert = false ∨ engine.found filter table ≠ []) :
    Yields engine (updateMany settings collection filter change options session) store
      { matchedCount := (engine.found filter table).length
        modifiedCount := (engine.found filter table).length }
      { store with
        tables := store.tables.write collection
          (table.map (settle revised (engine.found filter table))) } := by
  refine yields_bind (yields_matching stored kept compiles) ?_
  cases matched : engine.found filter table with
  | nil =>
      have settled : table.map (settle revised []) = table := List.map_id' table
      rw [settled, Tables.write_eq_self stored]
      have inserts : options.upsert = false := noUpsert.resolve_right fun found => found matched
      simp only [inserts]
      exact yields_pure _
  | cons document documents =>
      have written : Yields engine (writeEach collection
          (revise settings collection change session) (document :: documents)) store _ _ :=
        yields_writeEach stored
          (fun matching member => kept.keys matching (engine.mem_found.mp (matched ▸ member)).1)
          fun matching member =>
            let isFound := engine.mem_found.mp (matched ▸ member)
            revises matching isFound.1 isFound.2
      exact yields_bind written (yields_pure _)

/-- Every row is settled as the update says, if it matches, or stays as it is,
exactly if no document found takes the id of a later one. -/
theorem settle_found_iff {filter : Value} {revised : Members → Members}
    (kept : engine.Keeps table) :
    table.map (settle revised (engine.found filter table)) =
        table.map (fun document =>
          if engine.accepts filter document then revised document else document) ↔
      (engine.found filter table).Pairwise (Undisturbed revised) := by
  have apart : ∀ {first later : Members}, sameId (idOf first) (idOf later) = false →
      sameId (idOf later) (idOf first) = false := fun differ => by rwa [sameId_comm]
  have distinct : (engine.found filter table).Pairwise fun first later =>
      sameId (idOf first) (idOf later) = false :=
    ((engine.found_perm filter table).pairwise_iff apart).mpr (kept.distinct.filter _)
  rw [← settle_eq_revised_iff
    (fun document member => kept.keys document (engine.mem_found.mp member).1) distinct,
    List.map_inj_left]
  constructor
  · intro settled document member
    obtain ⟨isRow, matching⟩ := engine.mem_found.mp member
    simpa [matching] using settled document isRow
  · intro settled document isRow
    by_cases matching : engine.accepts filter document = true
    · simpa [matching] using settled document (engine.mem_found.mpr ⟨isRow, matching⟩)
    · rw [if_neg matching]
      refine settle_of_unnamed fun named member => ?_
      obtain ⟨isNamedRow, namedMatches⟩ := engine.mem_found.mp member
      refine kept.differ engine isRow isNamedRow ?_
      rintro rfl
      exact matching namedMatches

end Runs

/-! ## Two documents -/

def Store.sample (documents : List Members) : Store :=
  { schemas := [], tables := fun _ => some documents }

def titled (id : String) (fields : Members) : Members := (idField, .text id) :: fields

def setField (field : String) (value : Value) : Value :=
  .object [("$set", .object [(field, value)])]

@[simp] theorem idOf_titled (id : String) (fields : Members) :
    idOf (titled id fields) = .text id := rfl

theorem keeps_titled {first second : String} (different : first ≠ second)
    (firstFields secondFields : Members) :
    (default : TableEngine).Keeps [titled first firstFields, titled second secondFields] :=
  { keys := by simp [Value.isKey]
    distinct := by simp [sameId, different]
    shown := fun _ _ => rfl }

theorem revises_setField {settings : ClientSettings} {documents : List Members}
    (collection field : String) (value : Value)
    (changeKeyed : (setField field value).hasTextKeys = true)
    (storable : ∀ document ∈ documents, (Value.object document).hasTextKeys = true ∧
      Json.obstacle? (.object (document.set field value)) = none) :
    ∀ document ∈ documents,
      Revises settings [] collection (setField field value) document
        (document.set field value) := by
  intro document member
  obtain ⟨keyed, writable⟩ := storable document member
  exact (revises_iff (Value.hasTextKeys_object.mp keyed) changeKeyed).mpr
    ⟨⟨_, rfl⟩, rfl, writable⟩

/-! ## Exactness -/

/-- An update of all documents that match counts them and rewrites exactly these as
it should, unless a document found takes the id of a later one. -/
theorem updateMany_exact_iff {settings : ClientSettings} {engine : TableEngine}
    {collection : String} {store : Store} {table : List Members} (session : Option SessionId)
    {filter change : Value} {options : UpdateOptions} {revised : Members → Members}
    {text : Option Sql.Fragment} {log : List LogEntry}
    (stored : store.tables collection = some table) (kept : engine.Keeps table)
    (compiles : (Filter.compile settings.dialect settings.strict filter).Returns [] text log)
    (revises : ∀ document ∈ table, engine.accepts filter document = true →
      Revises settings store.schemas collection change document (revised document))
    (noUpsert : options.upsert = false ∨ engine.found filter table ≠ []) :
    ∃ rows,
      Yields engine (updateMany settings collection filter change options session) store
        { matchedCount := (table.filter (engine.accepts filter)).length
          modifiedCount := (table.filter (engine.accepts filter)).length }
        { store with tables := store.tables.write collection rows } ∧
      (rows = table.map (fun document =>
          if engine.accepts filter document then revised document else document) ↔
        (engine.found filter table).Pairwise (Undisturbed revised)) := by
  have run := yields_updateMany session stored kept compiles revises noUpsert
  rw [(engine.found_perm filter table).length_eq] at run
  exact ⟨_, run, settle_found_iff kept⟩

/-- A field is set in two documents. -/
theorem updateMany_exact_setField :
    ∃ after : Store,
      Yields default (updateMany { dialect := .postgres, strict := true } "users" (.object [])
          (setField "seen" (.bool true)) {} none)
        (Store.sample [titled "a" [], titled "b" []])
        { matchedCount := 2, modifiedCount := 2 } after ∧
      after.tables "users" =
        some [titled "a" [("seen", .bool true)], titled "b" [("seen", .bool true)]] := by
  have stored : (Store.sample [titled "a" [], titled "b" []]).tables "users" = some _ := rfl
  have compiles : (Filter.compile .postgres true (.object [])).Returns [] none [] := rfl
  have revises : ∀ document ∈ [titled "a" [], titled "b" []],
      Revises { dialect := .postgres, strict := true } [] "users"
        (setField "seen" (.bool true)) document (document.set "seen" (.bool true)) :=
    revises_setField _ _ _ rfl <| List.forall_mem_cons.mpr
      ⟨⟨rfl, rfl⟩, List.forall_mem_singleton.mpr ⟨rfl, rfl⟩⟩
  have undisturbed : ((default : TableEngine).found (.object [])
      [titled "a" [], titled "b" []]).Pairwise
        (Undisturbed fun document => document.set "seen" (.bool true)) := by
    refine List.pairwise_pair.mpr ?_
    intro same
    cases same
  obtain ⟨rows, run, exact⟩ := updateMany_exact_iff none stored
    (keeps_titled (by decide) [] []) compiles (fun document member _ => revises document member)
    (.inl (rfl : ({} : UpdateOptions).upsert = false))
  refine ⟨_, run, ?_⟩
  rw [exact.mpr undisturbed]
  rfl

/-- Two documents get the id of the second one, and the statement on that id makes
the first one a copy of the second. -/
theorem updateMany_overwrites :
    ∃ after : Store,
      Yields default (updateMany { dialect := .postgres, strict := true } "users" (.object [])
          (setField "id" (.text "b")) {} none)
        (Store.sample [titled "a" [("seen", .bool true)], titled "b" []])
        { matchedCount := 2, modifiedCount := 2 } after ∧
      after.tables "users" = some [titled "b" [], titled "b" []] ∧
      Revises { dialect := .postgres, strict := true } [] "users" (setField "id" (.text "b"))
        (titled "a" [("seen", .bool true)]) (titled "b" [("seen", .bool true)]) := by
  have stored : (Store.sample [titled "a" [("seen", .bool true)], titled "b" []]).tables
      "users" = some _ := rfl
  have compiles : (Filter.compile .postgres true (.object [])).Returns [] none [] := rfl
  have revises : ∀ document ∈ [titled "a" [("seen", .bool true)], titled "b" []],
      Revises { dialect := .postgres, strict := true } [] "users"
        (setField "id" (.text "b")) document (document.set "id" (.text "b")) :=
    revises_setField _ _ _ rfl <| List.forall_mem_cons.mpr
      ⟨⟨rfl, rfl⟩, List.forall_mem_singleton.mpr ⟨rfl, rfl⟩⟩
  have run := yields_updateMany none stored
    (keeps_titled (by decide) [("seen", .bool true)] []) compiles
    (fun document member _ => revises document member)
    (.inl (rfl : ({} : UpdateOptions).upsert = false))
  exact ⟨_, run, rfl, revises _ List.mem_cons_self⟩

end Client

end DocStore
