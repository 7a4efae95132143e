import DocStore.Proofs.Database
import DocStore.Proofs.TextKeys

/-!
# Insertions into a database

A successful insertion adds the prepared documents to the table of its collection
and leaves all other tables as they are.  Every document that was inserted has an
id, and can be written as JSON.
-/

namespace DocStore

/-- Documents as insertions leave them in tables. -/
structure Storable (document : Members) : Prop where
  identified : (Client.idOf document).isNull = false
  keyed : document.TextKeyed
  writable : Json.obstacle? (.object document) = none

theorem Except.forall_of_mapM {ε α β : Type} {step : α → Except ε β} {items : List α}
    {results : List β} (traversed : items.mapM step = .ok results) :
    ∀ item ∈ items, ∃ result, step item = .ok result := by
  intro item member
  obtain ⟨result, _, stepped⟩ :=
    exists_of_forall₂ (Except.mapM_eq_ok.mp traversed).flip item member
  exact ⟨result, stepped⟩

/-- An insertion compiles only if all its documents can be written. -/
theorem Query.writable_of_insert {settings : ClientSettings} {collection : String}
    {documents : List Members} {statement : Statement} {entries log : List LogEntry}
    (compiled : ((Command.insert collection documents).compile settings).Returns entries
      statement log) :
    ∀ document ∈ documents, Json.obstacle? (.object document) = none := by
  obtain ⟨encoded, _, returned, _⟩ := Logged.returns_bind.mp compiled
  obtain ⟨traversed, _⟩ := Logged.returns_ofFault.mp returned
  intro document member
  obtain ⟨text, written⟩ :=
    Except.forall_of_mapM traversed (.object document) (List.mem_map_of_mem member)
  exact Json.obstacle?_of_encode written

namespace Database

open ClientAction Client

variable {database : Database} {settings : ClientSettings} {collection : String}
  {session : Option SessionId} {schemas after : SchemaCatalog} {disk reached : Disk}

/-! ## Preparing documents -/

/-- Only the time and random bytes were asked for. -/
def OnlyAsked (before after : Disk) : Prop :=
  after.tables = before.tables ∧ after.touched = before.touched

theorem OnlyAsked.trans {first second third : Disk} (one : OnlyAsked first second)
    (two : OnlyAsked second third) : OnlyAsked first third :=
  ⟨two.1.trans one.1, two.2.trans one.2⟩

theorem run_generateId :
    ∃ id asked, run database.answers generateId schemas disk =
      ((.ok id, schemas), { disk with asked }) :=
  ⟨_, _, rfl⟩

theorem run_withId (document : Members) :
    ∃ prepared asked, run database.answers (withId document) schemas disk =
        ((.ok prepared, schemas), { disk with asked }) ∧
      (idOf prepared).isNull = false ∧ (document.TextKeyed → prepared.TextKeyed) := by
  unfold withId
  by_cases missing : (document.getD idField).isNull = true
  · obtain ⟨id, asked, generated⟩ := run_generateId
    refine ⟨document.set idField (.text id), asked, ?_, ?_, ?_⟩
    · rw [if_pos missing, run_bind, generated]
      rfl
    · simp [idOf, Members.getD, Members.get?_set, Value.isNull]
    · exact fun keyed => keyed.set idField rfl
  · refine ⟨document, disk.asked, ?_, ?_, id⟩
    · rw [if_neg missing]
      rfl
    · simpa [idOf] using missing

/-- A prepared document has an id. -/
theorem run_prepare_ok {document prepared : Members} (keyed : document.TextKeyed)
    (ran : run database.answers (prepare collection (.object document)) schemas disk =
      ((.ok prepared, after), reached)) :
    ((idOf prepared).isNull = false ∧ prepared.TextKeyed) ∧ OnlyAsked disk reached := by
  obtain ⟨_, _, _, taken, ran⟩ := (run_bind_eq_ok _).mp ran
  cases taken
  obtain ⟨identified, _, _, given, ran⟩ := (run_bind_eq_ok _).mp ran
  obtain ⟨_, asked, ranId, hasId, keeps⟩ := run_withId document
  cases ranId.symm.trans given
  obtain ⟨_, _, _, validated, ran⟩ := (run_bind_eq_ok _).mp ran
  simp only [run_validate, Prod.mk.injEq] at validated
  obtain ⟨⟨_, rfl⟩, rfl⟩ := validated
  cases ran
  exact ⟨⟨hasId, keeps keyed⟩, rfl, rfl⟩

theorem run_prepareAll_ok {documents prepared : List Members}
    (keyed : ∀ document ∈ documents, document.TextKeyed)
    (ran : run database.answers (prepareAll collection (documents.map .object)) schemas disk =
      ((.ok prepared, after), reached)) :
    (∀ document ∈ prepared, (idOf document).isNull = false ∧ document.TextKeyed) ∧
      OnlyAsked disk reached := by
  induction documents generalizing schemas disk prepared with
  | nil =>
      cases ran
      exact ⟨by simp, rfl, rfl⟩
  | cons document documents ih =>
      obtain ⟨first, others⟩ := List.forall_mem_cons.mp keyed
      obtain ⟨one, _, _, ranOne, ran⟩ := (run_bind_eq_ok _).mp ran
      obtain ⟨rest, _, _, ranRest, ran⟩ := (run_bind_eq_ok _).mp ran
      cases ran
      obtain ⟨oneIs, oneAsked⟩ := run_prepare_ok first ranOne
      obtain ⟨restAre, restAsked⟩ := ih others ranRest
      exact ⟨List.forall_mem_cons.mpr ⟨oneIs, restAre⟩, oneAsked.trans restAsked⟩

/-! ## Inserting prepared documents -/

theorem run_ensureCollection :
    run database.answers (ensureCollection collection) schemas disk =
      ((.ok (), schemas), disk.write collection (disk.rows collection)) := by
  unfold ensureCollection
  rw [run_bind, run_tableExists]
  cases stored : disk.tables collection with
  | none => rfl
  | some rows =>
      have unchanged : disk.write collection (disk.rows collection) = disk := by
        simp [Disk.write, Disk.rows, stored]
      rw [unchanged]
      rfl

/-- Prepared documents are added to the rows of their collection. -/
theorem run_insertPrepared {documents : List Members} {statement : Statement}
    {log : List LogEntry} (keyed : ∀ document ∈ documents, document.TextKeyed)
    (compiled : ((Command.insert collection documents).compile settings).Returns []
      statement log) :
    run database.answers (insertPrepared settings collection documents session) schemas disk =
      ((.ok (database.rowIds (disk.write collection (disk.rows collection)) documents.length),
        schemas), disk.write collection (disk.rows collection ++ documents)) := by
  unfold insertPrepared
  simp only [run_bind, run_ensureCollection, run_request_of_returns compiled,
    ClientAction.insert, run_perform, answers, Database.insert, Disk.write, Tables.write_self,
    Tables.write_write, Command.insertedDocuments_of_insert keyed compiled]

theorem run_insertPrepared_ok {documents : List Members} {rowIds : List Value}
    (keyed : ∀ document ∈ documents, document.TextKeyed)
    (ran : run database.answers (insertPrepared settings collection documents session) schemas
      disk = ((.ok rowIds, after), reached)) :
    (∀ document ∈ documents, Json.obstacle? (.object document) = none) ∧
      reached = disk.write collection (disk.rows collection ++ documents) := by
  obtain ⟨_, _, _, ensured, rest⟩ := (run_bind_eq_ok _).mp ran
  cases run_ensureCollection.symm.trans ensured
  obtain ⟨request, _, _, requested, _⟩ := (run_bind_eq_ok _).mp rest
  rw [run_request] at requested
  simp only [Prod.mk.injEq] at requested
  obtain ⟨⟨compiled, rfl⟩, rfl⟩ := requested
  obtain ⟨statement, returned, rfl⟩ := Command.request_returns_iff.mp
    (Prod.ext compiled rfl : (Command.request settings (.insert collection documents)).outcome =
      (.ok request, _))
  cases (run_insertPrepared keyed returned).symm.trans ran
  exact ⟨Query.writable_of_insert returned, rfl⟩

/-! ## Histories of insertions -/

/-- An insertion added storable documents to the rows of a collection. -/
def Adds (collection : String) (before after : Disk) : Prop :=
  ∃ documents, (∀ document ∈ documents, Storable document) ∧
    after.tables = before.tables.write collection (before.rows collection ++ documents) ∧
    after.touched = before.touched

theorem adds_of_prepared {documents : List Members} {middle : Disk} {rowIds : List Value}
    (prepared : ∀ document ∈ documents, (idOf document).isNull = false ∧ document.TextKeyed)
    (asked : OnlyAsked disk middle)
    (ran : run database.answers (insertPrepared settings collection documents session) schemas
      middle = ((.ok rowIds, after), reached)) :
    Adds collection disk reached := by
  obtain ⟨writable, rfl⟩ :=
    run_insertPrepared_ok (fun document member => (prepared document member).2) ran
  obtain ⟨sameTables, sameTouched⟩ := asked
  refine ⟨documents, ?_, ?_, sameTouched⟩
  · intro document member
    obtain ⟨identified, keyed⟩ := prepared document member
    exact ⟨identified, keyed, writable document member⟩
  · simp only [Disk.write, Disk.rows, sameTables]

theorem adds_of_insertOne {document : Members} {result : InsertOneResult}
    (keyed : document.TextKeyed)
    (ran : run database.answers (insertOne settings collection (.object document) session)
      schemas disk = ((.ok result, after), reached)) :
    Adds collection disk reached := by
  obtain ⟨prepared, _, _, ranPrepare, ran⟩ := (run_bind_eq_ok _).mp ran
  obtain ⟨rowIds, _, _, ranInsert, ran⟩ := (run_bind_eq_ok _).mp ran
  simp only [run_ofReport, Prod.mk.injEq] at ran
  obtain ⟨_, rfl⟩ := ran
  obtain ⟨isPrepared, asked⟩ := run_prepare_ok keyed ranPrepare
  exact adds_of_prepared (List.forall_mem_singleton.mpr isPrepared) asked ranInsert

theorem adds_of_insertMany {documents : List Members} {result : InsertManyResult}
    (keyed : ∀ document ∈ documents, document.TextKeyed) (some : documents ≠ [])
    (ran : run database.answers
      (insertMany settings collection (.list (documents.map .object)) session) schemas disk =
        ((.ok result, after), reached)) :
    Adds collection disk reached := by
  have truthy : (Value.list (documents.map .object)).isTruthy = true := by
    simpa [Value.isTruthy] using some
  unfold insertMany at ran
  rw [if_neg (by simp [truthy])] at ran
  obtain ⟨_, _, _, walked, ran⟩ := (run_bind_eq_ok _).mp ran
  cases walked
  obtain ⟨prepared, _, _, ranPrepare, ran⟩ := (run_bind_eq_ok _).mp ran
  obtain ⟨rowIds, _, _, ranInsert, ran⟩ := (run_bind_eq_ok _).mp ran
  simp only [run_ofReport, Prod.mk.injEq] at ran
  obtain ⟨_, rfl⟩ := ran
  obtain ⟨arePrepared, asked⟩ := run_prepareAll_ok keyed ranPrepare
  exact adds_of_prepared arePrepared asked ranInsert

/-- The states of a database without rows after successful insertions. -/
inductive Filled (database : Database) (settings : ClientSettings) : Disk → Prop where
  | start {disk : Disk} : (∀ collection, disk.rows collection = []) →
      Filled database settings disk
  | insertOne {collection : String} {document : Members} {session : Option SessionId}
      {schemas after : SchemaCatalog} {disk reached : Disk} {result : InsertOneResult} :
      Filled database settings disk → document.TextKeyed →
      run database.answers (insertOne settings collection (.object document) session) schemas
        disk = ((.ok result, after), reached) →
      Filled database settings reached
  | insertMany {collection : String} {documents : List Members} {session : Option SessionId}
      {schemas after : SchemaCatalog} {disk reached : Disk} {result : InsertManyResult} :
      Filled database settings disk → (∀ document ∈ documents, document.TextKeyed) →
      run database.answers
        (insertMany settings collection (.list (documents.map .object)) session) schemas disk =
          ((.ok result, after), reached) →
      Filled database settings reached

/-- What an insertion adds is storable like what was there. -/
theorem Adds.storable (adds : Adds collection disk reached)
    (before : ∀ name, ∀ document ∈ disk.rows name, Storable document) :
    ∀ name, ∀ document ∈ reached.rows name, Storable document := by
  obtain ⟨documents, storable, tables, _⟩ := adds
  intro name document member
  rw [Disk.rows, tables, Tables.write] at member
  split at member
  · rcases List.mem_append.mp member with old | new
    · exact before collection document old
    · exact storable document new
  · exact before name document member

theorem Filled.storable (filled : Filled database settings disk) :
    ∀ name, ∀ document ∈ disk.rows name, Storable document := by
  induction filled with
  | start empty =>
      intro name document member
      rw [empty name] at member
      cases member
  | insertOne _ keyed ran ih => exact (adds_of_insertOne keyed ran).storable ih
  | @insertMany collection documents _ _ _ disk _ _ _ keyed ran ih =>
      cases documents with
      | nil =>
          cases ran
          exact ih
      | cons document documents =>
          exact (adds_of_insertMany keyed (List.cons_ne_nil _ _) ran).storable ih

end Database

end DocStore
