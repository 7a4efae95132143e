import DocStore.Proofs.FilterLeaves
import DocStore.Proofs.Insertion
import DocStore.Proofs.Selection
import DocStore.Proofs.Sorting
import DocStore.Proofs.UpdateMany

/-!
# Writing one document

A deletion or an update of one document finds one document and then runs the
statement for its id.  The limit of one is on the search only: the statement meets
every row that holds the id, and nothing keeps ids apart when documents are
inserted.  The call writes one row exactly if the statement meets one.
-/

namespace DocStore

namespace Database

open ClientAction Client

variable {database : Database} {settings : ClientSettings} {collection : String}
  {session : Option SessionId} {schemas : SchemaCatalog} {disk : Disk} {rows : List Members}

/-- The columns show all documents that insertions can have left. -/
def ShowsStorable (database : Database) : Prop :=
  ∀ document, Storable document →
    Document.decode (database.column document) = .ok (.object document)

/-! ## The statement for an id -/

theorem met_eq {id : Value} {statement : Statement} (named : id.isNull = false)
    (restricted : Query.IsRestricted statement.dialect id statement) :
    (open Classical in
      if statement.whereClause? = some (idTest statement.dialect id) then
        fun row => (database.fields row).equals idField id
      else database.unkeyed id) = database.meets id := by
  funext row
  cases isObject : id.isObject with
  | false =>
      rw [if_pos (Query.whereClause?_of_notObject named isObject restricted)]
      simp [meets, isObject]
  | true =>
      cases id with
      | object operators =>
          rw [if_neg (Query.whereClause?_of_object restricted)]
          simp [meets, isObject]
      | _ => cases isObject

theorem change_eq {id : Value} {statement : Statement}
    {rewrite : (Members → Bool) → List Members → List Members}
    (stored : disk.tables collection = some rows) (named : id.isNull = false)
    (restricted : Query.IsRestricted statement.dialect id statement) :
    database.change collection id statement rewrite disk =
      (.ok [], { disk.write collection (rewrite (database.meets id) rows) with
        touched := disk.touched + rows.countP (database.meets id) }) := by
  simp only [change, stored, met_eq named restricted]

/-- The rows without those that the statement for an id meets. -/
def removed (database : Database) (disk : Disk) (collection : String) (id : Value) : Disk :=
  let rows := disk.rows collection
  { disk.write collection (rows.filter fun row => !database.meets id row) with
    touched := disk.touched + rows.countP (database.meets id) }

/-- The rows with a document in the place of those that the statement for an id
meets. -/
def replaced (database : Database) (disk : Disk) (collection : String) (id : Value)
    (document : Members) : Disk :=
  let rows := disk.rows collection
  { disk.write collection (rows.map fun row =>
      if database.meets id row then document else row) with
    touched := disk.touched + rows.countP (database.meets id) }

theorem Query.dialect_of_delete {id : Value} {statement : Statement} {entries log : List LogEntry}
    (returned : (Query.delete settings collection id).Returns entries statement log) :
    statement.dialect = settings.dialect := by
  obtain ⟨line, _, _, rest⟩ := Logged.returns_bind.mp returned
  obtain ⟨rfl, _⟩ := Logged.returns_pure.mp rest
  rfl

theorem Query.dialect_of_update {id document : Value} {statement : Statement}
    {entries log : List LogEntry}
    (returned : (Query.update settings collection id document).Returns entries statement log) :
    statement.dialect = settings.dialect := by
  obtain ⟨_, _, _, returned⟩ := Logged.returns_bind.mp returned
  obtain ⟨_, _, _, rest⟩ := Logged.returns_bind.mp returned
  obtain ⟨rfl, _⟩ := Logged.returns_pure.mp rest
  rfl

section Statements

variable (database) {id : Value} (document : Members) (stored : disk.tables collection = some rows)
  (named : id.isNull = false)

include stored named

theorem run_remove_of_compiled (settings : ClientSettings) (session : Option SessionId)
    (schemas : SchemaCatalog) {statement : Statement} {log : List LogEntry}
    (compiled : (Query.delete settings collection id).Returns [] statement log) :
    run database.answers (remove settings collection session id document) schemas disk =
      ((.ok (), schemas), database.removed disk collection id) := by
  have restricted : Query.IsRestricted statement.dialect id statement := by
    rw [Query.dialect_of_delete compiled]
    exact Query.isRestricted_delete compiled
  have requested : ((Command.delete collection id).compile settings).Returns [] statement log :=
    compiled
  simp only [remove, run_bind, run_request_of_returns requested, run_rowsOf, carryOut,
    change_eq stored named restricted, run_pure, removed, Disk.rows, stored, Option.getD_some]

theorem run_remove_cases (settings : ClientSettings) (session : Option SessionId)
    (schemas : SchemaCatalog) :
    (∃ failure, run database.answers (remove settings collection session id document) schemas
        disk = ((.error failure, schemas), disk)) ∨
      run database.answers (remove settings collection session id document) schemas disk =
        ((.ok (), schemas), database.removed disk collection id) := by
  rcases Command.request_cases settings (.delete collection id) with
    ⟨failure, failed⟩ | ⟨statement, log, compiled⟩
  · left
    exact ⟨failure, by simp only [remove, run_bind, run_request, failed]⟩
  · right
    exact database.run_remove_of_compiled document stored named settings session schemas compiled

/-- The statement for the id of a document replaces rows, or does not get as far as
that. -/
theorem run_revise_cases (settings : ClientSettings) (session : Option SessionId)
    (schemas : SchemaCatalog) (change : Value) :
    (∃ failure, run database.answers (revise settings collection change session id document)
        schemas disk = ((.error failure, schemas), disk)) ∨
      ∃ revised,
        run database.answers (revise settings collection change session id document) schemas
          disk = ((.ok (), schemas), database.replaced disk collection id revised) := by
  unfold revise
  rw [run_bind, updated, run_ofLogged]
  rcases applied : (Update.apply settings.strict (.object document) change).outcome.1 with
    failure | revised
  · exact .inl ⟨failure, rfl⟩
  simp only [run_bind, run_validate]
  rcases schemas.validate collection (.object revised) with failure | _
  · exact .inl ⟨failure, rfl⟩
  rcases Command.request_cases settings (.update collection id revised) with
    ⟨failure, failed⟩ | ⟨statement, log, compiled⟩
  · left
    exact ⟨failure, by simp only [run_request, failed]⟩
  cases replacement : statement.replacement with
  | error fault =>
      left
      refine ⟨TableEngine.refusal, ?_⟩
      simp only [run_request_of_returns compiled, run_rowsOf, carryOut, replacement]
      rfl
  | ok document =>
      right
      refine ⟨document, ?_⟩
      have written : (Query.update settings collection id (.object revised)).Returns []
        statement log := compiled
      have restricted : Query.IsRestricted statement.dialect id statement := by
        rw [Query.dialect_of_update written]
        exact Query.isRestricted_update written
      simp only [run_request_of_returns compiled, run_rowsOf, carryOut, replacement,
        change_eq stored named restricted, run_pure, replaced, Disk.rows, stored,
        Option.getD_some]

end Statements

/-! ## The document found -/

theorem found_nil (filter : Value) (options : FindOptions) :
    database.found filter options [] = [] := by
  have none : database.matched filter options.sort [] = [] :=
    List.perm_nil.mp (database.arrange_perm _ _)
  unfold found
  rw [none]
  cases options.limit <;> simp

/-- A search for the documents to be written fails, or yields them. -/
theorem run_matching_cases (filter : Value) (limit : Option Nat)
    (shown : database.Shows (disk.rows collection)) :
    (∃ failure, run database.answers (matching settings collection filter limit session) schemas
        disk = ((.error failure, schemas), disk)) ∨
      run database.answers (matching settings collection filter limit session) schemas disk =
        ((.ok (database.found filter { limit } (disk.rows collection)), schemas), disk) := by
  unfold matching
  rw [run_bind, run_tableExists]
  cases stored : disk.tables collection with
  | none =>
      right
      simp [Disk.rows, stored, found_nil]
  | some rows =>
      simp only [Disk.rows, stored, Option.getD_some] at shown ⊢
      exact run_find_cases stored shown rfl

theorem length_found_le (filter : Value) (limit : Nat) (documents : List Members) :
    (database.found filter { limit := some limit } documents).length ≤ limit :=
  List.length_take_le _ _

/-- A search for one document finds none, or one of the rows. -/
theorem found_one_cases (filter : Value) (documents : List Members) :
    database.found filter { limit := some 1 } documents = [] ∨
      ∃ document ∈ documents, database.found filter { limit := some 1 } documents = [document] := by
  have short := database.length_found_le filter 1 documents
  cases isFound : database.found filter { limit := some 1 } documents with
  | nil => exact .inl rfl
  | cons document others =>
      right
      refine ⟨document, ?_, ?_⟩
      · apply mem_of_mem_found database
        rw [isFound]
        exact List.mem_cons_self
      · rw [isFound, List.length_cons] at short
        have noOthers : others = [] := List.length_eq_zero_iff.mp (by omega)
        rw [noOthers]

/-! ## Calls that write no rows -/

/-- An action replaces and removes nothing, whatever it comes to. -/
def Untouching (database : Database) {α : Type} (action : ClientAction α) : Prop :=
  ∀ schemas disk, (run database.answers action schemas disk).2.touched = disk.touched

theorem untouching_bind {α β : Type} {action : ClientAction α} {next : α → ClientAction β}
    (first : database.Untouching action) (second : ∀ value, database.Untouching (next value)) :
    database.Untouching (action >>= next) := by
  intro schemas disk
  have kept := first schemas disk
  rw [run_bind]
  rcases ran : run database.answers action schemas disk with ⟨⟨outcome, after⟩, reached⟩
  rw [ran] at kept
  cases outcome with
  | error failure => exact kept
  | ok value => exact (second value after reached).trans kept

theorem untouching_ofLogged {α : Type} (computation : Logged α) :
    database.Untouching (Action.ofLogged computation) := by
  intro schemas disk
  rw [run_ofLogged]

theorem untouching_ofFault {α : Type} (outcome : Except Fault α) :
    database.Untouching (Action.ofFault outcome) := by
  intro schemas disk
  rw [run_ofFault]

theorem untouching_ofReport {α : Type} (outcome : Except IssueReport α) :
    database.Untouching (Action.ofReport outcome) := by
  intro schemas disk
  rw [run_ofReport]

theorem untouching_prepare (document : Value) :
    database.Untouching (prepare collection document) := by
  refine untouching_bind (untouching_ofFault _) fun members => ?_
  refine untouching_bind ?_ fun prepared => ?_
  · intro schemas disk
    obtain ⟨_, _, ran, _⟩ := run_withId members
    rw [ran]
  · refine untouching_bind ?_ fun _ => ?_
    · intro schemas disk
      rw [run_validate]
    · intro schemas disk
      rfl

theorem untouching_insertPrepared (documents : List Members) :
    database.Untouching (insertPrepared settings collection documents session) := by
  refine untouching_bind ?_ fun _ => untouching_bind (untouching_ofLogged _) fun request => ?_
  · intro schemas disk
    rw [run_ensureCollection]
    rfl
  · intro schemas disk
    simp only [ClientAction.insert, run_perform, answers, Database.insert]
    cases request.command with
    | insert name inserted =>
        dsimp only
        cases disk.tables name with
        | none => rfl
        | some rows => cases request.statement.insertedDocuments <;> rfl
    | _ => rfl

theorem untouching_insertOne (document : Value) :
    database.Untouching (insertOne settings collection document session) := by
  refine untouching_bind (untouching_prepare document) fun prepared => ?_
  refine untouching_bind (untouching_insertPrepared _) fun rowIds => ?_
  exact untouching_ofReport _

theorem untouching_upsert (settings : ClientSettings) (collection : String)
    (session : Option SessionId) (filter change : Value) :
    database.Untouching (upsert settings collection filter change session) := by
  refine untouching_bind (untouching_ofFault _) fun equalities => ?_
  refine untouching_bind (untouching_ofLogged _) fun seed => ?_
  refine untouching_bind (untouching_insertOne _) fun inserted => ?_
  intro schemas disk
  rfl

/-- An inserted document is not counted as changed. -/
theorem modifiedCount_upsert {filter change : Value} {result : UpdateResult}
    {after : SchemaCatalog} {reached : Disk}
    (ran : run database.answers (upsert settings collection filter change session) schemas disk =
      ((.ok result, after), reached)) :
    result.modifiedCount = 0 := by
  obtain ⟨_, _, _, _, ran⟩ := (run_bind_eq_ok _).mp ran
  obtain ⟨_, _, _, _, ran⟩ := (run_bind_eq_ok _).mp ran
  obtain ⟨_, _, _, _, ran⟩ := (run_bind_eq_ok _).mp ran
  cases ran
  rfl

/-! ## One document -/

theorem run_writeEach_one {write : Value → Members → ClientAction Unit} {document : Members}
    (named : (idOf document).isNull = false) :
    run database.answers (writeEach collection write [document]) schemas disk =
      match run database.answers (write (idOf document) document) schemas disk with
      | ((.ok (), after), reached) => ((.ok 1, after), reached)
      | ((.error failure, after), reached) => ((.error failure, after), reached) := by
  rw [writeEach, if_neg (by simp [named]), run_bind]
  rcases run database.answers (write (idOf document) document) schemas disk with
    ⟨⟨failure | ⟨⟩, after⟩, reached⟩
  · rfl
  · rfl

theorem stored_of_mem {document : Members} (member : document ∈ disk.rows collection) :
    ∃ rows, disk.tables collection = some rows := by
  cases stored : disk.tables collection with
  | none => simp [Disk.rows, stored] at member
  | some rows => exact ⟨rows, rfl⟩

section One

variable (filter : Value) (shown : database.Shows (disk.rows collection))
  (named : ∀ document ∈ disk.rows collection, (idOf document).isNull = false)

include shown named

/-- What a deletion of one document does. -/
theorem run_deleteOne_cases :
    (∃ failure, run database.answers (deleteOne settings collection filter session) schemas
        disk = ((.error failure, schemas), disk)) ∨
      (database.found filter { limit := some 1 } (disk.rows collection) = [] ∧
        run database.answers (deleteOne settings collection filter session) schemas disk =
          ((.ok { deletedCount := 0 }, schemas), disk)) ∨
      ∃ document,
        database.found filter { limit := some 1 } (disk.rows collection) = [document] ∧
          run database.answers (deleteOne settings collection filter session) schemas disk =
            ((.ok { deletedCount := 1 }, schemas),
              database.removed disk collection (idOf document)) := by
  unfold deleteOne delete
  rw [run_bind]
  rcases run_matching_cases filter (some 1) shown with ⟨failure, failed⟩ | matched
  · exact .inl ⟨failure, by rw [failed]⟩
  rw [matched]
  rcases database.found_one_cases filter (disk.rows collection) with
    none | ⟨document, member, one⟩
  · right; left
    rw [none]
    exact ⟨rfl, rfl⟩
  have isNamed := named document member
  obtain ⟨rows, stored⟩ := stored_of_mem member
  rcases database.run_remove_cases document stored isNamed settings session schemas with
    ⟨failure, failed⟩ | done
  · left
    refine ⟨failure, ?_⟩
    simp only [one, run_bind, run_writeEach_one isNamed, failed]
  · right; right
    refine ⟨document, one, ?_⟩
    simp only [one, run_bind, run_writeEach_one isNamed, done, run_pure]
    rfl

/-- What an update of one document does. -/
theorem run_updateOne_cases (change : Value) (options : UpdateOptions) :
    (∃ failure after reached,
        run database.answers (updateOne settings collection filter change options session)
            schemas disk = ((.error failure, after), reached) ∧
          reached.touched = disk.touched) ∨
      (database.found filter { limit := some 1 } (disk.rows collection) = [] ∧
        ∃ result after reached,
          run database.answers (updateOne settings collection filter change options session)
              schemas disk = ((.ok result, after), reached) ∧
            result.modifiedCount = 0 ∧ reached.touched = disk.touched) ∨
      ∃ document revised,
        database.found filter { limit := some 1 } (disk.rows collection) = [document] ∧
          run database.answers (updateOne settings collection filter change options session)
              schemas disk =
            ((.ok { matchedCount := 1, modifiedCount := 1 }, schemas),
              database.replaced disk collection (idOf document) revised) := by
  unfold updateOne update
  rw [run_bind]
  rcases run_matching_cases filter (some 1) shown with ⟨failure, failed⟩ | matched
  · left
    exact ⟨failure, schemas, disk, by rw [failed], rfl⟩
  rw [matched]
  rcases database.found_one_cases filter (disk.rows collection) with
    none | ⟨document, member, one⟩
  · rw [none]
    dsimp only
    cases inserts : options.upsert with
    | false =>
        right; left
        exact ⟨rfl, {}, schemas, disk, rfl, rfl, rfl⟩
    | true =>
        have kept := database.untouching_upsert settings collection session filter change
          schemas disk
        rw [if_pos rfl]
        rcases ran : run database.answers (upsert settings collection filter change session)
          schemas disk with ⟨⟨failure | result, after⟩, reached⟩
        · left
          rw [ran] at kept
          exact ⟨failure, after, reached, rfl, kept⟩
        · right; left
          rw [ran] at kept
          exact ⟨rfl, result, after, reached, rfl, modifiedCount_upsert ran, kept⟩
  have isNamed := named document member
  obtain ⟨rows, stored⟩ := stored_of_mem member
  rcases database.run_revise_cases document stored isNamed settings session schemas change with
    ⟨failure, failed⟩ | ⟨revised, done⟩
  · left
    refine ⟨failure, schemas, disk, ?_, rfl⟩
    simp only [one, run_bind, run_writeEach_one isNamed, failed]
  · right; right
    refine ⟨document, revised, one, ?_⟩
    simp only [one, run_bind, run_writeEach_one isNamed, done, run_pure]
    rfl

end One

/-! ## Two documents -/

theorem showsStorable_plain : plain.ShowsStorable := fun _ _ => rfl

theorem textKeyed_titled_pair (first second : String) :
    ∀ document ∈ [titled first [], titled second []], document.TextKeyed := by
  rw [List.forall_mem_cons, List.forall_mem_singleton]
  exact ⟨membersHaveTextKeys_iff.mp rfl, membersHaveTextKeys_iff.mp rfl⟩

/-- Two documents are inserted, and nothing asks whether their ids differ. -/
theorem run_insertMany_titled (first second : String) (disk : Disk) :
    ∃ result, run plain.answers (insertMany plainSettings "users"
        (.list ([titled first [], titled second []].map .object)) none) [] disk =
      ((.ok result, []),
        disk.write "users" (disk.rows "users" ++ [titled first [], titled second []])) := by
  have walked : (Value.list ([titled first [], titled second []].map .object)).walk =
      .ok ([titled first [], titled second []].map .object) := rfl
  have prepared : run plain.answers
      (prepareAll "users" ([titled first [], titled second []].map .object)) [] disk =
        ((.ok [titled first [], titled second []], []), disk) := rfl
  have compiled : ((Command.insert "users" [titled first [], titled second []]).compile
      plainSettings).Returns [] _ [] := rfl
  have inserted : run plain.answers (insertPrepared plainSettings "users"
      [titled first [], titled second []] none) [] disk = _ :=
    run_insertPrepared (textKeyed_titled_pair first second) compiled
  unfold insertMany
  rw [if_neg (by simp [Value.isTruthy])]
  simp only [run_bind, run_ofFault, walked, Except.mapError, prepared, inserted]
  exact ⟨_, rfl⟩

theorem filled_titled (first second : String) :
    ∃ disk, Filled plain plainSettings disk ∧
      disk.tables "users" = some [titled first [], titled second []] := by
  obtain ⟨result, ran⟩ := run_insertMany_titled first second
    { tables := fun _ => none, asked := 0, touched := 0 }
  exact ⟨_, .insertMany (.start fun _ => rfl) (textKeyed_titled_pair first second) ran, rfl⟩

/-- The first of two documents is found, and the statement for its id runs. -/
theorem run_deleteOne_titled (schemas : SchemaCatalog) {first second : String}
    (stored : disk.tables "users" = some [titled first [], titled second []]) :
    run plain.answers (deleteOne plainSettings "users" (.object []) none) schemas disk =
      ((.ok { deletedCount := 1 }, schemas), plain.removed disk "users" (.text first)) := by
  have found : plain.found (.object []) { limit := some 1 }
      [titled first [], titled second []] = [titled first []] := rfl
  have shown : plain.Shows [titled first [], titled second []] := fun _ _ => rfl
  have compiles : (Filter.compile plainSettings.dialect plainSettings.strict
      (.object [])).Returns [] none [] := rfl
  obtain ⟨_, selected⟩ := Query.select_returns "users" none compiles
    (by decide +kernel : isWritableInteger (1 : Nat) = true)
  have compiled : (Query.delete plainSettings "users" (.text first)).Returns [] _ [] := rfl
  unfold deleteOne delete matching
  simp only [run_bind, run_tableExists, stored, Option.isSome_some, if_true,
    run_find stored shown rfl selected, found]
  rw [run_writeEach_one (by rfl)]
  have removal := plain.run_remove_of_compiled (titled first []) stored rfl plainSettings none
    schemas compiled
  rw [idOf_titled, removal]
  rfl

/-! ## Exactness -/

/-- At most one row was written, and as many were counted. -/
def CountedOnce (written : Nat) (count : Int) : Prop := written ≤ 1 ∧ count = written

theorem countedOnce_one_iff {written : Nat} : CountedOnce written 1 ↔ written = 1 := by
  constructor
  · rintro ⟨_, counted⟩
    omega
  · rintro rfl
    exact ⟨Nat.le_refl 1, rfl⟩

theorem length_sub_length_removed (id : Value) :
    (disk.rows collection).length -
        ((database.removed disk collection id).rows collection).length =
      (disk.rows collection).countP (database.meets id) := by
  have kept : ((database.removed disk collection id).rows collection).length =
      (disk.rows collection).countP fun row => ¬database.meets id row := by
    simp [removed, Disk.write, Disk.rows, List.countP_eq_length_filter]
  have split : (disk.rows collection).length = _ :=
    List.length_eq_countP_add_countP (database.meets id)
  omega

/-- After insertions, the deletion and the update of one document write at most one
row and count it, exactly if the statement for the id of the document found meets one
row.  Calls that fail write nothing. -/
theorem single_write_exact_iff (filled : Filled database settings disk)
    (shown : database.ShowsStorable) (collection : String) (filter : Value)
    (session : Option SessionId) (schemas : SchemaCatalog) :
    (∀ outcome after reached,
      run database.answers (deleteOne settings collection filter session) schemas disk =
          ((outcome, after), reached) →
        match outcome with
        | .error _ => reached = disk
        | .ok result =>
            CountedOnce ((disk.rows collection).length - (reached.rows collection).length)
                result.deletedCount ↔
              ∀ document ∈ database.found filter { limit := some 1 } (disk.rows collection),
                (disk.rows collection).countP (database.meets (idOf document)) = 1) ∧
    ∀ change options outcome after reached,
      run database.answers (updateOne settings collection filter change options session) schemas
          disk = ((outcome, after), reached) →
        match outcome with
        | .error _ => reached.touched = disk.touched
        | .ok result =>
            CountedOnce (reached.touched - disk.touched) result.modifiedCount ↔
              ∀ document ∈ database.found filter { limit := some 1 } (disk.rows collection),
                (disk.rows collection).countP (database.meets (idOf document)) = 1 := by
  have storable := filled.storable collection
  have isShown : database.Shows (disk.rows collection) :=
    fun document member => shown document (storable document member)
  have named : ∀ document ∈ disk.rows collection, (idOf document).isNull = false :=
    fun document member => (storable document member).identified
  constructor
  · intro outcome after reached ran
    rcases run_deleteOne_cases filter isShown named with
      ⟨failure, failed⟩ | ⟨none, done⟩ | ⟨document, one, done⟩
    · cases failed.symm.trans ran
      rfl
    · cases done.symm.trans ran
      simp [none, CountedOnce]
    · cases done.symm.trans ran
      simp only [one, List.forall_mem_singleton, length_sub_length_removed, countedOnce_one_iff]
  · intro change options outcome after reached ran
    rcases run_updateOne_cases filter isShown named change options with
      ⟨failure, _, _, failed, untouched⟩ | ⟨none, result, _, _, done, counted, untouched⟩ |
        ⟨document, revised, one, done⟩
    · cases failed.symm.trans ran
      exact untouched
    · cases done.symm.trans ran
      simp [none, CountedOnce, untouched, counted]
    · cases done.symm.trans ran
      simp only [one, List.forall_mem_singleton, replaced, Nat.add_sub_cancel_left,
        countedOnce_one_iff]

/-- With different ids one document is deleted. -/
theorem single_write_exact_titled :
    ∃ disk reached, Filled plain plainSettings disk ∧
      run plain.answers (deleteOne plainSettings "users" (.object []) none) [] disk =
        ((.ok { deletedCount := 1 }, []), reached) ∧
      CountedOnce ((disk.rows "users").length - (reached.rows "users").length) 1 := by
  obtain ⟨disk, filled, stored⟩ := filled_titled "a" "b"
  have ran := run_deleteOne_titled [] stored
  have exact := (single_write_exact_iff filled showsStorable_plain "users" (.object []) none
    []).1 _ _ _ ran
  refine ⟨disk, _, filled, ran, exact.mpr ?_⟩
  have rows : disk.rows "users" = [titled "a" [], titled "b" []] := by simp [Disk.rows, stored]
  rw [rows]
  decide

/-- With one id on two documents, both are deleted and one is counted. -/
theorem deleteOne_removes_both :
    ∃ disk reached, Filled plain plainSettings disk ∧
      run plain.answers (deleteOne plainSettings "users" (.object []) none) [] disk =
        ((.ok { deletedCount := 1 }, []), reached) ∧
      (disk.rows "users").length = 2 ∧ reached.rows "users" = [] := by
  obtain ⟨disk, filled, stored⟩ := filled_titled "a" "a"
  have ran := run_deleteOne_titled [] stored
  have rows : disk.rows "users" = [titled "a" [], titled "a" []] := by simp [Disk.rows, stored]
  refine ⟨disk, _, filled, ran, by rw [rows]; rfl, ?_⟩
  simp only [removed, Disk.write, Disk.rows, Tables.write_self, Option.getD_some, stored]
  decide

end Database

end DocStore
