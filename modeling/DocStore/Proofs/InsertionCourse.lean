import DocStore.Client.Write
import DocStore.Proofs.Executions
import DocStore.Proofs.Formatting
import DocStore.Proofs.PageRun
import DocStore.Proofs.StoredDocument
import DocStore.Proofs.WrittenDocuments

/-!
# The course of an insertion

An insertion completes its documents with ids and has all of them accepted before it
executes anything.  Then it makes sure that the table is there, and inserts all documents by
one statement.  The documents, the groups of values and the parameters of the statement, and
the ids in the result have the same positions.
-/

namespace DocStore

open Value (IsJson)

/-! ## The statement -/

theorem Sql.Fragment.render_joined (dialect : Dialect) (separator : String)
    (fragments : List Sql.Fragment) :
    render dialect (joined separator fragments) =
      String.intercalate separator (fragments.map (render dialect)) := by
  induction fragments with
  | nil => rfl
  | cons first rest ih =>
      cases rest with
      | nil => simp [joined]
      | cons second rest =>
          rw [List.map_cons, List.map_cons, String.intercalate_cons_cons, ← List.map_cons, ← ih,
            joined, render_append, render_cons]
          · simp [Sql.Piece.render, String.append_assoc]
          · simp

namespace Statement

/-- A statement inserts documents into a table: it has one group of values and one parameter
for each of them, and the parameters are read as the documents. -/
structure Inserts (dialect : Dialect) (table : String) (documents : List Members)
    (statement : Statement) : Prop where
  text : statement.sql =
    "INSERT INTO " ++ Sql.identifierText dialect table ++ " (data) VALUES " ++
      String.intercalate ", "
        (List.replicate documents.length ("(" ++ Sql.documentPlaceholder dialect ++ ")")) ++
      (match dialect with
        | .postgres => " RETURNING id"
        | .mysql => "")
  bound : List.Forall₂
    (fun document parameter => Document.decode parameter = .ok (.object document))
    documents statement.params

theorem sql_insert (dialect : Dialect) (table : String) (texts : List String) :
    (insert dialect table texts).sql =
      "INSERT INTO " ++ Sql.identifierText dialect table ++ " (data) VALUES " ++
        String.intercalate ", "
          (List.replicate texts.length ("(" ++ Sql.documentPlaceholder dialect ++ ")")) ++
        (match dialect with
          | .postgres => " RETURNING id"
          | .mysql => "") := by
  have groups : texts.map (Sql.Fragment.render dialect ∘ fun json =>
      Sql.Fragment.parenthesised [.document json]) =
        List.replicate texts.length ("(" ++ Sql.documentPlaceholder dialect ++ ")") := by
    refine List.eq_replicate_iff.mpr ⟨List.length_map _, ?_⟩
    intro group member
    obtain ⟨json, _, rfl⟩ := List.mem_map.mp member
    rfl
  unfold sql insert
  dsimp only
  rw [Sql.Fragment.render_append, Sql.Fragment.render_append, Sql.Fragment.render_joined,
    List.map_map, groups]
  cases dialect <;>
    simp [Sql.Piece.render, Sql.Fragment.render, Sql.Fragment.renderWith, String.append_assoc,
      Dialect.documentColumn, Dialect.rowColumn]

theorem inserts_insert {dialect : Dialect} {table : String} {documents : List Members}
    {texts : List String}
    (read : List.Forall₂
      (fun document text => Document.decode (.text text) = .ok (.object document)) documents
      texts) :
    (insert dialect table texts).Inserts dialect table documents where
  text := by rw [sql_insert, read.length_eq]
  bound := by
    rw [params_insert]
    exact List.forall₂_map_right_iff.mpr read

end Statement

/-- Documents of JSON are written, unless an integer in one of them has too many digits. -/
theorem Document.mapM_encode {documents : List Members}
    (isJson : ∀ document ∈ documents, IsJson (.object document)) :
    ((∃ document ∈ documents, (Value.object document).isWritable = false) ∧
      (documents.map .object).mapM encode = .error .malformedValue) ∨
    ∃ texts, (documents.map .object).mapM encode = .ok texts ∧
      List.Forall₂ (fun document text => decode (.text text) = .ok (.object document))
        documents texts := by
  induction documents with
  | nil => exact .inr ⟨[], rfl, .nil⟩
  | cons document documents ih =>
      obtain ⟨first, others⟩ := List.forall_mem_cons.mp isJson
      obtain ⟨written, refused⟩ := decode_encode_of_isJson first
      rw [List.map_cons, List.mapM_cons]
      cases writable : (Value.object document).isWritable with
      | false =>
          rw [refused writable]
          exact .inl ⟨⟨document, List.mem_cons_self, writable⟩, rfl⟩
      | true =>
          obtain ⟨text, encoded, read, _⟩ := written writable
          rw [encoded]
          rcases ih others with ⟨⟨other, isOther, unwritable⟩, failed⟩ | ⟨texts, all, areRead⟩
          · rw [failed]
            exact .inl ⟨⟨other, List.mem_cons_of_mem _ isOther, unwritable⟩, rfl⟩
          · rw [all]
            exact .inr ⟨text :: texts, rfl, .cons read areRead⟩

theorem Command.outcome_request_insert (settings : ClientSettings) (collection : String)
    (documents : List Members) :
    ((insert collection documents).request settings).outcome.1 =
      (((documents.map .object).mapM Document.encode).mapError .fault).map fun texts =>
        { command := .insert collection documents,
          statement := .insert settings.dialect collection texts } := by
  change (do
    let statement ← Query.insert settings collection (documents.map .object)
    pure { command := .insert collection documents, statement } : Logged Request).outcome.1 = _
  unfold Query.insert
  cases (documents.map .object).mapM Document.encode <;> rfl

/-! ## Row ids and results -/

/-- The row ids that an engine tells of an execution that inserts a number of rows: those of
the rows that it returns, or as many as there are rows counted from the first one, or none if
it does not tell the first one. -/
inductive RowIds (execution : Execution) (count : Nat) : RowIdSource → List Int → Prop where
  | returned {ids : List Int}
      (columns : List.Forall₂ (fun row id =>
        (Document.column row Dialect.rowColumn >>= Value.toInteger) = .ok id)
        execution.rows ids) : RowIds execution count .returned ids
  | counted {first : Int} (known : execution.lastRowId = .int first) :
      RowIds execution count .counted
        ((List.range count).map fun offset : Nat => first + Int.ofNat offset)
  | unknown (silent : execution.lastRowId = .null) : RowIds execution count .counted []

theorem RowIds.insertedIds_eq {execution : Execution} {count : Nat} {source : RowIdSource}
    {ids : List Int} (rowIds : RowIds execution count source ids) :
    Engine.insertedIds source execution (.natural count) = .ok (ids.map .int) := by
  cases rowIds with
  | returned columns =>
      refine Except.mapM_eq_ok.mpr (List.forall₂_map_right_iff.mpr (columns.imp ?_))
      intro row id column
      obtain ⟨value, isColumn, isInteger⟩ := Except.bind_eq_ok.mp column
      rw [isColumn]
      change (do
        let number ← value.toInteger
        pure (.int number) : Except Fault Value) = _
      rw [isInteger]
      rfl
  | counted known =>
      rw [Engine.insertedIds, known]
      refine Except.mapM_eq_ok.mpr (List.forall₂_map_right_iff.mpr
        (List.forall₂_map_right_iff.mpr (List.forall₂_same.mpr ?_)))
      intro offset _
      rfl
  | unknown silent =>
      rw [Engine.insertedIds, silent]
      rfl

theorem InsertManyResult.make_eq (scalars : ScalarReader) {inserted : List Members}
    (keyed : ∀ document ∈ inserted, document.TextKeyed) (insertedIds rowIds : List Value) :
    InsertManyResult.make scalars insertedIds rowIds inserted =
      ((Check.list Check.integer scalars ([] ++ [.key "row_ids"]) (.list rowIds)).map fun rowIds =>
        { insertedIds, rowIds, inserted : InsertManyResult }).report "InsertManyResult" := by
  have ids : Check.list Check.anything scalars ([] ++ [.key "inserted_ids"])
      (.list insertedIds) = .accepted insertedIds := by
    have each : ∀ value ∈ insertedIds, ∀ position,
        Check.anything scalars position (id value) = .accepted value := fun _ _ _ => rfl
    have listed := Check.list_of_accepted scalars ([] ++ [.key "inserted_ids"]) each
    rwa [List.map_id] at listed
  have documents : Check.list (Check.object .anything) scalars ([] ++ [.key "inserted"])
      (.list (inserted.map .object)) = .accepted inserted :=
    Check.list_of_accepted _ _ fun document member position =>
      Check.object_textKeyed scalars position (keyed document member)
  have checked : InsertManyResult.check scalars []
      (.object
        [ ("inserted_ids", .list insertedIds), ("row_ids", .list rowIds),
          ("inserted", .list (inserted.map .object)) ]) =
        Checked.both (Checked.both (Checked.both (Checked.map InsertManyResult.mk
          (.accepted true)) (Check.list Check.anything scalars ([] ++ [.key "inserted_ids"])
            (.list insertedIds)))
          (Check.list Check.integer scalars ([] ++ [.key "row_ids"]) (.list rowIds)))
          (Check.list (Check.object .anything) scalars ([] ++ [.key "inserted"])
            (.list (inserted.map .object))) := rfl
  rw [InsertManyResult.make, checked, ids, documents]
  cases Check.list Check.integer scalars ([] ++ [.key "row_ids"]) (.list rowIds) <;> rfl

theorem InsertOneResult.make_eq (scalars : ScalarReader) {inserted : Members}
    (keyed : inserted.TextKeyed) (insertedId rowId : Value) :
    InsertOneResult.make scalars insertedId rowId inserted =
      ((Check.nullable Check.integer scalars ([] ++ [.key "row_id"]) rowId).map fun rowId =>
        { insertedId, rowId, inserted : InsertOneResult }).report "InsertOneResult" := by
  have checked : InsertOneResult.check scalars []
      (.object
        [ ("inserted_id", insertedId), ("row_id", rowId), ("inserted", .object inserted) ]) =
        Checked.both (Checked.both (Checked.both (Checked.map InsertOneResult.mk
          (.accepted true)) (.accepted insertedId))
          (Check.nullable Check.integer scalars ([] ++ [.key "row_id"]) rowId))
          (Check.object .anything scalars ([] ++ [.key "inserted"]) (.object inserted)) := rfl
  rw [InsertOneResult.make, checked, Check.object_textKeyed _ _ keyed]
  cases Check.nullable Check.integer scalars ([] ++ [.key "row_id"]) rowId <;> rfl

/-! ## Completed documents -/

theorem Members.areWritableMembers_set {key : Key} {value : Value} {members : Members}
    (named : key.isWritable = true) (writable : value.isWritable = true)
    (missing : (members.getD key).isNull = true) :
    Value.areWritableMembers (members.set key value) = Value.areWritableMembers members := by
  induction members with
  | nil => simp [set, Value.areWritableMembers, named, writable]
  | cons member members ih =>
      obtain ⟨name, old⟩ := member
      by_cases same : name.same key = true
      · -- null is replaced, which can be written as well
        have isNull : old.isNull = true := by simpa [getD, get?, same] using missing
        have isOld : old = .null := by cases old <;> first | rfl | cases isNull
        simp [set, same, Value.areWritableMembers, writable, isOld, Value.isWritable]
      · have others : (getD members key).isNull = true := by
          simpa [getD, get?, same] using missing
        simp [set, same, Value.areWritableMembers, ih others]

namespace Client

/-- A document is completed: where the id is missing or null, it is replaced by a generated
one. -/
structure Completes (document completed : Members) : Prop where
  given : (idOf document).isNull = false → completed = document
  generated : (idOf document).isNull = true →
    ∃ now random, completed = document.set idField (.text (ObjectId.generate now random))
  identified : (idOf completed).isNull = false
  agrees : ∀ key : String, key ≠ idField → completed.get? key = document.get? key

namespace Completes

theorem of_given {document : Members} (given : (idOf document).isNull = false) :
    Completes document document where
  given _ := rfl
  generated missing := by simp [given] at missing
  identified := given
  agrees _ _ := rfl

theorem of_missing {document : Members} (missing : (idOf document).isNull = true) (now : Int)
    (random : List UInt8) :
    Completes document (document.set idField (.text (ObjectId.generate now random))) where
  given given := by simp [missing] at given
  generated _ := ⟨now, random, rfl⟩
  identified := by simp [idOf, Members.getD, Members.get?_set, Value.isNull]
  agrees key other := by rw [Members.get?_set, if_neg other]

variable {document completed : Members} (completes : Completes document completed)

include completes

theorem isJson (isJson : IsJson (.object document)) : IsJson (.object completed) := by
  cases missing : (idOf document).isNull with
  | false => rwa [completes.given missing]
  | true =>
      obtain ⟨now, random, rfl⟩ := completes.generated missing
      exact isJson.set idField (.text _)

/-- A generated id has no integer with too many digits. -/
theorem isWritable_eq :
    (Value.object completed).isWritable = (Value.object document).isWritable := by
  cases missing : (idOf document).isNull with
  | false => rw [completes.given missing]
  | true =>
      obtain ⟨now, random, rfl⟩ := completes.generated missing
      exact Members.areWritableMembers_set rfl rfl missing

end Completes

/-- A document is completed, and accepted by the schema of its collection. -/
def PreparedAs (schemas : SchemaCatalog) (collection : String) (document completed : Members) :
    Prop :=
  Completes document completed ∧ schemas.validate collection (.object completed) = .ok ()

/-- The schema of the collection accepts no completion of a document. -/
def Refuses (schemas : SchemaCatalog) (collection : String) (document : Members) : Prop :=
  ∀ completed, Completes document completed →
    ∃ failure, schemas.validate collection (.object completed) = .error failure

section

variable {ρ α β : Type} (deployment : Deployment ρ)

/-- How documents are prepared in turn: all of them, or those before one that the schema does
not accept, or not all of them because the clock shows no time for an id. -/
inductive Preparation (collection : String) :
    List Members → Except Failure (List Members) → Prop where
  | finished {documents inserted : List Members}
      (prepared : List.Forall₂ (PreparedAs deployment.schemas collection) documents inserted) :
      Preparation collection documents (.ok inserted)
  | rejected {before inserted rest : List Members} {document completed : Members}
      {failure : Failure}
      (prepared : List.Forall₂ (PreparedAs deployment.schemas collection) before inserted)
      (completes : Completes document completed)
      (rejects : deployment.schemas.validate collection (.object completed) = .error failure) :
      Preparation collection (before ++ document :: rest) (.error failure)
  | untimed {documents : List Members} {document : Members} {failure : Failure} {inner : ρ}
      (member : document ∈ documents) (missing : (idOf document).isNull = true)
      (fails : (deployment.answers (.ambient .seconds) inner).1 = .error failure) :
      Preparation collection documents (.error failure)

/-- How the table of a collection is looked up, and created if it is missing. -/
inductive Ensures (engine : EngineSettings) (collection : String) :
    List Executed → Except Failure Unit → Prop where
  | present {reply : Except Failure Execution}
      (found : presence engine collection reply = .ok true) :
      Ensures engine collection [.of (lookup engine collection) none reply] (.ok ())
  | unknown {reply : Except Failure Execution} {failure : Failure}
      (fails : presence engine collection reply = .error failure) :
      Ensures engine collection [.of (lookup engine collection) none reply] (.error failure)
  | created {reply : Except Failure Execution} {execution : Execution}
      (missing : presence engine collection reply = .ok false) :
      Ensures engine collection
        [ .of (lookup engine collection) none reply,
          .of (creation engine collection) none (.ok execution) ] (.ok ())
  | uncreated {reply : Except Failure Execution} {failure : Failure}
      (missing : presence engine collection reply = .ok false) :
      Ensures engine collection
        [ .of (lookup engine collection) none reply,
          .of (creation engine collection) none (.error failure) ]
        (.error (engine.wrap "query" (some (creation engine collection).sql) failure))

/-- How documents are inserted, with the statements that are executed.  Nothing is executed
unless all documents are prepared.  Then the table is ensured, and one statement inserts all
of them, unless an integer in one of them has too many digits; what the statement comes to
decides about the result. -/
inductive InsertionCourse (dialect : Dialect) (collection : String) (lease : Option Lease)
    (documents : List Members)
    (results : List Members → Execution → Except Failure α → Prop) :
    List Executed → Except Failure α → Prop where
  | refused {failure : Failure}
      (prepares : Preparation deployment collection documents (.error failure)) :
      InsertionCourse dialect collection lease documents results [] (.error failure)
  | unready {inserted : List Members} {checks : List Executed} {failure : Failure}
      (prepares : Preparation deployment collection documents (.ok inserted))
      (ensures : Ensures deployment.engine collection checks (.error failure)) :
      InsertionCourse dialect collection lease documents results checks (.error failure)
  | unwritable {inserted : List Members} {checks : List Executed}
      (prepares : Preparation deployment collection documents (.ok inserted))
      (ensures : Ensures deployment.engine collection checks (.ok ()))
      (long : ∃ document ∈ documents, (Value.object document).isWritable = false) :
      InsertionCourse dialect collection lease documents results checks
        (.error (.fault .malformedValue))
  | rejected {inserted : List Members} {checks : List Executed} {statement : Statement}
      {failure : Failure}
      (prepares : Preparation deployment collection documents (.ok inserted))
      (ensures : Ensures deployment.engine collection checks (.ok ()))
      (inserts : statement.Inserts dialect collection inserted) :
      InsertionCourse dialect collection lease documents results
        (checks ++ [.of statement lease (.error failure)])
        (.error (deployment.engine.wrap "query" (some statement.sql) failure))
  | inserted {inserted : List Members} {checks : List Executed} {statement : Statement}
      {execution : Execution} {outcome : Except Failure α}
      (prepares : Preparation deployment collection documents (.ok inserted))
      (ensures : Ensures deployment.engine collection checks (.ok ()))
      (inserts : statement.Inserts dialect collection inserted)
      (comes : results inserted execution outcome) :
      InsertionCourse dialect collection lease documents results
        (checks ++ [.of statement lease (.ok execution)]) outcome

end

variable {ρ α β : Type} {deployment : Deployment ρ} {settings : ClientSettings}
  {collection : String} {session : Option SessionId}

/-! ## Preparing documents -/

/-- One more document was prepared before the others. -/
theorem Preparation.cons {document completed : Members} {documents : List Members}
    {outcome : Except Failure (List Members)}
    (prepares : PreparedAs deployment.schemas collection document completed)
    (others : Preparation deployment collection documents outcome) :
    Preparation deployment collection (document :: documents)
      (outcome.map fun inserted => completed :: inserted) := by
  cases others with
  | finished prepared => exact .finished (.cons prepares prepared)
  | rejected prepared completes rejects =>
      exact .rejected (.cons prepares prepared) completes rejects
  | untimed member missing fails => exact .untimed (List.mem_cons_of_mem _ member) missing fails

theorem Preparation.prepared {documents inserted : List Members}
    (prepares : Preparation deployment collection documents (.ok inserted)) :
    List.Forall₂ (PreparedAs deployment.schemas collection) documents inserted := by
  cases prepares with
  | finished prepared => exact prepared

/-- Generating an id executes nothing, and fails only if the clock shows no time. -/
theorem executes_generateId (deployment : Deployment ρ) (state : AdapterState ρ) :
    (∃ now random reached,
      deployment.Executes generateId state (.ok (ObjectId.generate now random)) [] reached) ∨
    ∃ failure reached inner,
      deployment.Executes generateId state (.error failure) [] reached ∧
      (deployment.answers (.ambient .seconds) inner).1 = .error failure := by
  obtain ⟨middle, timed⟩ := deployment.executes_seconds state
  unfold generateId
  cases shown : (deployment.answers (.ambient .seconds) state.1).1 with
  | error failure =>
      rw [shown] at timed
      exact .inr ⟨failure, middle, state.1, timed.bind_error, shown⟩
  | ok now =>
      rw [shown] at timed
      obtain ⟨random, reached, drawn⟩ :=
        deployment.executes_randomBytes middle ObjectId.randomLength
      refine .inl ⟨now, random, reached, timed.bind ?_⟩
      exact drawn.map (ObjectId.generate now)

theorem executes_withId (deployment : Deployment ρ) (document : Members)
    (state : AdapterState ρ) :
    (∃ completed reached,
      deployment.Executes (withId document) state (.ok completed) [] reached ∧
      Completes document completed) ∨
    ∃ failure reached inner,
      deployment.Executes (withId document) state (.error failure) [] reached ∧
      (idOf document).isNull = true ∧
      (deployment.answers (.ambient .seconds) inner).1 = .error failure := by
  unfold withId
  by_cases missing : (idOf document).isNull = true
  · rw [if_pos (by exact missing)]
    rcases executes_generateId deployment state with
      ⟨now, random, reached, generated⟩ | ⟨failure, reached, inner, fails, shown⟩
    · exact .inl ⟨_, reached, generated.map fun id => document.set idField (.text id),
        .of_missing missing now random⟩
    · exact .inr ⟨failure, reached, inner, fails.bind_error, missing, shown⟩
  · rw [if_neg (by exact missing)]
    exact .inl ⟨document, state, deployment.executes_pure state document,
      .of_given (Bool.eq_false_iff.mpr missing)⟩

/-- Preparing a document executes nothing: it is completed and accepted, or rejected, or there
is no time for an id. -/
theorem executes_prepare (deployment : Deployment ρ) (collection : String) (document : Members)
    (state : AdapterState ρ) :
    ∃ outcome reached,
      deployment.Executes (prepare collection (.object document)) state outcome [] reached ∧
      ((∃ completed, outcome = .ok completed ∧
        PreparedAs deployment.schemas collection document completed) ∨
      (∃ failure, outcome = .error failure ∧ ∀ documents,
        Preparation deployment collection (document :: documents) (.error failure))) := by
  unfold prepare
  have read := deployment.executes_ofFault state (Value.object document).toMembers
  rcases executes_withId deployment document state with
    ⟨completed, middle, identified, completes⟩ | ⟨failure, reached, inner, fails, missing, shown⟩
  · have validated := deployment.executes_validate middle collection completed
    cases accepts : deployment.schemas.validate collection (.object completed) with
    | ok _ =>
        rw [accepts] at validated
        exact ⟨_, _, read.bind (identified.bind (validated.map fun _ => completed)),
          .inl ⟨completed, rfl, completes, accepts⟩⟩
    | error failure =>
        rw [accepts] at validated
        exact ⟨_, _, read.bind (identified.bind validated.bind_error),
          .inr ⟨failure, rfl, fun _ => .rejected .nil completes accepts⟩⟩
  · exact ⟨_, _, read.bind fails.bind_error,
      .inr ⟨failure, rfl, fun _ => .untimed List.mem_cons_self missing shown⟩⟩

theorem executes_prepareAll (deployment : Deployment ρ) (collection : String)
    (documents : List Members) (state : AdapterState ρ) :
    ∃ outcome reached,
      deployment.Executes (prepareAll collection (documents.map .object)) state outcome []
        reached ∧
      Preparation deployment collection documents outcome := by
  induction documents generalizing state with
  | nil => exact ⟨.ok [], state, deployment.executes_pure state [], .finished .nil⟩
  | cons document documents ih =>
      rw [List.map_cons, prepareAll]
      obtain ⟨_, middle, prepared, ⟨completed, rfl, prepares⟩ | ⟨failure, rfl, fails⟩⟩ :=
        executes_prepare deployment collection document state
      · obtain ⟨outcome, reached, others, preparation⟩ := ih middle
        exact ⟨_, reached, prepared.bind (others.map fun inserted => completed :: inserted),
          preparation.cons prepares⟩
      · exact ⟨_, middle, prepared.bind_error, fails documents⟩

/-! ## Inserting documents -/

/-- What comes after an insertion decides about its result. -/
theorem InsertionCourse.andThen {dialect : Dialect} {lease : Option Lease}
    {documents : List Members} {executed : List Executed} {outcome : Except Failure α}
    {results : List Members → Execution → Except Failure α → Prop}
    {finished : List Members → Execution → Except Failure β → Prop}
    {finish : α → Except Failure β}
    (course : InsertionCourse deployment dialect collection lease documents results executed
      outcome)
    (finishes : ∀ {inserted execution outcome}, results inserted execution outcome →
      finished inserted execution (outcome >>= finish)) :
    InsertionCourse deployment dialect collection lease documents finished executed
      (outcome >>= finish) := by
  cases course with
  | refused prepares => exact .refused prepares
  | unready prepares ensures => exact .unready prepares ensures
  | unwritable prepares ensures long => exact .unwritable prepares ensures long
  | rejected prepares ensures inserts => exact .rejected prepares ensures inserts
  | inserted prepares ensures inserts comes =>
      exact .inserted prepares ensures inserts (finishes comes)

theorem executes_ensureCollection (deployment : Deployment ρ) (collection : String)
    (state : AdapterState ρ) :
    ∃ outcome checks reached,
      deployment.Executes (ensureCollection collection) state outcome checks reached ∧
      Ensures deployment.engine collection checks outcome := by
  unfold ensureCollection
  obtain ⟨reply, middle, looked⟩ := deployment.executes_tableExists state collection
  cases isPresent : presence deployment.engine collection reply with
  | error failure =>
      rw [isPresent] at looked
      exact ⟨_, _, middle, looked.bind_error, .unknown isPresent⟩
  | ok present =>
      rw [isPresent] at looked
      cases present with
      | true =>
          exact ⟨_, _, middle, looked.bind (deployment.executes_pure middle ()),
            .present isPresent⟩
      | false =>
          have reported := deployment.executes_report middle .debug
            ("Creating missing collection '" ++ collection ++ "'")
          obtain ⟨reply, reached, created⟩ := deployment.executes_createTable middle collection
          cases reply with
          | error failure =>
              exact ⟨_, _, reached, looked.bind (reported.bind created), .uncreated isPresent⟩
          | ok execution =>
              exact ⟨_, _, reached, looked.bind (reported.bind created), .created isPresent⟩

open Engine

section

variable {documents inserted : List Members}
  (prepares : Preparation deployment collection documents (.ok inserted))

include prepares

theorem Preparation.exists_source {document : Members} (member : document ∈ inserted) :
    ∃ source ∈ documents, Completes source document := by
  obtain ⟨source, isSource, completes, _⟩ := exists_of_forall₂ prepares.prepared document member
  exact ⟨source, isSource, completes⟩

theorem Preparation.exists_completed {document : Members} (member : document ∈ documents) :
    ∃ completed, PreparedAs deployment.schemas collection document completed := by
  obtain ⟨completed, _, prepared⟩ := exists_of_forall₂ prepares.prepared.flip document member
  exact ⟨completed, prepared⟩

theorem Preparation.isJson (json : ∀ document ∈ documents, IsJson (.object document)) :
    ∀ document ∈ inserted, IsJson (.object document) := by
  intro document member
  obtain ⟨source, isSource, completes⟩ := prepares.exists_source member
  exact completes.isJson (json source isSource)

/-- The row ids of the documents that were to be inserted, as an engine returns them. -/
def Tells (engine : EngineSettings) (expected inserted : List Members) (execution : Execution)
    (outcome : Except Failure (List Value)) : Prop :=
  inserted = expected ∧
    outcome = (insertedIds engine.rowIds execution (.natural inserted.length)).mapError .fault

/-- Prepared documents are inserted by one statement, if each of them can be written. -/
theorem executes_insertPrepared (json : ∀ document ∈ documents, IsJson (.object document))
    (started : Started deployment.sessions session) (settings : ClientSettings)
    (state : AdapterState ρ) :
    ∃ outcome executed reached,
      deployment.Executes (insertPrepared settings collection inserted session) state outcome
        executed reached ∧
      InsertionCourse deployment settings.dialect collection
        (leaseIn deployment.sessions session) documents (Tells deployment.engine inserted) executed
        outcome := by
  unfold insertPrepared
  obtain ⟨ready, checks, middle, ensured, ensures⟩ :=
    executes_ensureCollection deployment collection state
  cases ready with
  | error failure => exact ⟨_, _, middle, ensured.bind_error, .unready prepares ensures⟩
  | ok _ =>
      have requested := deployment.executes_ofLogged middle
        ((Command.insert collection inserted).request settings)
      rcases Document.mapM_encode (prepares.isJson json) with
        ⟨⟨document, member, long⟩, refused⟩ | ⟨texts, encoded, read⟩
      · rw [Command.outcome_request_insert, refused] at requested
        obtain ⟨source, isSource, completes⟩ := prepares.exists_source member
        refine ⟨_, checks ++ [], middle, ensured.bind requested.bind_error, ?_⟩
        rw [List.append_nil]
        exact .unwritable prepares ensures ⟨source, isSource, completes.isWritable_eq ▸ long⟩
      · rw [Command.outcome_request_insert, encoded] at requested
        obtain ⟨reply, reached, executes⟩ := deployment.executes_insert middle started
          { command := .insert collection inserted,
            statement := .insert settings.dialect collection texts } inserted.length
        refine ⟨_, _, reached, ensured.bind (requested.bind executes), ?_⟩
        have inserts : (Statement.insert settings.dialect collection texts).Inserts
            settings.dialect collection inserted := Statement.inserts_insert read
        cases reply with
        | error failure => exact .rejected prepares ensures inserts
        | ok execution => exact .inserted prepares ensures inserts ⟨rfl, rfl⟩

end

/-! ## Results -/

/-- The result of several insertions: the documents, their ids and their row ids have the same
positions. -/
structure ManyResult (engine : EngineSettings) (inserted : List Members) (execution : Execution)
    (outcome : Except Failure InsertManyResult) : Prop where
  returns : ∀ {rowIds}, RowIds execution inserted.length engine.rowIds rowIds →
    outcome = .ok { insertedIds := inserted.map idOf, rowIds, inserted }
  aligned : ∀ {result}, outcome = .ok result →
    result.insertedIds = inserted.map idOf ∧ result.inserted = inserted

/-- The result of the insertion of a document: the document, its id and the first row id. -/
structure ResultOf (engine : EngineSettings) (document : Members) (execution : Execution)
    (outcome : Except Failure InsertOneResult) : Prop where
  returns : ∀ {rowIds}, RowIds execution 1 engine.rowIds rowIds →
    outcome = .ok { insertedId := idOf document, rowId := rowIds.head?, inserted := document }
  aligned : ∀ {result}, outcome = .ok result →
    result.insertedId = idOf document ∧ result.inserted = document

/-- The result of one insertion is that of the only document. -/
def OneResult (engine : EngineSettings) (inserted : List Members) (execution : Execution)
    (outcome : Except Failure InsertOneResult) : Prop :=
  ∃ document, inserted = [document] ∧ ResultOf engine document execution outcome

theorem manyResult_make (scalars : ScalarReader) {engine : EngineSettings}
    {inserted : List Members} {execution : Execution}
    (keyed : ∀ document ∈ inserted, document.TextKeyed) :
    ManyResult engine inserted execution
      ((insertedIds engine.rowIds execution (.natural inserted.length)).mapError .fault >>=
        fun rowIds =>
          (InsertManyResult.make scalars (inserted.map idOf) rowIds inserted).mapError
            .options) where
  returns := by
    intro ids rowIds
    have read : ∀ id ∈ ids, ∀ position,
        Check.integer scalars position (.int id) = .accepted id :=
      fun id _ position => Check.integer_int scalars position id
    rw [rowIds.insertedIds_eq]
    change (InsertManyResult.make scalars (inserted.map idOf) (ids.map .int) inserted).mapError
      _ = _
    rw [InsertManyResult.make_eq scalars keyed, Check.list_of_accepted _ _ read]
    rfl
  aligned := by
    intro result isResult
    obtain ⟨rowIds, _, made⟩ := Except.bind_eq_ok.mp isResult
    rw [Except.mapError_eq_ok, InsertManyResult.make_eq scalars keyed] at made
    cases read : Check.list Check.integer scalars ([] ++ [.key "row_ids"]) (.list rowIds) with
    | accepted ids =>
        rw [read] at made
        cases made
        exact ⟨rfl, rfl⟩
    | rejected issues =>
        rw [read] at made
        cases made

theorem resultOf_make (scalars : ScalarReader) {engine : EngineSettings} {document : Members}
    {execution : Execution} (keyed : document.TextKeyed) :
    ResultOf engine document execution
      ((insertedIds engine.rowIds execution (.natural 1)).mapError .fault >>= fun rowIds =>
        (InsertOneResult.make scalars (idOf document) (rowIds.headD .null) document).mapError
          .options) where
  returns := by
    intro ids rowIds
    rw [rowIds.insertedIds_eq]
    change (InsertOneResult.make scalars (idOf document) ((ids.map .int).headD .null)
      document).mapError _ = _
    rw [InsertOneResult.make_eq scalars keyed]
    cases ids with
    | nil => rfl
    | cons first others =>
        have read : Check.nullable Check.integer scalars ([] ++ [.key "row_id"]) (.int first) =
            .accepted (some first) := by
          simp [Check.nullable, Checked.map]
        change (((Check.nullable Check.integer scalars _ (.int first)).map _).report _).mapError
          _ = _
        rw [read]
        rfl
  aligned := by
    intro result isResult
    obtain ⟨rowIds, _, made⟩ := Except.bind_eq_ok.mp isResult
    rw [Except.mapError_eq_ok, InsertOneResult.make_eq scalars keyed] at made
    cases read : Check.nullable Check.integer scalars ([] ++ [.key "row_id"])
        (rowIds.headD .null) with
    | accepted id =>
        rw [read] at made
        cases made
        exact ⟨rfl, rfl⟩
    | rejected issues =>
        rw [read] at made
        cases made

/-! ## Insertions -/

/-- A document that the schema refuses keeps all documents of its insertion from being
inserted. -/
theorem InsertionCourse.eq_nil_of_refuses {dialect : Dialect} {lease : Option Lease}
    {documents : List Members} {executed : List Executed} {outcome : Except Failure α}
    {results : List Members → Execution → Except Failure α → Prop}
    (course : InsertionCourse deployment dialect collection lease documents results executed
      outcome) {document : Members} (member : document ∈ documents)
    (refuses : Refuses deployment.schemas collection document) : executed = [] := by
  -- every other course has prepared all documents
  have unprepared : ∀ inserted,
      ¬ Preparation deployment collection documents (.ok inserted) := by
    intro inserted prepares
    obtain ⟨completed, completes, accepted⟩ := prepares.exists_completed member
    obtain ⟨failure, rejected⟩ := refuses completed completes
    cases accepted.symm.trans rejected
  cases course with
  | refused _ => rfl
  | unready prepares => exact absurd prepares (unprepared _)
  | unwritable prepares => exact absurd prepares (unprepared _)
  | rejected prepares => exact absurd prepares (unprepared _)
  | inserted prepares => exact absurd prepares (unprepared _)

section

variable (settings) (collection) (state : AdapterState ρ)
  (started : Started deployment.sessions session)

include started

theorem executes_insertMany {documents : List Members} (nonempty : documents ≠ [])
    (json : ∀ document ∈ documents, IsJson (.object document)) :
    ∃ outcome executed reached,
      deployment.Executes (insertMany settings collection (.list (documents.map .object)) session)
        state outcome executed reached ∧
      InsertionCourse deployment settings.dialect collection
        (leaseIn deployment.sessions session) documents (ManyResult deployment.engine) executed
        outcome := by
  have truthy : (Value.list (documents.map .object)).isTruthy = true := by
    simpa [Value.isTruthy] using nonempty
  unfold insertMany
  rw [if_neg (by simp [truthy])]
  have walked := deployment.executes_ofFault state (Value.list (documents.map .object)).walk
  obtain ⟨prepared, middle, prepares, preparation⟩ :=
    executes_prepareAll deployment collection documents state
  cases prepared with
  | error failure =>
      exact ⟨_, _, middle, walked.bind prepares.bind_error, .refused preparation⟩
  | ok inserted =>
      obtain ⟨outcome, executed, reached, executes, course⟩ :=
        executes_insertPrepared preparation json started settings middle
      have keyed : ∀ document ∈ inserted, document.TextKeyed :=
        fun document member => (preparation.isJson json document member).textKeyed
      refine ⟨_, executed, reached, walked.bind (prepares.bind (executes.andThen fun rowIds =>
        deployment.executes_ofReport reached _)), course.andThen ?_⟩
      rintro _ execution _ ⟨rfl, rfl⟩
      exact manyResult_make _ keyed

theorem executes_insertOne {document : Members} (json : IsJson (.object document)) :
    ∃ outcome executed reached,
      deployment.Executes (insertOne settings collection (.object document) session) state outcome
        executed reached ∧
      InsertionCourse deployment settings.dialect collection
        (leaseIn deployment.sessions session) [document] (OneResult deployment.engine) executed
        outcome := by
  have all : ∀ other ∈ [document], IsJson (.object other) := List.forall_mem_singleton.mpr json
  unfold insertOne
  obtain ⟨prepared, middle, prepares, ⟨completed, rfl, accepted⟩ | ⟨failure, rfl, refused⟩⟩ :=
    executes_prepare deployment collection document state
  · have preparation : Preparation deployment collection [document] (.ok [completed]) :=
      .finished (.cons accepted .nil)
    obtain ⟨outcome, executed, reached, executes, course⟩ :=
      executes_insertPrepared preparation all started settings middle
    refine ⟨_, executed, reached, prepares.bind (executes.andThen fun rowIds =>
      deployment.executes_ofReport reached _), course.andThen ?_⟩
    rintro _ execution _ ⟨rfl, rfl⟩
    exact ⟨completed, rfl, resultOf_make _ (accepted.1.isJson json).textKeyed⟩
  · exact ⟨_, _, middle, prepares.bind_error, .refused (refused [])⟩

/-- Insertions execute nothing unless all their documents are accepted, and then insert all of
them by one statement. -/
theorem inserts_all_or_nothing {documents : List Members} (nonempty : documents ≠ [])
    (json : ∀ document ∈ documents, IsJson (.object document)) :
    (∃ outcome executed reached,
      deployment.Executes (insertMany settings collection (.list (documents.map .object)) session)
        state outcome executed reached ∧
      InsertionCourse deployment settings.dialect collection
        (leaseIn deployment.sessions session) documents (ManyResult deployment.engine) executed
        outcome ∧
      ((∃ document ∈ documents, Refuses deployment.schemas collection document) →
        executed = [])) ∧
    ∀ document ∈ documents, ∃ outcome executed reached,
      deployment.Executes (insertOne settings collection (.object document) session) state outcome
        executed reached ∧
      InsertionCourse deployment settings.dialect collection
        (leaseIn deployment.sessions session) [document] (OneResult deployment.engine) executed
        outcome ∧
      (Refuses deployment.schemas collection document → executed = []) := by
  constructor
  · obtain ⟨outcome, executed, reached, executes, course⟩ :=
      executes_insertMany settings collection state started nonempty json
    refine ⟨outcome, executed, reached, executes, course, ?_⟩
    rintro ⟨document, member, refuses⟩
    exact course.eq_nil_of_refuses member refuses
  · intro document member
    obtain ⟨outcome, executed, reached, executes, course⟩ :=
      executes_insertOne settings collection state started (json document member)
    exact ⟨outcome, executed, reached, executes, course,
      course.eq_nil_of_refuses List.mem_cons_self⟩

end

/-- Of two documents, one has an id and the other one is given an id. -/
theorem inserts_all_or_nothing_missingId :
    let row (id : Int) : Value := .object [("present", .int 1), ("id", .int id)]
    let deployment := Deployment.yielding [row 7, row 8]
    let settings : ClientSettings := { dialect := .postgres, strict := false }
    let documents : List Members := [[("id", .text "a")], [("n", .int 1)]]
    (∀ document ∈ documents, IsJson (.object document)) ∧
    ∃ outcome executed reached,
      deployment.Executes (insertMany settings "users" (.list (documents.map .object)) none)
        ((), []) outcome executed reached ∧
      InsertionCourse deployment .postgres "users" none documents
        (ManyResult deployment.engine) executed outcome := by
  intro row deployment settings documents
  have json : ∀ document ∈ documents, IsJson (.object document) := by
    refine List.forall_mem_cons.mpr ⟨?_, List.forall_mem_singleton.mpr ?_⟩
    · exact .object (List.forall_mem_singleton.mpr ⟨"id", rfl⟩) (List.nodup_singleton _)
        (List.forall_mem_singleton.mpr (.text _))
    · exact .object (List.forall_mem_singleton.mpr ⟨"n", rfl⟩) (List.nodup_singleton _)
        (List.forall_mem_singleton.mpr (.int _))
  obtain ⟨⟨outcome, executed, reached, executes, course, _⟩, _⟩ :=
    inserts_all_or_nothing settings "users" ((), []) (started_none deployment.sessions)
      (List.cons_ne_nil _ _) json
  exact ⟨json, outcome, executed, reached, executes, course⟩

/-- A document with an integer of 4301 digits is accepted and its table is there, but it is not
inserted. -/
theorem longInteger_not_inserted :
    let deployment := Deployment.yielding [.object [("present", .int 1)]]
    let settings : ClientSettings := { dialect := .postgres, strict := false }
    let document : Members := [("id", .text "a"), ("n", .int (10 ^ 4300))]
    IsJson (.object document) ∧ PreparedAs deployment.schemas "users" document document ∧
    ∃ checks reached,
      deployment.Executes (insertOne settings "users" (.object document) none) ((), [])
        (.error (.fault .malformedValue)) checks reached ∧
      Ensures deployment.engine "users" checks (.ok ()) := by
  intro deployment settings document
  have json : IsJson (.object document) :=
    .object (List.forall_mem_cons.mpr ⟨⟨"id", rfl⟩, List.forall_mem_singleton.mpr ⟨"n", rfl⟩⟩)
      (by decide : [Key.text "id", .text "n"].Nodup)
      (List.forall_mem_cons.mpr ⟨.text _, List.forall_mem_singleton.mpr (.int _)⟩)
  have unwritable : (Value.object document).isWritable = false := by decide +kernel
  have refused : ([document].map .object).mapM Document.encode = .error .malformedValue := by
    rw [List.map_cons, List.mapM_cons, (Document.decode_encode_of_isJson json).2 unwritable]
    rfl
  have prepared : deployment.Executes (prepare "users" (.object document)) ((), []) (.ok document)
      [] ((), []) := ⟨rfl, rfl⟩
  let checks : List Executed :=
    [.of (lookup deployment.engine "users") none (.ok { rows := [.object [("present", .int 1)]] })]
  obtain ⟨middle, ensured⟩ : ∃ middle, deployment.Executes (ensureCollection "users") ((), [])
      (.ok ()) checks middle := ⟨_, rfl, rfl⟩
  have requested := deployment.executes_ofLogged middle
    ((Command.insert "users" [document]).request settings)
  rw [Command.outcome_request_insert, refused] at requested
  have inserting : deployment.Executes (insertPrepared settings "users" [document] none) ((), [])
      (.error (.fault .malformedValue)) (checks ++ []) middle :=
    ensured.bind requested.bind_error
  exact ⟨json, ⟨.of_given rfl, rfl⟩, checks, middle, prepared.bind inserting.bind_error,
    .present rfl⟩

end Client

end DocStore
