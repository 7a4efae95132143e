import DocStore.Client.Write
import DocStore.Proofs.Executions

/-!
# Writing documents one by one

An update or a deletion selects documents first and then writes those that have an id, each
by one statement, in the order in which they were found.  It stops at the first document for
which the statement cannot be made or is rejected: the statements of the documents before
have been executed then, and those of the documents behind it have not.
-/

namespace DocStore

namespace Client

/-- The request that rewrites a document as an update says, if the schema accepts it so. -/
def revision (settings : ClientSettings) (schemas : SchemaCatalog) (collection : String)
    (change : Value) (document : Members) : Except Failure Request := do
  let revised ← (Update.apply settings.strict (.object document) change).outcome.1
  schemas.validate collection (.object revised)
  ((Command.update collection (idOf document) revised).request settings).outcome.1

/-- The request that removes a document. -/
def removal (settings : ClientSettings) (collection : String) (document : Members) :
    Except Failure Request :=
  ((Command.delete collection (idOf document)).request settings).outcome.1

/-- The documents that statements can name. -/
def named (documents : List Members) : List Members :=
  documents.filter fun document => !(idOf document).isNull

section

variable (engine : EngineSettings) (lease : Option Lease)
  (prepare : Members → Except Failure Request)

/-- The request of a document was executed, with success. -/
def Wrote (document : Members) (executed : Executed) : Prop :=
  ∃ request execution, prepare document = .ok request ∧
    executed = .of request.statement lease (.ok execution)

/-- How documents are written in turn, with the statements that are executed and the number
of documents written: all of them, or those before one whose request cannot be made, or those
before one whose statement is rejected. -/
inductive WriteCourse : List Members → List Executed → Except Failure Nat → Prop where
  | finished {documents : List Members} {executed : List Executed}
      (wrote : List.Forall₂ (Wrote lease prepare) documents executed) :
      WriteCourse documents executed (.ok executed.length)
  | unprepared {written : List Members} {document : Members} {rest : List Members}
      {executed : List Executed} {failure : Failure}
      (wrote : List.Forall₂ (Wrote lease prepare) written executed)
      (fails : prepare document = .error failure) :
      WriteCourse (written ++ document :: rest) executed (.error failure)
  | rejected {written : List Members} {document : Members} {rest : List Members}
      {executed : List Executed} {request : Request} {failure : Failure}
      (wrote : List.Forall₂ (Wrote lease prepare) written executed)
      (prepared : prepare document = .ok request) :
      WriteCourse (written ++ document :: rest)
        (executed ++ [.of request.statement lease (.error failure)])
        (.error (engine.wrap "query" (some request.statement.sql) failure))

end

variable {engine : EngineSettings} {lease : Option Lease}
  {prepare : Members → Except Failure Request}

/-- One more document was written before the others. -/
theorem WriteCourse.cons {document : Members} {first : Executed} {documents : List Members}
    {executed : List Executed} {outcome : Except Failure Nat}
    (wrote : Wrote lease prepare document first)
    (course : WriteCourse engine lease prepare documents executed outcome) :
    WriteCourse engine lease prepare (document :: documents) (first :: executed)
      (outcome.map fun count => count + 1) := by
  cases course with
  | finished others => exact .finished (.cons wrote others)
  | unprepared others fails => exact .unprepared (.cons wrote others) fails
  | rejected others prepared => exact .rejected (.cons wrote others) prepared

section

variable {ρ : Type} {deployment : Deployment ρ} {settings : ClientSettings}
  {collection : String} {session : Option SessionId} {state : AdapterState ρ}

/-- An action fails with its request, or executes it. -/
def Performs (deployment : Deployment ρ) (lease : Option Lease)
    (request : Except Failure Request) (action : ClientAction Unit) (state : AdapterState ρ) :
    Prop :=
  (∃ failure, request = .error failure ∧
    deployment.Executes action state (.error failure) [] state) ∨
  ∃ made reply reached, request = .ok made ∧
    deployment.Executes action state
      ((reported deployment.engine made.statement.sql reply).map fun _ => ())
      [.of made.statement lease reply] reached

/-- Writing documents one by one follows a course of writing those that have an id. -/
theorem executes_writeEach (collection : String) {write : Value → Members → ClientAction Unit}
    (writes : ∀ document state,
      Performs deployment lease (prepare document) (write (idOf document) document) state)
    (documents : List Members)
    (state : AdapterState ρ) :
    ∃ outcome executed reached,
      deployment.Executes (writeEach collection write documents) state outcome executed reached ∧
      WriteCourse deployment.engine lease prepare (named documents) executed outcome := by
  induction documents generalizing state with
  | nil => exact ⟨.ok 0, [], state, deployment.executes_pure state 0, .finished .nil⟩
  | cons document documents ih =>
      rw [writeEach]
      by_cases missing : (idOf document).isNull = true
      · obtain ⟨outcome, executed, reached, executes, course⟩ := ih state
        have others : named (document :: documents) = named documents := by
          simp [named, missing]
        rw [if_pos missing, others]
        exact ⟨outcome, executed, reached,
          (deployment.executes_report state _ _).bind executes, course⟩
      · have others : named (document :: documents) = document :: named documents := by
          simp [named, missing]
        rw [if_neg missing, others]
        rcases writes document state with
          ⟨failure, fails, refused⟩ | ⟨request, reply, middle, prepared, written⟩
        · exact ⟨.error failure, [], state, refused.bind_error, .unprepared .nil fails⟩
        · cases reply with
          | error failure => exact ⟨_, _, middle, written.bind_error, .rejected .nil prepared⟩
          | ok execution =>
              -- the other documents are written from where this statement has led
              obtain ⟨outcome, executed, reached, executes, course⟩ := ih middle
              refine ⟨outcome.map fun count => count + 1, _, reached, written.bind ?_,
                .cons ⟨request, execution, prepared, rfl⟩ course⟩
              exact executes.map fun count => count + 1

open Engine

/-- A table that is there was looked up with success. -/
theorem exists_of_tableExists {α : Type} {next : ClientAction α} {documents : α}
    {otherwise : α} {executed : List Executed} {reached : AdapterState ρ}
    (other : documents ≠ otherwise)
    (whole : deployment.Executes (do
      if ← ClientAction.tableExists collection then next else pure otherwise) state
      (.ok documents) executed reached) :
    ∃ execution middle rest,
      executed = .of (lookup deployment.engine collection) none (.ok execution) :: rest ∧
      deployment.Executes next middle (.ok documents) rest reached := by
  obtain ⟨reply, middle, looked⟩ := deployment.executes_tableExists state collection
  cases isPresent : presence deployment.engine collection reply with
  | error failure =>
      rw [isPresent] at looked
      cases looked.after_error whole
  | ok present =>
      obtain ⟨execution, rfl, _⟩ := presence_eq_ok.mp isPresent
      rw [isPresent] at looked
      obtain ⟨rest, isSplit, continued⟩ := looked.after_ok whole
      cases present with
      | false =>
          have ran := continued.ran
          cases ran
          exact absurd rfl other
      | true => exact ⟨execution, middle, rest, isSplit, continued⟩

variable (started : Started deployment.sessions session)

include started

/-- A command is requested and executed; its rows are dropped. -/
theorem performs_request (state : AdapterState ρ) (command : Command) :
    Performs deployment (leaseIn deployment.sessions session)
      (command.request settings).outcome.1
      (do
        let request ← ClientAction.request settings command
        let _ ← ClientAction.rowsOf request session
        pure ()) state := by
  have requested := deployment.executes_ofLogged state (command.request settings)
  cases isRequest : (command.request settings).outcome.1 with
  | error failure =>
      rw [isRequest] at requested
      exact .inl ⟨failure, rfl, requested.bind_error⟩
  | ok request =>
      rw [isRequest] at requested
      obtain ⟨reply, reached, executes⟩ := deployment.executes_rowsOf state started request
      refine .inr ⟨request, reply, reached, rfl, requested.bind ?_⟩
      cases reply with
      | error failure => exact executes.bind_error
      | ok execution => exact executes.map fun _ => ()

/-- A rewriting updates the document, has it accepted, and executes its request. -/
theorem performs_revise (state : AdapterState ρ) (change : Value) (document : Members) :
    Performs deployment (leaseIn deployment.sessions session)
      (revision settings deployment.schemas collection change document)
      (revise settings collection change session (idOf document) document) state := by
  have applied := deployment.executes_ofLogged state
    (Update.apply settings.strict (.object document) change)
  unfold revision revise updated
  cases isRevised : (Update.apply settings.strict (.object document) change).outcome.1 with
  | error failure =>
      rw [isRevised] at applied
      exact .inl ⟨failure, rfl, applied.bind_error⟩
  | ok revised =>
      rw [isRevised] at applied
      have validated := deployment.executes_validate state collection revised
      change Performs deployment _ (deployment.schemas.validate collection (.object revised) >>=
        fun _ => ((Command.update collection (idOf document) revised).request settings).outcome.1)
        _ state
      cases accepted : deployment.schemas.validate collection (.object revised) with
      | error failure =>
          rw [accepted] at validated
          exact .inl ⟨failure, rfl, applied.bind validated.bind_error⟩
      | ok _ =>
          rw [accepted] at validated
          rcases performs_request started state
            (.update collection (idOf document) revised) with
            ⟨failure, fails, refused⟩ | ⟨request, reply, reached, made, executes⟩
          · exact .inl ⟨failure, fails, applied.bind (validated.bind refused)⟩
          · exact .inr ⟨request, reply, reached, made, applied.bind (validated.bind executes)⟩

/-- The statements of a search that finds documents: the table is looked up twice, and the
rows of the selection are read as the documents, one each. -/
def Searched (deployment : Deployment ρ) (settings : ClientSettings) (collection : String)
    (filter : Value) (limit : Option Nat) (session : Option SessionId)
    (documents : List Members) (executed : List Executed) : Prop :=
  ∃ first second selection execution,
    executed =
      [ .of (lookup deployment.engine collection) none (.ok first),
        .of (lookup deployment.engine collection) none (.ok second),
        .of selection.statement (leaseIn deployment.sessions session) (.ok execution) ] ∧
    ((Command.select collection filter { limit }).request settings).outcome.1 =
      .ok selection ∧
    List.Forall₂ (fun row document => readRow none row = .ok document) execution.rows documents

theorem searched_of_matching {filter : Value} {limit : Option Nat} {documents : List Members}
    {executed : List Executed} {reached : AdapterState ρ} (nonempty : documents ≠ [])
    (finds : deployment.Executes (matching settings collection filter limit session) state
      (.ok documents) executed reached) :
    Searched deployment settings collection filter limit session documents executed := by
  obtain ⟨first, afterFirst, rest, rfl, searching⟩ := exists_of_tableExists nonempty finds
  obtain ⟨second, afterSecond, rest, rfl, selecting⟩ := exists_of_tableExists nonempty searching
  have requested := deployment.executes_ofLogged afterSecond
    ((Command.select collection filter { limit }).request settings)
  cases isRequest : ((Command.select collection filter { limit }).request settings).outcome.1 with
  | error failure =>
      rw [isRequest] at requested
      cases requested.after_error selecting
  | ok selection =>
      rw [isRequest] at requested
      obtain ⟨rest, rfl, running⟩ := requested.after_ok selecting
      obtain ⟨reply, selected, executes⟩ :=
        deployment.executes_rowsOf afterSecond started selection
      cases reply with
      | error failure => cases executes.after_error running
      | ok execution =>
          obtain ⟨rest, rfl, reading⟩ := executes.after_ok running
          have read := deployment.executes_ofFault selected
            (execution.rows.mapM (readRow none))
          obtain ⟨isRead, rfl⟩ := read.unique reading
          exact ⟨first, second, selection, execution, rfl, isRequest,
            Except.mapM_eq_ok.mp (Except.mapError_eq_ok.mp isRead)⟩

/-- An update of documents that were found, and their deletion, write in order those that have
an id. -/
theorem writes_found_in_order {filter change : Value} {options : UpdateOptions}
    {limit : Option Nat} {documents : List Members} {searched : List Executed}
    {found : AdapterState ρ} (nonempty : documents ≠ [])
    (finds : deployment.Executes (matching settings collection filter limit session) state
      (.ok documents) searched found) :
    Searched deployment settings collection filter limit session documents searched ∧
    (∃ outcome executed reached,
      deployment.Executes (update settings collection filter change options limit session) state
        (outcome.map fun modified =>
          { matchedCount := documents.length, modifiedCount := Int.ofNat modified })
        (searched ++ executed) reached ∧
      WriteCourse deployment.engine (leaseIn deployment.sessions session)
        (revision settings deployment.schemas collection change) (named documents) executed
        outcome) ∧
    ∃ outcome executed reached,
      deployment.Executes (delete settings collection filter limit session) state
        (outcome.map fun deleted => { deletedCount := Int.ofNat deleted })
        (searched ++ executed) reached ∧
      WriteCourse deployment.engine (leaseIn deployment.sessions session)
        (removal settings collection) (named documents) executed outcome := by
  refine ⟨searched_of_matching started nonempty finds, ?_, ?_⟩
  · have performs : ∀ document state, Performs deployment _
        (revision settings deployment.schemas collection change document)
        (revise settings collection change session (idOf document) document) state :=
      fun document state => performs_revise started state change document
    obtain ⟨outcome, executed, reached, executes, course⟩ :=
      executes_writeEach collection performs documents found
    refine ⟨outcome, executed, reached, finds.bind ?_, course⟩
    cases documents with
    | nil => exact absurd rfl nonempty
    | cons document documents => exact executes.map _
  · have performs : ∀ document state, Performs deployment _
        (removal settings collection document)
        (remove settings collection session (idOf document) document) state :=
      fun document state => performs_request started state (.delete collection (idOf document))
    obtain ⟨outcome, executed, reached, executes, course⟩ :=
      executes_writeEach collection performs documents found
    exact ⟨outcome, executed, reached, finds.bind (executes.map _), course⟩

end

/-- Of three documents, the one without an id is passed over. -/
theorem writes_found_in_order_missingId :
    let row (id : Value) : Value :=
      .object [("present", .int 1), ("data", .object [("id", id), ("n", .int 4)])]
    let deployment := Deployment.yielding [row (.int 1), row .null, row (.int 3)]
    let settings : ClientSettings := { dialect := .postgres, strict := false }
    let change : Value := .object [("$inc", .object [("n", .int 1)])]
    ∃ outcome searched executed reached,
      deployment.Executes (updateMany settings "users" (.object []) change {} none) ((), [])
        (outcome.map fun modified => { matchedCount := 3, modifiedCount := Int.ofNat modified })
        (searched ++ executed) reached ∧
      WriteCourse deployment.engine none (revision settings [] "users" change)
        [[("id", .int 1), ("n", .int 4)], [("id", .int 3), ("n", .int 4)]] executed outcome := by
  intro row deployment settings change
  let documents : List Members :=
    [[("id", .int 1), ("n", .int 4)], [("id", .null), ("n", .int 4)],
      [("id", .int 3), ("n", .int 4)]]
  have finds : deployment.Executes (matching settings "users" (.object []) none none) ((), [])
      (.ok documents) _ _ := ⟨rfl, rfl⟩
  obtain ⟨_, ⟨outcome, executed, reached, executes, course⟩, _⟩ :=
    @writes_found_in_order _ deployment settings "users" none _
      (Engine.started_none deployment.sessions) (.object []) change {} none documents _ _
      (List.cons_ne_nil _ _) finds
  exact ⟨outcome, _, executed, reached, executes, course⟩

end Client

end DocStore
