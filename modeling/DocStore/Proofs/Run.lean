import DocStore.Client.Interface
import DocStore.Proofs.Outcome
import DocStore.Proofs.Surroundings

/-!
# Runs on an engine

An engine is a function that answers the calls of the client and keeps a state.
Run on it, an action of the client has one outcome; the log entries are passed
over.  The lemmas compute the outcome step by step.
-/

namespace DocStore

namespace ClientAction

variable {σ α β : Type}

/-- The answers of an engine with a state. -/
abbrev Answers (σ : Type) := (call : StoreCall) → StateM σ call.Reply

section

variable (answers : Answers σ)

/-- The outcome of an action, the schemas after it and the state of the engine
after it. -/
def run (action : ClientAction α) (schemas : SchemaCatalog) (state : σ) :
    (Except Failure α × SchemaCatalog) × σ :=
  (Program.answer (fun _ => pure ()) answers (action schemas)).run state

variable (schemas : SchemaCatalog) (state : σ)

@[simp] theorem run_pure (result : α) :
    run answers (pure result) schemas state = ((.ok result, schemas), state) := rfl

@[simp] theorem run_throw (failure : Failure) :
    run answers (throw failure : ClientAction α) schemas state =
      ((.error failure, schemas), state) := rfl

/-- A step that fails ends the run. -/
theorem run_bind (action : ClientAction α) (next : α → ClientAction β) :
    run answers (action >>= next) schemas state =
      match run answers action schemas state with
      | ((.ok value, after), reached) => run answers (next value) after reached
      | ((.error failure, after), reached) => ((.error failure, after), reached) := by
  have same : Action.run answers action schemas state = run answers action schemas state := rfl
  change Action.run answers (action >>= next) schemas state = _
  rw [Action.run_bind, same]
  rcases run answers action schemas state with ⟨⟨outcome, after⟩, reached⟩
  cases outcome <;> rfl

/-- Two steps come to a result if the first one does and the second one goes on from
there. -/
theorem run_bind_eq_ok {action : ClientAction α} {next : α → ClientAction β}
    {schemas after : SchemaCatalog} {state reached : σ} {result : β} :
    run answers (action >>= next) schemas state = ((.ok result, after), reached) ↔
      ∃ value between middle,
        run answers action schemas state = ((.ok value, between), middle) ∧
          run answers (next value) between middle = ((.ok result, after), reached) := by
  rw [run_bind]
  rcases run answers action schemas state with ⟨⟨outcome, between⟩, middle⟩
  cases outcome with
  | error failure => simp
  | ok value =>
      constructor
      · intro ran
        exact ⟨value, between, middle, rfl, ran⟩
      · rintro ⟨_, _, _, first, second⟩
        cases first
        exact second

theorem run_perform (call : StoreCall) (read : call.Reply → Except Failure α) :
    run answers (Action.perform call read) schemas state =
      ((read (answers call state).1, schemas), (answers call state).2) := rfl

@[simp] theorem run_ofOutcome (outcome : Except Failure α) :
    run answers (Action.ofOutcome outcome) schemas state = ((outcome, schemas), state) := rfl

@[simp] theorem run_ofFault (outcome : Except Fault α) :
    run answers (Action.ofFault outcome) schemas state =
      ((outcome.mapError .fault, schemas), state) := by
  cases outcome <;> rfl

@[simp] theorem run_ofReport (outcome : Except IssueReport α) :
    run answers (Action.ofReport outcome) schemas state =
      ((outcome.mapError .options, schemas), state) := by
  cases outcome <;> rfl

theorem run_notes (entries : List LogEntry) (outcome : Except Failure α) :
    run answers (Action.notes entries outcome) schemas state = ((outcome, schemas), state) := by
  induction entries with
  | nil => rfl
  | cons entry entries ih => exact ih

@[simp] theorem run_ofLogged (computation : Logged α) :
    run answers (Action.ofLogged computation) schemas state =
      ((computation.outcome.1, schemas), state) :=
  run_notes answers schemas state _ _

@[simp] theorem run_report (level : LogLevel) (text : String) :
    run answers (report level text) schemas state = ((.ok (), schemas), state) := rfl

@[simp] theorem run_validate (collection : String) (document : Members) :
    run answers (validate collection document) schemas state =
      ((schemas.validate collection (.object document), schemas), state) := rfl

end

end ClientAction

end DocStore
