import Mathlib
import DocStore.Client.Service
import DocStore.Proofs.Run
import DocStore.Proofs.SessionRun

/-!
# The statements that reach an engine

The client runs on an engine, and the engine on an adapter that may answer as it likes.
Whatever the client asks for, each of its statements is one call of the adapter: the calls
in between ask for the time or for randomness.  What is recorded of a statement is its text,
its parameters, the connection and what it came to.
-/

namespace DocStore

/-- A statement that the adapter was asked to execute, and its reply. -/
structure Executed where
  sql : String
  parameters : List Value
  lease : Option Lease
  reply : Except Failure Execution

namespace Executed

/-- The execution of a statement. -/
def of (statement : Statement) (lease : Option Lease) (reply : Except Failure Execution) :
    Executed :=
  { sql := statement.sql, parameters := statement.params, lease, reply }

def ofExchange? : Exchange engineInterface → Option Executed
  | { call := .adapter (.execute sql parameters lease), reply } =>
      some { sql, parameters, lease, reply }
  | _ => none

end Executed

/-- The statements among the exchanges with an adapter, in their order. -/
def executions (exchanges : List (Exchange engineInterface)) : List Executed :=
  exchanges.filterMap Executed.ofExchange?

theorem executions_append (first second : List (Exchange engineInterface)) :
    executions (first ++ second) = executions first ++ executions second :=
  List.filterMap_append

/-- Records of exchanges only grow. -/
theorem exists_exchanges_course {below : Interface} {ρ α : Type}
    (answers : (call : below.Call) → StateM ρ (below.Reply call)) (program : Program below α)
    (state : ρ × List (Exchange below)) :
    ∃ added, (program.course (recorded answers) state).2.2 = state.2 ++ added := by
  induction program generalizing state with
  | done result => exact ⟨[], (List.append_nil _).symm⟩
  | note entry rest ih => exact ih state
  | ask call rest ih =>
      obtain ⟨inner, exchanges⟩ := state
      obtain ⟨added, grown⟩ := ih (answers call inner).1
        ((answers call inner).2, exchanges ++ [{ call, reply := (answers call inner).1 }])
      exact ⟨[{ call, reply := (answers call inner).1 }] ++ added,
        grown.trans (List.append_assoc ..)⟩

/-- The client on an engine on an adapter. -/
def onAdapter {ρ : Type} (answers : EngineAnswers ρ) (engine : EngineSettings) :
    ClientAction.Answers (List Session × ρ) :=
  fun call (sessions, state) =>
    let ended := (Engine.serve engine call sessions).course answers state
    (ended.1.1, ended.1.2, ended.2)

theorem exists_exchanges_onAdapter {ρ α : Type} (answers : EngineAnswers ρ)
    (engine : EngineSettings) (program : Program storeInterface α) (sessions : List Session)
    (state : ρ × List (Exchange engineInterface)) :
    ∃ added, (program.course (onAdapter (recorded answers) engine) (sessions, state)).2.2.2 =
      state.2 ++ added := by
  induction program generalizing sessions state with
  | done result => exact ⟨[], (List.append_nil _).symm⟩
  | note entry rest ih => exact ih sessions state
  | ask call rest ih =>
      obtain ⟨first, served⟩ :=
        exists_exchanges_course answers (Engine.serve engine call sessions) state
      obtain ⟨second, continued⟩ := ih
        (onAdapter (recorded answers) engine call (sessions, state)).1
        (onAdapter (recorded answers) engine call (sessions, state)).2.1
        (onAdapter (recorded answers) engine call (sessions, state)).2.2
      have grown : (onAdapter (recorded answers) engine call (sessions, state)).2.2.2 =
          state.2 ++ first := served
      refine ⟨first ++ second, ?_⟩
      rw [← List.append_assoc, ← grown]
      exact continued

namespace Engine

/-- The session, if there is one, was started. -/
def Started (sessions : List Session) (session : Option SessionId) : Prop :=
  ∀ id, session = some id → id < sessions.length

/-- The connection of a session. -/
def leaseIn (sessions : List Session) (session : Option SessionId) : Option Lease :=
  session.bind fun id => sessions[id]?.map fun found => found.lease

theorem started_none (sessions : List Session) : Started sessions none := nofun

end Engine

section

open Engine

/-! ## Statements of an engine -/

variable {ρ : Type} {answers : EngineAnswers ρ} {sessions : List Session}
  {session : Option SessionId} {state : ρ × List (Exchange engineInterface)}

theorem run_leaseOf_started {σ : Type} {answers : EngineAnswers σ} {state : σ}
    (started : Started sessions session) :
    Action.run answers (leaseOf session) sessions state =
      ((.ok (leaseIn sessions session), sessions), state) := by
  cases session with
  | none => rfl
  | some id =>
      obtain ⟨found, isFound⟩ : ∃ found, sessions[id]? = some found :=
        ⟨_, List.getElem?_eq_getElem (started id rfl)⟩
      unfold leaseOf
      rw [Action.run_bind, EngineAction.run_sessionAt isFound]
      simp [leaseIn, isFound]

variable (answers state) (engine : EngineSettings)

/-- A statement of an engine is executed once, and its failure is wrapped. -/
theorem run_execute (started : Started sessions session) (sql : String)
    (parameters : List Value) :
    ∃ reply reached,
      Action.run (recorded answers) (execute engine sql parameters session) sessions state =
        ((reply.mapError (engine.wrap "query" (some sql)), sessions), reached) ∧
      executions reached.2 = executions state.2 ++
        [{ sql, parameters, lease := leaseIn sessions session, reply }] := by
  obtain ⟨inner, exchanges⟩ := state
  let call : AdapterCall := .execute sql parameters (leaseIn sessions session)
  let answered := answers (.adapter call) inner
  let trace := exchanges ++ [{ call := .adapter call, reply := answered.1 }]
  have ran : Action.run (recorded answers) (EngineAction.adapter call) sessions
      (inner, exchanges) = ((answered.1, sessions), (answered.2, trace)) := rfl
  obtain ⟨reached, asked, profiled, isAsked⟩ :=
    EngineAction.run_profiled engine sql parameters ran
  have silent : executions asked = [] := by
    rcases isAsked with rfl | ⟨reply, rfl⟩ <;> rfl
  refine ⟨answered.1, (reached, trace ++ asked), ?_, ?_⟩
  · unfold execute
    rw [Action.run_bind, run_leaseOf_started started]
    dsimp only
    rw [EngineAction.run_guarded, profiled]
  · rw [executions_append, silent, List.append_nil, executions_append]
    rfl

/-- What a statement comes to as the engine reports it. -/
def reported (sql : String) {α : Type} (reply : Except Failure α) : Except Failure α :=
  reply.mapError (engine.wrap "query" (some sql))

/-- Whether the row that a lookup yields says that the table is there. -/
def readPresence : List Value → Except Fault Bool
  | [] => .ok false
  | row :: _ => (Document.column row "present").map Value.isTruthy

/-- The statement that looks a table up. -/
def lookup (table : String) : Statement := Statement.tableExists engine.dialect table

/-- The statement that creates a table. -/
def creation (table : String) : Statement := Statement.createTable engine.dialect table

/-- Whether a table is there, from what its lookup came to. -/
def presence (table : String) (reply : Except Failure Execution) : Except Failure Bool :=
  reported engine (lookup engine table).sql reply >>= fun execution =>
    (readPresence execution.rows).mapError .fault

theorem presence_eq_ok {engine : EngineSettings} {table : String}
    {reply : Except Failure Execution} {present : Bool} :
    presence engine table reply = .ok present ↔
      ∃ execution, reply = .ok execution ∧ readPresence execution.rows = .ok present := by
  rw [presence, Except.bind_eq_ok]
  simp only [reported, Except.mapError_eq_ok]

theorem tableExists_eq (table : String) :
    Engine.tableExists engine table =
      Engine.run engine (lookup engine table) none >>= fun rows =>
        Action.ofFault (readPresence rows) := by
  unfold Engine.tableExists
  congr 1
  funext rows
  cases rows with
  | nil => rfl
  | cons row rows =>
      dsimp only [readPresence]
      cases Document.column row "present" <;> rfl

theorem run_statement (started : Started sessions session) (statement : Statement) :
    ∃ reply reached,
      Action.run (recorded answers) (Engine.run engine statement session) sessions state =
        (((reported engine statement.sql reply).map fun execution => execution.rows, sessions),
          reached) ∧
      executions reached.2 = executions state.2 ++
        [Executed.of statement (leaseIn sessions session) reply] := by
  obtain ⟨reply, reached, ran, executed⟩ :=
    run_execute answers state engine started statement.sql statement.params
  refine ⟨reply, reached, ?_, executed⟩
  unfold Engine.run query
  rw [Action.run_bind, ran]
  cases reply <;> rfl

end

theorem onAdapter_of_course {ρ : Type} {answers : EngineAnswers ρ} {engine : EngineSettings}
    {call : StoreCall} {sessions after : List Session} {state reached : ρ} {reply : call.Reply}
    (served : (Engine.serve engine call sessions).course answers state =
      ((reply, after), reached)) :
    onAdapter answers engine call (sessions, state) = (reply, (after, reached)) := by
  simp only [onAdapter, served]

/-! ## Actions of the client -/

/-- What the client runs on: an adapter, the settings of the engine, its sessions, and the
schemas of the collections. -/
structure Deployment (ρ : Type) where
  answers : EngineAnswers ρ
  engine : EngineSettings
  sessions : List Session
  schemas : SchemaCatalog

/-- The state of an adapter, and what was exchanged with it. -/
abbrev AdapterState (ρ : Type) : Type := ρ × List (Exchange engineInterface)

namespace Deployment

variable {ρ α β : Type} (deployment : Deployment ρ)

/-- An action of the client comes to an outcome and executes some statements, and keeps the
sessions and the schemas. -/
structure Executes (action : ClientAction α) (state : AdapterState ρ)
    (outcome : Except Failure α) (executed : List Executed) (reached : AdapterState ρ) :
    Prop where
  ran : ClientAction.run (onAdapter (recorded deployment.answers) deployment.engine) action
    deployment.schemas (deployment.sessions, state) =
      ((outcome, deployment.schemas), (deployment.sessions, reached))
  added : executions reached.2 = executions state.2 ++ executed

variable {deployment} {action : ClientAction α} {next : α → ClientAction β}
  {state middle reached : AdapterState ρ} {value : α} {failure : Failure}
  {outcome : Except Failure β} {first second : List Executed}

namespace Executes

theorem bind (one : deployment.Executes action state (.ok value) first middle)
    (two : deployment.Executes (next value) middle outcome second reached) :
    deployment.Executes (action >>= next) state outcome (first ++ second) reached where
  ran := by
    rw [ClientAction.run_bind, one.ran]
    exact two.ran
  added := by rw [two.added, one.added, List.append_assoc]

theorem bind_error (one : deployment.Executes action state (.error failure) first reached) :
    deployment.Executes (action >>= next) state (.error failure) first reached where
  ran := by rw [ClientAction.run_bind, one.ran]
  added := one.added

/-- What follows a first step executes the rest. -/
theorem after_ok (one : deployment.Executes action state (.ok value) first middle)
    (whole : deployment.Executes (action >>= next) state outcome second reached) :
    ∃ rest, second = first ++ rest ∧
      deployment.Executes (next value) middle outcome rest reached := by
  have ran := whole.ran
  rw [ClientAction.run_bind, one.ran] at ran
  dsimp only at ran
  obtain ⟨added, grown⟩ := exists_exchanges_onAdapter deployment.answers deployment.engine
    (next value deployment.schemas) deployment.sessions middle
  have isReached : reached.2 = middle.2 ++ added := by
    rw [← grown]
    exact (congrArg (fun run => run.2.2.2) ran).symm
  have rest : executions reached.2 = executions middle.2 ++ executions added := by
    rw [isReached, executions_append]
  refine ⟨executions added, ?_, ran, rest⟩
  -- both ways to the end record the statements of the first step, which cancel out
  have split := whole.added
  rw [rest, one.added, List.append_assoc] at split
  exact (List.append_cancel_left split).symm

/-- A first step that fails ends an action. -/
theorem after_error (one : deployment.Executes action state (.error failure) first middle)
    (whole : deployment.Executes (action >>= next) state outcome second reached) :
    outcome = .error failure := by
  have ran := whole.ran
  rw [ClientAction.run_bind, one.ran] at ran
  exact (congrArg (fun run => run.1.1) ran).symm

/-- An action comes to one outcome by one series of statements. -/
theorem unique {one other : Except Failure α} {oneReached otherReached : AdapterState ρ}
    (executes : deployment.Executes action state one first oneReached)
    (same : deployment.Executes action state other second otherReached) :
    one = other ∧ first = second := by
  have ran := executes.ran.symm.trans same.ran
  simp only [Prod.mk.injEq] at ran
  obtain ⟨⟨rfl, _⟩, _, rfl⟩ := ran
  exact ⟨rfl, List.append_cancel_left (executes.added.symm.trans same.added)⟩

/-- A step that asks the adapter for nothing. -/
theorem silent {outcome : Except Failure α}
    (ran : ClientAction.run (onAdapter (recorded deployment.answers) deployment.engine) action
      deployment.schemas (deployment.sessions, state) =
        ((outcome, deployment.schemas), (deployment.sessions, state))) :
    deployment.Executes action state outcome [] state :=
  ⟨ran, (List.append_nil _).symm⟩

end Executes

/-- What is done with a result without asking for anything. -/
theorem Executes.andThen {outcome : Except Failure α} {finish : α → Except Failure β}
    (executes : deployment.Executes action state outcome first reached)
    (finishes : ∀ value, deployment.Executes (next value) reached (finish value) [] reached) :
    deployment.Executes (action >>= next) state (outcome >>= finish) first reached := by
  cases outcome with
  | error failure => exact executes.bind_error
  | ok value =>
      rw [← List.append_nil first]
      exact executes.bind (finishes value)

theorem Executes.map {outcome : Except Failure α} (step : α → β)
    (executes : deployment.Executes action state outcome first reached) :
    deployment.Executes (action >>= fun value => pure (step value)) state (outcome.map step) first
      reached where
  ran := by
    rw [ClientAction.run_bind, executes.ran]
    cases outcome <;> rfl
  added := executes.added

variable (state)

theorem executes_pure (value : α) :
    deployment.Executes (pure value : ClientAction α) state (.ok value) [] state := .silent rfl

theorem executes_ofFault (outcome : Except Fault α) :
    deployment.Executes (Action.ofFault outcome) state (outcome.mapError .fault) [] state :=
  .silent (by simp)

theorem executes_ofReport (outcome : Except IssueReport α) :
    deployment.Executes (Action.ofReport outcome) state (outcome.mapError .options) [] state :=
  .silent (by simp)

theorem executes_ofLogged (computation : Logged α) :
    deployment.Executes (Action.ofLogged computation) state computation.outcome.1 [] state :=
  .silent (by simp)

theorem executes_report (level : LogLevel) (text : String) :
    deployment.Executes (ClientAction.report level text) state (.ok ()) [] state := .silent rfl

theorem executes_validate (collection : String) (document : Members) :
    deployment.Executes (ClientAction.validate collection document) state
      (deployment.schemas.validate collection (.object document)) [] state := .silent rfl

open Engine

/-- The lookup of a table is one statement outside of sessions. -/
theorem executes_tableExists (collection : String) :
    ∃ reply reached,
      deployment.Executes (ClientAction.tableExists collection) state
        (presence deployment.engine collection reply)
        [.of (lookup deployment.engine collection) none reply] reached := by
  obtain ⟨reply, reached, ran, executed⟩ := run_statement deployment.answers state
    deployment.engine (started_none deployment.sessions) (lookup deployment.engine collection)
  refine ⟨reply, reached, ?_, executed⟩
  have looked : Action.run (recorded deployment.answers)
      (Engine.tableExists deployment.engine collection) deployment.sessions state =
        ((presence deployment.engine collection reply, deployment.sessions), reached) := by
    rw [tableExists_eq, Action.run_bind, ran]
    cases reply with
    | error failure => rfl
    | ok execution =>
        change Action.run _ (Action.ofFault (readPresence execution.rows)) _ _ =
          (((readPresence execution.rows).mapError .fault, _), _)
        cases readPresence execution.rows <;> rfl
  have served : onAdapter _ _ (.tableExists collection) _ = _ := onAdapter_of_course looked
  rw [ClientAction.tableExists, ClientAction.run_perform, served]

/-- The creation of a table is one statement outside of sessions. -/
theorem executes_createTable (collection : String) :
    ∃ reply reached,
      deployment.Executes (ClientAction.createTable collection) state
        ((reported deployment.engine (creation deployment.engine collection).sql reply).map
          fun _ => ())
        [.of (creation deployment.engine collection) none reply] reached := by
  obtain ⟨reply, reached, ran, executed⟩ := run_execute deployment.answers state
    deployment.engine (started_none deployment.sessions)
    (creation deployment.engine collection).sql []
  have unbound : (creation deployment.engine collection).params = [] := by
    unfold creation
    cases deployment.engine.dialect <;> rfl
  refine ⟨reply, reached, ?_, ?_⟩
  · have created : Action.run (recorded deployment.answers)
        (Engine.createTable deployment.engine collection) deployment.sessions state =
          (((reported deployment.engine (creation deployment.engine collection).sql reply).map
            fun _ => (), deployment.sessions), reached) := by
      unfold Engine.createTable Engine.perform query
      rw [Action.run_bind, Action.run_bind]
      unfold creation at ran ⊢
      rw [ran]
      cases reply <;> rfl
    have served : onAdapter _ _ (.createTable collection) _ = _ := onAdapter_of_course created
    rw [ClientAction.createTable, ClientAction.run_perform, served]
  · rw [executed, Executed.of, unbound]
    rfl

section

variable {session : Option SessionId} (started : Started deployment.sessions session)
  (request : Request)

include started

theorem executes_rowsOf :
    ∃ reply reached,
      deployment.Executes (ClientAction.rowsOf request session) state
        ((reported deployment.engine request.statement.sql reply).map fun execution =>
          execution.rows)
        [Executed.of request.statement (leaseIn deployment.sessions session) reply] reached := by
  obtain ⟨reply, reached, ran, executed⟩ := run_statement deployment.answers state deployment.engine
    started request.statement
  refine ⟨reply, reached, ?_, executed⟩
  have served : onAdapter _ _ (.run request session) _ = _ := onAdapter_of_course ran
  rw [ClientAction.rowsOf, ClientAction.run_perform, served]

/-- An insertion is one statement, and its row ids are read from what it came to. -/
theorem executes_insert (count : Nat) :
    ∃ reply reached,
      deployment.Executes (ClientAction.insert request count session) state
        (reported deployment.engine request.statement.sql reply >>= fun execution =>
          (insertedIds deployment.engine.rowIds execution (.natural count)).mapError .fault)
        [Executed.of request.statement (leaseIn deployment.sessions session) reply] reached := by
  obtain ⟨reply, reached, ran, executed⟩ := run_execute deployment.answers state
    deployment.engine started request.statement.sql request.statement.params
  refine ⟨reply, reached, ?_, executed⟩
  have inserted : Action.run (recorded deployment.answers)
      (Engine.insert deployment.engine request.statement.sql request.statement.params
        (.natural count) session) deployment.sessions state =
        ((reported deployment.engine request.statement.sql reply >>= fun execution =>
          (insertedIds deployment.engine.rowIds execution (.natural count)).mapError .fault,
          deployment.sessions), reached) := by
    unfold Engine.insert
    rw [Action.run_bind, ran]
    cases reply with
    | error failure => rfl
    | ok execution =>
        change Action.run _ (Action.ofFault (insertedIds deployment.engine.rowIds execution
            (.natural count))) _ _ =
          (((insertedIds deployment.engine.rowIds execution (.natural count)).mapError .fault,
            _), _)
        cases insertedIds deployment.engine.rowIds execution (.natural count) <;> rfl
  have served : onAdapter _ _ (.insert request count session) _ = _ := onAdapter_of_course inserted
  rw [ClientAction.insert, ClientAction.run_perform, served]

end

/-- Asking for the time executes nothing. -/
theorem executes_seconds :
    ∃ reached, deployment.Executes ClientAction.seconds state
      (deployment.answers (.ambient .seconds) state.1).1 [] reached :=
  ⟨_, rfl, executions_append _ _⟩

theorem executes_randomBytes (count : Nat) :
    ∃ bytes reached,
      deployment.Executes (ClientAction.randomBytes count) state (.ok bytes) [] reached :=
  ⟨_, _, rfl, executions_append _ _⟩

/-- A deployment without sessions and schemas on which every statement yields the same rows. -/
def yielding (rows : List Value) : Deployment Unit where
  answers
    | .adapter (.execute ..) => pure (.ok { rows })
    | call => Transaction.scripted (.ok ()) (.ok ()) (.ok ()) call
  engine := Transaction.plainSettings
  sessions := []
  schemas := []

end Deployment

end DocStore
