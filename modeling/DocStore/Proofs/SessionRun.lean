import DocStore.Proofs.Outcome
import DocStore.Proofs.Surroundings
import DocStore.Transaction.Scope

/-!
# Runs of sessions

What the steps on a session come to, whatever the adapter answers.  A session keeps its
connection, and only the first release of a session reaches the adapter.
-/

namespace DocStore

abbrev EngineAnswers (σ : Type) :=
  (call : engineInterface.Call) → StateM σ (engineInterface.Reply call)

namespace Transaction

/-- The outcome of a step whose ordinary failures are only reported. -/
def tolerated : Except Failure Unit → Except Failure Unit
  | .error .cancelled => .error .cancelled
  | _ => .ok ()

@[simp] theorem tolerated_cancelled : tolerated (.error .cancelled) = .error .cancelled := rfl

theorem tolerated_of_ne {outcome : Except Failure Unit} (proper : outcome ≠ .error .cancelled) :
    tolerated outcome = .ok () := by
  unfold tolerated
  split
  · exact absurd rfl proper
  · rfl

@[simp] theorem tolerated_mapError_wrap (settings : EngineSettings) (activity : String)
    (sql : Option String) (outcome : Except Failure Unit) :
    tolerated (outcome.mapError (settings.wrap activity sql)) = tolerated outcome := by
  cases outcome with
  | ok _ => rfl
  | error failure =>
      cases failure with
      | engine native => cases native with | mk kind text => cases kind <;> rfl
      | _ => rfl

/-- An adapter on which the ends of transactions come to given outcomes. -/
def scripted (commit rollback release : Except Failure Unit) : EngineAnswers Unit
  | .adapter (.begin isolation) => pure (.ok { connection := 1, isolation })
  | .adapter (.commit _) => pure commit
  | .adapter (.rollback _) => pure rollback
  | .adapter (.release _) => pure release
  | .adapter (.execute ..) => pure (.ok {})
  | .adapter .openPool => pure (.ok ())
  | .adapter .closePool => pure (.ok ())
  | .ambient .seconds => pure (.ok 0)
  | .ambient (.randomBytes count) => pure (List.replicate count 0)
  | .ambient (.pause _) => pure (.ok ())
  | .ambient .elapsed => pure 0

/-- Settings of an engine that does not profile statements. -/
def plainSettings : EngineSettings :=
  { dialect := .postgres, label := "PostgreSQL", connectCode := "PG_CONNECT"
    queryCode := "PG_QUERY", rowIds := .returned, host := "localhost", attempts := 1
    retryDelay := 0, profiling := false, slowThreshold := 0, logsQueries := false }

end Transaction

namespace EngineAction

open Action

variable {σ α : Type} {answers : EngineAnswers σ} {settings : EngineSettings}
  {sessions : List Session} {state : σ} {session : SessionId} {lease : Lease}

theorem run_adapter (call : AdapterCall) :
    run answers (adapter call) sessions state =
      (((answers (.adapter call) state).1, sessions), (answers (.adapter call) state).2) := rfl

theorem run_guarded (activity : String) (sql : Option String) (action : EngineAction α) :
    run answers (settings.guarded activity sql action) sessions state =
      match run answers action sessions state with
      | ((outcome, after), reached) =>
          ((outcome.mapError (settings.wrap activity sql), after), reached) := by
  unfold EngineSettings.guarded
  rw [run_recover]
  rcases run answers action sessions state with ⟨⟨outcome, after⟩, reached⟩
  cases outcome <;> rfl

/-- Timing a statement asks the clock at most, and leaves its outcome. -/
theorem run_profiled (settings : EngineSettings) (sql : String) (parameters : List Value)
    {action : EngineAction Execution} {outcome : Except Failure Execution}
    {after : List Session} {start middle : σ × List (Exchange engineInterface)}
    (ran : run (recorded answers) action sessions start = ((outcome, after), middle)) :
    ∃ reached asked,
      run (recorded answers) (Engine.profiled settings sql parameters action) sessions start =
        ((outcome, after), reached, middle.2 ++ asked) ∧
      (asked = [] ∨ ∃ reply, asked = [{ call := .ambient .elapsed, reply }]) := by
  obtain ⟨inner, exchanges⟩ := middle
  unfold Engine.profiled
  split
  · exact ⟨inner, [], by rw [ran, List.append_nil], .inl rfl⟩
  · rw [run_bind, run_attempt, ran]
    cases outcome with
    | error failure =>
        refine ⟨inner, [], ?_, .inl rfl⟩
        rw [List.append_nil]
        dsimp only
        split <;> rfl
    | ok execution =>
        have timed : run (recorded answers) elapsed after (inner, exchanges) =
            ((.ok (answers (.ambient .elapsed) inner).1, after),
              (answers (.ambient .elapsed) inner).2,
              exchanges ++ [{ call := .ambient .elapsed,
                              reply := (answers (.ambient .elapsed) inner).1 }]) := rfl
        refine ⟨(answers (.ambient .elapsed) inner).2, _, ?_,
          .inr ⟨(answers (.ambient .elapsed) inner).1, rfl⟩⟩
        dsimp only
        rw [run_bind, timed]
        dsimp only
        -- whether the duration is written down makes no difference to the run
        cases Engine.durationEntry? settings sql parameters
          (answers (.ambient .elapsed) inner).1 <;> rfl

theorem run_sessionAt {found : Session} (isFound : sessions[session]? = some found) :
    run answers (Engine.sessionAt session) sessions state = ((.ok found, sessions), state) := by
  unfold Engine.sessionAt
  rw [run_bind, run_get]
  simp only [isFound, run_pure]

theorem run_commit {found : Session} (isFound : sessions[session]? = some found) :
    run answers (Engine.commit settings session) sessions state =
      (((answers (.adapter (.commit found.lease)) state).1.mapError
          (settings.wrap "commit" none), sessions),
        (answers (.adapter (.commit found.lease)) state).2) := by
  unfold Engine.commit
  rw [run_bind, run_sessionAt isFound]
  exact run_guarded _ _ _

theorem run_rollback {found : Session} (isFound : sessions[session]? = some found) :
    run answers (Engine.rollback settings session) sessions state =
      (((answers (.adapter (.rollback found.lease)) state).1.mapError
          (settings.wrap "rollback" none), sessions),
        (answers (.adapter (.rollback found.lease)) state).2) := by
  unfold Engine.rollback
  rw [run_bind, run_sessionAt isFound]
  exact run_guarded _ _ _

/-- The first release of a session gives its connection back. -/
theorem run_release (held : sessions[session]? = some { lease }) :
    run answers (Engine.release settings session) sessions state =
      (((answers (.adapter (.release lease)) state).1.mapError (settings.wrap "release" none),
          sessions.set session { lease, released := true }),
        (answers (.adapter (.release lease)) state).2) := by
  unfold Engine.release
  rw [run_bind, run_sessionAt held]
  simp only [Bool.false_eq_true, if_false]
  rw [run_bind, run_modify]
  exact run_guarded _ _ _

theorem run_quietly (title : String) (action : EngineAction Unit) :
    run answers (Transaction.quietly title action) sessions state =
      match run answers action sessions state with
      | ((outcome, after), reached) => ((Transaction.tolerated outcome, after), reached) := by
  unfold Transaction.quietly
  rw [run_recover]
  rcases run answers action sessions state with ⟨⟨outcome, after⟩, reached⟩
  cases outcome with
  | ok _ => rfl
  | error failure => cases failure <;> rfl

end EngineAction

end DocStore
