import DocStore.Proofs.ScopeTree

/-!
# The end of a savepoint

After the failure of its action, a savepoint is rolled back to, once, and it is not released.
The failure is passed on after that.  Unlike a transaction, which reports what its rollback
fails with, a savepoint has no guard around the rollback, so a failure of the rollback takes the
place of the one that the savepoint was rolled back for.
-/

namespace DocStore

open Action EngineAction

variable {σ α : Type} {answers : EngineAnswers σ} {settings : EngineSettings}
  {sessions : List Session} {session : SessionId} {found : Session}

/-! ## Statements of a session -/

@[simp] theorem Engine.isAdapter_executed (sql : String) (parameters : List Value)
    (lease : Option Lease) (reply : Except Failure Execution) :
    (Engine.executed sql parameters lease reply).isAdapter = true := rfl

namespace EngineAction

/-- A statement of a session is executed once on its connection, released or not, and its
failure is wrapped. -/
theorem run_query (answers : EngineAnswers σ) (settings : EngineSettings)
    (isFound : sessions[session]? = some found) (sql : String) (parameters : List Value)
    (state : σ) (exchanges : List (Exchange engineInterface)) :
    ∃ reply reached asked,
      (answers (.adapter (.execute sql parameters (some found.lease))) state).1 = reply ∧
      run (recorded answers) (Engine.query settings sql parameters (some session)) sessions
          (state, exchanges) =
        (((reply.mapError (settings.wrap "query" (some sql))).map Execution.rows, sessions),
          reached, exchanges ++
            (Engine.executed sql parameters (some found.lease) reply :: asked)) ∧
      asked.filter Exchange.isAdapter = [] := by
  have sent : run (recorded answers)
      (adapter (.execute sql parameters (some found.lease))) sessions (state, exchanges) = _ :=
    run_adapter _
  obtain ⟨reached, asked, timed, isAsked⟩ := run_profiled settings sql parameters sent
  have connected : run (recorded answers) (Engine.leaseOf (some session)) sessions
      (state, exchanges) = ((.ok (some found.lease), sessions), (state, exchanges)) := by
    change run _ (Engine.sessionAt session >>= fun found => pure (some found.lease)) _ _ = _
    rw [run_bind, run_sessionAt isFound]
    rfl
  refine ⟨_, reached, asked, rfl, ?_, by rcases isAsked with rfl | ⟨reply, rfl⟩ <;> rfl⟩
  unfold Engine.query Engine.execute
  rw [run_bind, run_bind, connected]
  dsimp only
  rw [run_guarded, timed]
  simp only [recorded, Engine.executed, List.append_assoc, List.singleton_append]
  cases (answers (.adapter (.execute sql parameters (some found.lease))) state).1 <;> rfl

/-- What is done with a savepoint is one statement, whose rows are passed over. -/
theorem run_savepoint (answers : EngineAnswers σ) (settings : EngineSettings)
    (isFound : sessions[session]? = some found) {name : String}
    (valid : Engine.isSavepointName name = true) (action : SavepointAction) (state : σ)
    (exchanges : List (Exchange engineInterface)) :
    let sql := (Statement.savepoint settings.dialect action name).sql
    ∃ reply reached asked,
      (answers (.adapter (.execute sql [] (some found.lease))) state).1 = reply ∧
      run (recorded answers) (Engine.savepoint settings action session name) sessions
          (state, exchanges) =
        (((reply.mapError (settings.wrap "query" (some sql))).map fun _ => (), sessions),
          reached, exchanges ++ (Engine.executed sql [] (some found.lease) reply :: asked)) ∧
      asked.filter Exchange.isAdapter = [] := by
  intro sql
  obtain ⟨reply, reached, asked, answered, ran, silent⟩ :=
    run_query answers settings isFound sql [] state exchanges
  refine ⟨reply, reached, asked, answered, ?_, silent⟩
  unfold Engine.savepoint
  rw [if_pos valid]
  dsimp only
  rw [run_bind, ran]
  cases reply <;> rfl

end EngineAction

/-! ## The end of a scope -/

namespace Savepoint

/-- What leaves a savepoint after a failure: that failure, unless the rollback fails as
well. -/
def surviving (settings : EngineSettings) (sql : String) (failure : Failure) :
    Except Failure Execution → Failure
  | .ok _ => failure
  | .error native => settings.wrap "query" (some sql) native

theorem sql_release_ne_rollback (dialect : Dialect) (released rolledBack : String) :
    (Statement.savepoint dialect .release released).sql ≠
      (Statement.savepoint dialect .rollback rolledBack).sql := by
  have text (action : SavepointAction) (name : String) :
      (Statement.savepoint dialect action name).sql =
        action.words ++ Sql.identifierText dialect name := by
    simp [Statement.savepoint, Statement.sql, Sql.Fragment.render, Sql.Fragment.renderWith,
      Sql.Piece.render]
  rw [text, text]
  intro same
  have letters := congrArg (fun text => text.toList[1]?) same
  simp [SavepointAction.words, String.toList_append] at letters

/-- A savepoint that was begun has a name for savepoints. -/
theorem isSavepointName_of_enter {given : Option String} {name : String}
    {opened : List Session} {start reached : σ × List (Exchange engineInterface)}
    (entered : run (recorded answers) (enter settings session given) sessions start =
      ((.ok name, opened), reached)) :
    Engine.isSavepointName name = true := by
  unfold enter at entered
  rw [run_bind] at entered
  split at entered
  · rename_i chosen after middle _
    rw [run_bind] at entered
    by_cases valid : Engine.isSavepointName chosen = true
    · split at entered
      · cases entered
        exact valid
      · cases entered
    · rw [Engine.savepoint, if_neg valid] at entered
      cases entered
  · cases entered

/-- After a failure a savepoint is rolled back to once, and nothing else is asked of the
adapter. -/
theorem run_leave_error (answers : EngineAnswers σ) (settings : EngineSettings)
    (isFound : sessions[session]? = some found) {name : String}
    (valid : Engine.isSavepointName name = true) (failure : Failure) (state : σ)
    (exchanges : List (Exchange engineInterface)) :
    let sql := (Statement.savepoint settings.dialect .rollback name).sql
    ∃ reply final leaving,
      (answers (.adapter (.execute sql [] (some found.lease))) state).1 = reply ∧
      run (recorded answers) (leave settings session name (.error failure) : EngineAction α)
          sessions (state, exchanges) =
        ((.error (surviving settings sql failure reply), sessions), final,
          exchanges ++ leaving) ∧
      leaving.filter Exchange.isAdapter =
        [Engine.executed sql [] (some found.lease) reply] := by
  intro sql
  obtain ⟨reply, final, asked, answered, ran, silent⟩ :=
    run_savepoint answers settings isFound valid .rollback state exchanges
  refine ⟨reply, final, Engine.executed sql [] (some found.lease) reply :: asked, answered, ?_,
    by rw [List.filter_cons_of_pos (Engine.isAdapter_executed ..), silent]⟩
  unfold leave
  dsimp only
  rw [run_bind, ran]
  cases reply <;> rfl

/-- A savepoint that was begun, and whose action fails, is rolled back to exactly once and not
released, whatever the failure and whatever the rollback comes to.  What leaves the savepoint
is the failure of its action, exactly if the rollback succeeds or fails with the same. -/
theorem scope_rollsBackOnce (settings : EngineSettings) (given : Option String)
    (body : String → EngineAction α) (answers : EngineAnswers σ)
    {sessions opened after : List Session} {session : SessionId} {found : Session}
    {name : String} {failure : Failure} {state reached left : σ}
    {before begun exchanges : List (Exchange engineInterface)}
    (entered : run (recorded answers) (enter settings session given) sessions (state, before) =
      ((.ok name, opened), reached, begun))
    (raised : run (recorded answers) (body name) opened (reached, begun) =
      ((.error failure, after), left, exchanges))
    (isFound : after[session]? = some found) :
    let sql := (Statement.savepoint settings.dialect .rollback name).sql
    let reply := (answers (.adapter (.execute sql [] (some found.lease))) left).1
    ∃ ended final leaving,
      run (recorded answers) (scope settings session given body) sessions (state, before) =
        ((.error ended, after), final, exchanges ++ leaving) ∧
      leaving.filter Exchange.isAdapter = [Engine.executed sql [] (some found.lease) reply] ∧
      (∀ other parameters lease reply, Engine.executed
        (Statement.savepoint settings.dialect .release other).sql parameters lease reply ∉
          leaving) ∧
      (ended = failure ↔
        ∀ native, reply = .error native → settings.wrap "query" (some sql) native = failure) := by
  intro sql
  obtain ⟨reply, final, leaving, rfl, ran, once⟩ := run_leave_error answers settings isFound
    (isSavepointName_of_enter entered) failure left exchanges
  intro reply
  refine ⟨surviving settings sql failure reply, final, leaving, ?_, once, ?_, ?_⟩
  · unfold scope
    rw [run_bind, entered]
    dsimp only
    rw [run_bind, run_attempt, raised]
    exact ran
  · intro other parameters lease released member
    have isOnly := List.mem_filter.mpr ⟨member, Engine.isAdapter_executed ..⟩
    rw [once, List.mem_singleton] at isOnly
    have sameCall := congrArg Exchange.call isOnly
    simp only [Engine.executed, EngineCall.adapter.injEq, AdapterCall.execute.injEq] at sameCall
    exact sql_release_ne_rollback settings.dialect other name sameCall.1
  · cases isReply : reply with
    | ok execution => simp [surviving]
    | error native => simp [surviving]

/-- The action is cancelled and the rollback succeeds: the cancellation leaves the savepoint. -/
theorem scope_rollsBackOnce_cancelled :
    let lease : Lease := { connection := 1, isolation := none }
    let answers := Transaction.scripted (.ok ()) (.ok ()) (.ok ())
    let sql := (Statement.savepoint .postgres .rollback "sp1").sql
    ∃ final leaving,
      run (recorded answers)
          (scope Transaction.plainSettings 0 (some "sp1") fun _ =>
            (throw .cancelled : EngineAction Unit)) [{ lease }] ((), []) =
        ((.error .cancelled, [{ lease }]), final,
          Savepoint.executed Transaction.plainSettings .create lease "sp1" {} :: leaving) ∧
      leaving.filter Exchange.isAdapter = [Engine.executed sql [] (some lease) (.ok {})] := by
  intro lease answers sql
  have entered : run (recorded answers) (enter Transaction.plainSettings 0 (some "sp1"))
      [{ lease }] ((), []) = ((.ok "sp1", [{ lease }]), (),
        [Savepoint.executed Transaction.plainSettings .create lease "sp1" {}]) := rfl
  obtain ⟨ended, final, leaving, ran, once, _, leaves⟩ :=
    scope_rollsBackOnce Transaction.plainSettings (some "sp1")
      (fun _ => (throw .cancelled : EngineAction Unit)) answers entered rfl rfl
  obtain rfl : ended = .cancelled := leaves.mpr nofun
  exact ⟨final, leaving, ran, once⟩

/-- An adapter that refuses one statement. -/
def refusing (refused : String) : EngineAnswers Unit
  | .adapter (.execute sql _ _) =>
      pure (if sql = refused then .error (.engine { kind := .engine, text := "" }) else .ok {})
  | call => Transaction.scripted (.ok ()) (.ok ()) (.ok ()) call

/-- The rollback fails: its failure leaves the savepoint, and that of the action is lost. -/
theorem scope_loses_failure :
    let sql := (Statement.savepoint .postgres .rollback "sp1").sql
    let lease : Lease := { connection := 1, isolation := none }
    ∃ ended exchanges,
      run (recorded (refusing sql))
          (scope Transaction.plainSettings 0 (some "sp1") fun _ =>
            (throw (.caller "orig") : EngineAction Unit)) [{ lease }] ((), []) =
        ((.error ended, [{ lease }]), (), exchanges) ∧
      ended ≠ .caller "orig" := by
  intro sql lease
  exact ⟨_, _, rfl, nofun⟩

end Savepoint

end DocStore
