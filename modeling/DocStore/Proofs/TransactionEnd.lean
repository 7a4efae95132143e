import DocStore.Proofs.SessionRun

/-!
# The end of a transaction

After its action, a transaction is committed or rolled back, and its connection is given
back.  Ordinary failures of the clean-up are only reported.  A cancellation is not: it
ends the clean-up where it comes.  If it comes while the transaction is rolled back, the
connection is not given back at all, and it takes the place of the failure that the
transaction was rolled back for.
-/

namespace DocStore

namespace Transaction

open Action EngineAction

variable {σ α : Type}

/-! ## Exchanges -/

section

variable (lease : Lease) (reply : Except Failure Unit)

def committed : Exchange engineInterface := { call := .adapter (.commit lease), reply }

def rolledBack : Exchange engineInterface := { call := .adapter (.rollback lease), reply }

def released : Exchange engineInterface := { call := .adapter (.release lease), reply }

end

@[simp] theorem committed_ne_rolledBack {lease : Lease} {reply other : Except Failure Unit} :
    committed lease reply ≠ rolledBack lease other := by
  intro same
  cases congrArg Exchange.call same

@[simp] theorem committed_ne_released {lease : Lease} {reply other : Except Failure Unit} :
    committed lease reply ≠ released lease other := by
  intro same
  cases congrArg Exchange.call same

@[simp] theorem rolledBack_ne_released {lease : Lease} {reply other : Except Failure Unit} :
    rolledBack lease reply ≠ released lease other := by
  intro same
  cases congrArg Exchange.call same

@[simp] theorem committed_inj {lease : Lease} {reply other : Except Failure Unit} :
    committed lease reply = committed lease other ↔ reply = other := by
  simp [committed]

@[simp] theorem rolledBack_inj {lease : Lease} {reply other : Except Failure Unit} :
    rolledBack lease reply = rolledBack lease other ↔ reply = other := by
  simp [rolledBack]

@[simp] theorem released_inj {lease : Lease} {reply other : Except Failure Unit} :
    released lease reply = released lease other ↔ reply = other := by
  simp [released]

variable {settings : EngineSettings} {lease : Lease} {outcome ended : Except Failure α}
  {exchanges : List (Exchange engineInterface)} {failure : Failure}

def Raised (settings : EngineSettings) (lease : Lease) (outcome : Except Failure α)
    (exchanges : List (Exchange engineInterface)) (failure : Failure) : Prop :=
  outcome = .error failure ∨
    ∃ native, committed lease (.error native) ∈ exchanges ∧
      settings.wrap "commit" none native = failure

/-- The end of a transaction as it should be: the connection is given back once, after the
transaction was committed or rolled back, and what was raised leaves the transaction. -/
structure EndsWell (settings : EngineSettings) (lease : Lease) (outcome ended : Except Failure α)
    (exchanges : List (Exchange engineInterface)) : Prop where
  releasedOnce : ∃ first reply, exchanges = first ++ [released lease reply] ∧ first ≠ [] ∧
    ∀ exchange ∈ first, ∃ reply,
      exchange = committed lease reply ∨ exchange = rolledBack lease reply
  passedOn : ∀ failure, Raised settings lease outcome exchanges failure → ended = .error failure

/-- The clean-up is not cancelled: neither the rollback nor, unless a cancellation was
raised anyway, the release after it. -/
structure CleanUpCompletes (settings : EngineSettings) (lease : Lease)
    (outcome : Except Failure α) (exchanges : List (Exchange engineInterface)) : Prop where
  rollback : rolledBack lease (.error .cancelled) ∉ exchanges
  release : released lease (.error .cancelled) ∈ exchanges →
    ∀ failure, Raised settings lease outcome exchanges failure → failure = .cancelled

/-! ## Courses -/

/-- How it comes that a transaction is abandoned, with the exchanges up to then. -/
inductive Fails (settings : EngineSettings) (lease : Lease) :
    Except Failure α → List (Exchange engineInterface) → Failure → Prop where
  | action {failure : Failure} : Fails settings lease (.error failure) [] failure
  | commit {result : α} {native : Failure} :
      Fails settings lease (.ok result) [committed lease (.error native)]
        (settings.wrap "commit" none native)

/-- The courses of the end of a transaction: what it comes to after the outcome of its
action, and the exchanges on the way. -/
inductive Ending (settings : EngineSettings) (lease : Lease) :
    Except Failure α → Except Failure α → List (Exchange engineInterface) → Prop where
  | completed {result : α} {freed : Except Failure Unit} :
      Ending settings lease (.ok result)
        ((freed.mapError (settings.wrap "release" none)).map fun _ => result)
        [committed lease (.ok ()), released lease freed]
  | interrupted {outcome : Except Failure α} {first : List (Exchange engineInterface)}
      {failure : Failure} (fails : Fails settings lease outcome first failure) :
      Ending settings lease outcome (.error .cancelled)
        (first ++ [rolledBack lease (.error .cancelled)])
  | masked {outcome : Except Failure α} {first : List (Exchange engineInterface)}
      {failure : Failure} {rolled : Except Failure Unit}
      (fails : Fails settings lease outcome first failure)
      (completes : rolled ≠ .error .cancelled) :
      Ending settings lease outcome (.error .cancelled)
        (first ++ [rolledBack lease rolled, released lease (.error .cancelled)])
  | abandoned {outcome : Except Failure α} {first : List (Exchange engineInterface)}
      {failure : Failure} {rolled freed : Except Failure Unit}
      (fails : Fails settings lease outcome first failure)
      (completes : rolled ≠ .error .cancelled) (frees : freed ≠ .error .cancelled) :
      Ending settings lease outcome (.error failure)
        (first ++ [rolledBack lease rolled, released lease freed])

section Run

variable {answers : EngineAnswers σ} {sessions : List Session} {session : SessionId} {state : σ}

theorem run_abandon (held : sessions[session]? = some { lease }) :
    run answers (abandon settings session failure : EngineAction α) sessions state =
      let rolled := answers (.adapter (.rollback lease)) state
      let freed := answers (.adapter (.release lease)) rolled.2
      match tolerated rolled.1 with
      | .error failed => ((.error failed, sessions), rolled.2)
      | .ok _ =>
          let after := sessions.set session { lease, released := true }
          match tolerated freed.1 with
          | .error failed => ((.error failed, after), freed.2)
          | .ok _ => ((.error failure, after), freed.2) := by
  unfold abandon
  simp only [run_bind, run_quietly, run_rollback held, tolerated_mapError_wrap]
  cases tolerated (answers (.adapter (.rollback lease)) state).1 with
  | error failed => rfl
  | ok _ =>
      simp only [run_release held, tolerated_mapError_wrap]
      cases tolerated (answers (.adapter (.release lease))
        (answers (.adapter (.rollback lease)) state).2).1 <;> rfl

variable (answers state)

theorem exists_ending_of_abandon (held : sessions[session]? = some { lease })
    {first : List (Exchange engineInterface)} (fails : Fails settings lease outcome first failure)
    (exchanges : List (Exchange engineInterface)) :
    ∃ ended after reached later,
      run (recorded answers) (abandon settings session failure : EngineAction α) sessions
        (state, exchanges ++ first) = ((ended, after), reached, exchanges ++ later) ∧
      Ending settings lease outcome ended later := by
  rw [run_abandon held]
  simp only [recorded]
  generalize answers (.adapter (.rollback lease)) state = rolled
  obtain ⟨rolledReply, middle⟩ := rolled
  by_cases interrupted : rolledReply = .error .cancelled
  · subst interrupted
    refine ⟨_, sessions, middle, first ++ [rolledBack lease (.error .cancelled)], ?_,
      .interrupted fails⟩
    simp [rolledBack]
  · rw [tolerated_of_ne interrupted]
    dsimp only
    generalize answers (.adapter (.release lease)) middle = freed
    obtain ⟨freedReply, reached⟩ := freed
    by_cases masked : freedReply = .error .cancelled
    · subst masked
      refine ⟨_, sessions.set session { lease, released := true }, reached,
        first ++ [rolledBack lease rolledReply, released lease (.error .cancelled)], ?_,
        .masked fails interrupted⟩
      simp [rolledBack, released]
    · rw [tolerated_of_ne masked]
      refine ⟨_, sessions.set session { lease, released := true }, reached,
        first ++ [rolledBack lease rolledReply, released lease freedReply], ?_,
        .abandoned fails interrupted masked⟩
      simp [rolledBack, released]

theorem exists_ending_of_leave (settings : EngineSettings)
    (held : sessions[session]? = some { lease }) (outcome : Except Failure α)
    (exchanges : List (Exchange engineInterface)) :
    ∃ ended after reached later,
      run (recorded answers) (leave settings session outcome) sessions (state, exchanges) =
        ((ended, after), reached, exchanges ++ later) ∧
      Ending settings lease outcome ended later := by
  cases outcome with
  | error failure =>
      have course := exists_ending_of_abandon answers state held
        (.action : Fails settings lease (.error failure : Except Failure α) [] failure) exchanges
      rwa [List.append_nil] at course
  | ok result =>
      unfold leave
      simp only [run_bind, run_attempt, run_commit held, recorded]
      generalize answers (.adapter (.commit lease)) state = tried
      obtain ⟨commitReply, middle⟩ := tried
      cases commitReply with
      | error native => exact exists_ending_of_abandon answers middle held .commit exchanges
      | ok _ =>
          simp only [Except.mapError_ok, run_bind, run_release held, recorded]
          generalize answers (.adapter (.release lease)) middle = freed
          obtain ⟨freedReply, reached⟩ := freed
          refine ⟨_, sessions.set session { lease, released := true }, reached,
            [committed lease (.ok ()), released lease freedReply], ?_, .completed⟩
          cases freedReply <;> simp [committed, released, Except.map]

end Run

/-! ## What is promised -/

section Fails

variable {first rest : List (Exchange engineInterface)}
  (fails : Fails settings lease outcome first failure)

include fails

/-- Only what a transaction is abandoned for was raised. -/
theorem Fails.raised_iff (noCommit : ∀ reply, committed lease reply ∉ rest) {other : Failure} :
    Raised settings lease outcome (first ++ rest) other ↔ failure = other := by
  cases fails with
  | action => simp [Raised, noCommit]
  | commit => simp [Raised, noCommit]

theorem Fails.attempted : ∀ exchange ∈ first, ∃ reply, exchange = committed lease reply := by
  cases fails with
  | action => simp
  | commit =>
      intro exchange member
      exact ⟨_, List.mem_singleton.mp member⟩

theorem Fails.no_rolledBack {reply : Except Failure Unit} : rolledBack lease reply ∉ first := by
  intro member
  obtain ⟨other, same⟩ := fails.attempted _ member
  exact committed_ne_rolledBack same.symm

theorem Fails.no_released {reply : Except Failure Unit} : released lease reply ∉ first := by
  intro member
  obtain ⟨other, same⟩ := fails.attempted _ member
  exact committed_ne_released same.symm

/-- After a rollback that is not cancelled the connection is given back once. -/
theorem Fails.releasedOnce (rolled freed : Except Failure Unit) :
    ∃ tried reply, first ++ [rolledBack lease rolled, released lease freed] =
        tried ++ [released lease reply] ∧ tried ≠ [] ∧
      ∀ exchange ∈ tried, ∃ reply,
        exchange = committed lease reply ∨ exchange = rolledBack lease reply := by
  refine ⟨first ++ [rolledBack lease rolled], freed, by simp, by simp, ?_⟩
  intro exchange member
  rcases List.mem_append.mp member with early | last
  · obtain ⟨reply, same⟩ := fails.attempted exchange early
    exact ⟨reply, .inl same⟩
  · exact ⟨rolled, .inr (List.mem_singleton.mp last)⟩

theorem Fails.raised_iff_of_cleanUp (rolled freed : Except Failure Unit) {other : Failure} :
    Raised settings lease outcome (first ++ [rolledBack lease rolled, released lease freed]) other
      ↔ failure = other := by
  apply fails.raised_iff
  simp

theorem Fails.rollback_completes {rolled : Except Failure Unit} (freed : Except Failure Unit)
    (completes : rolled ≠ .error .cancelled) :
    rolledBack lease (.error .cancelled) ∉
      first ++ [rolledBack lease rolled, released lease freed] := by
  simp [fails.no_rolledBack, Ne.symm completes]

end Fails

/-- A transaction ends as it should exactly if its clean-up is not cancelled. -/
theorem Ending.endsWell_iff (ending : Ending settings lease outcome ended exchanges) :
    EndsWell settings lease outcome ended exchanges ↔
      CleanUpCompletes settings lease outcome exchanges := by
  cases ending with
  | @completed result freed =>
      have nothingRaised (failure : Failure) :
          ¬Raised settings lease (.ok result : Except Failure α)
            [committed lease (.ok ()), released lease freed] failure := by
        simp [Raised]
      refine iff_of_true ⟨?_, ?_⟩ ⟨?_, ?_⟩
      · refine ⟨[committed lease (.ok ())], freed, rfl, by simp, ?_⟩
        intro exchange member
        exact ⟨_, .inl (List.mem_singleton.mp member)⟩
      · intro failure raised
        exact absurd raised (nothingRaised failure)
      · simp [Ne.symm committed_ne_rolledBack]
      · intro _ failure raised
        exact absurd raised (nothingRaised failure)
  | @interrupted outcome first failure fails =>
      -- the rollback comes last, so nothing was given back
      refine iff_of_false ?_ ?_
      · rintro ⟨⟨tried, reply, same, _⟩, _⟩
        exact rolledBack_ne_released (List.append_inj_right' same rfl |> List.cons.inj |>.1)
      · intro completes
        exact completes.rollback (by simp)
  | @masked outcome first failure rolled fails completes =>
      -- the cancelled release takes the place of what was raised, unless that was a
      -- cancellation as well
      constructor
      · intro endsWell
        have raised := (fails.raised_iff_of_cleanUp rolled (.error .cancelled)).mpr rfl
        have cancelled : failure = .cancelled :=
          (Except.error.inj (endsWell.passedOn failure raised)).symm
        refine ⟨fails.rollback_completes _ completes, ?_⟩
        intro _ other raised
        exact ((fails.raised_iff_of_cleanUp _ _).mp raised).symm.trans cancelled
      · intro cleanUp
        have raised := (fails.raised_iff_of_cleanUp rolled (.error .cancelled)).mpr rfl
        have cancelled : failure = .cancelled := cleanUp.release (by simp) failure raised
        refine ⟨fails.releasedOnce _ _, ?_⟩
        intro other raised
        rw [← (fails.raised_iff_of_cleanUp _ _).mp raised, cancelled]
  | @abandoned outcome first failure rolled freed fails completes frees =>
      refine iff_of_true ⟨fails.releasedOnce _ _, ?_⟩ ⟨fails.rollback_completes _ completes, ?_⟩
      · intro other raised
        rw [(fails.raised_iff_of_cleanUp _ _).mp raised]
      · intro member
        simp [fails.no_released, Ne.symm rolledBack_ne_released, Ne.symm frees] at member

/-! ## Whole transactions -/

/-- A transaction that was begun, and whose action left its session open, ends as it should
exactly if its clean-up is not cancelled: whatever its action and the commit came to, its
connection is given back once, after a commit or a rollback, and what was raised leaves
it. -/
theorem scope_endsWell_iff (settings : EngineSettings) (isolation : Option String)
    (body : SessionId → EngineAction α) (answers : EngineAnswers σ)
    {sessions opened after : List Session} {session : SessionId} {lease : Lease}
    {outcome : Except Failure α} {state reached left : σ}
    {begun exchanges : List (Exchange engineInterface)}
    (started : run (recorded answers) (Engine.startSession settings isolation) sessions
      (state, []) = ((.ok session, opened), reached, begun))
    (ran : run (recorded answers) (body session) opened (reached, begun) =
      ((outcome, after), left, exchanges))
    (held : after[session]? = some { lease }) :
    ∃ ended last final leaving,
      run (recorded answers) (scope settings isolation body) sessions (state, []) =
        ((ended, last), final, exchanges ++ leaving) ∧
      (EndsWell settings lease outcome ended leaving ↔
        CleanUpCompletes settings lease outcome leaving) := by
  obtain ⟨ended, last, final, leaving, ranLeave, ending⟩ :=
    exists_ending_of_leave answers left settings held outcome exchanges
  refine ⟨ended, last, final, leaving, ?_, ending.endsWell_iff⟩
  unfold scope
  rw [run_bind, started]
  dsimp only
  rw [run_bind, run_attempt, ran]
  exact ranLeave

/-- The commit fails and the rollback too; the connection is given back all the same. -/
theorem scope_endsWell_commitFails :
    let refused : Except Failure Unit := .error (.engine { kind := .engine, text := "" })
    let lease : Lease := { connection := 1, isolation := none }
    ∃ ended last final leaving,
      run (recorded (scripted refused refused (.ok ()))) (scope plainSettings none fun _ => pure ())
        [] ((), []) = ((ended, last), final,
          { call := .adapter (.begin none), reply := .ok lease } :: leaving) ∧
      (EndsWell plainSettings lease (.ok ()) ended leaving ↔
        CleanUpCompletes plainSettings lease (.ok () : Except Failure Unit) leaving) := by
  intro refused lease
  exact scope_endsWell_iff plainSettings none (fun _ => pure ())
    (scripted refused refused (.ok ())) rfl rfl rfl

/-- The rollback is cancelled: the connection is not given back, and the failure of the
action is lost. -/
theorem not_endsWell_rollbackCancelled :
    let lease : Lease := { connection := 1, isolation := none }
    let raised : Except Failure Unit := .error (.caller "orig")
    ∃ ended last final leaving,
      run (recorded (scripted (.ok ()) (.error .cancelled) (.ok ())))
        (scope plainSettings none fun _ => Action.ofOutcome raised) [] ((), []) =
          ((ended, last), final,
            { call := .adapter (.begin none), reply := .ok lease } :: leaving) ∧
      ¬EndsWell plainSettings lease raised ended leaving := by
  intro lease raised
  refine ⟨.error .cancelled, [{ lease }], (), [rolledBack lease (.error .cancelled)], rfl, ?_⟩
  intro endsWell
  cases endsWell.passedOn (.caller "orig") (.inl rfl)

end Transaction

end DocStore
