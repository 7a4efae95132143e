import Mathlib.Data.ENat.Lattice
import DocStore.Proofs.SessionRun

/-!
# The attempts of connecting

Connecting goes through the outcomes of opening the pool one by one, up to the first one
that another attempt cannot mend, or up to the last attempt that is allowed.  It pauses
between two attempts, so after every failure but the last one, and comes to what the last
attempt came to; only a failure that exhausted the attempts is told as an error of the
library.
-/

namespace DocStore

namespace Engine

/-- Whether another attempt may mend an outcome of opening the pool: what the engine's layer
reported, a failure of the system, or a timeout. -/
def isRetryable : Except Failure Unit → Bool
  | .error (.engine failure) => failure.kind ≠ .other
  | _ => false

theorem retryable?_eq_some_iff {failure : Failure} {reported : EngineFailure} :
    retryable? failure = some reported ↔
      failure = .engine reported ∧ reported.kind ≠ .other := by
  cases failure with
  | engine native =>
      obtain ⟨kind, text⟩ := native
      cases kind <;> simp +contextual [retryable?, iff_def, eq_comm]
  | _ => simp [retryable?]

theorem isRetryable_error {failure : Failure} :
    isRetryable (.error failure) = (retryable? failure).isSome := by
  cases failure with
  | engine native =>
      obtain ⟨kind, text⟩ := native
      cases kind <;> rfl
  | _ => rfl

/-! ## The outcomes of opening -/

section

variable {ρ : Type} (answers : EngineAnswers ρ) (delay : Float)

/-- The state below after a number of attempts, with a pause after each. -/
def afterAttempts (state : ρ) : Nat → ρ
  | 0 => state
  | made + 1 =>
      (answers (.ambient (.pause delay))
        (answers (.adapter .openPool) (afterAttempts state made)).2).2

/-- The outcomes of opening the pool, attempt by attempt; the numbers begin with zero. -/
def openings (state : ρ) (number : Nat) : Except Failure Unit :=
  (answers (.adapter .openPool) (afterAttempts answers delay state number)).1

end

/-- The position of the first outcome that is not a retryable failure; positions begin with
one, and without such an outcome there is no bound. -/
noncomputable def firstSettled (outcomes : Nat → Except Failure Unit) : ℕ∞ :=
  sInf {position | ∃ number : Nat,
    position = (number + 1 : Nat) ∧ isRetryable (outcomes number) = false}

/-- The number of the last attempt tells how far connecting gets: the ones before it failed
retryably, and it settles the matter or is the last one that is allowed. -/
theorem min_firstSettled {outcomes : Nat → Except Failure Unit} {attempts last : Nat}
    (within : last < attempts) (before : ∀ number < last, isRetryable (outcomes number) = true)
    (settled : last + 1 < attempts → isRetryable (outcomes last) = false) :
    min (attempts : ℕ∞) (firstSettled outcomes) = (last + 1 : Nat) := by
  have least : ((last + 1 : Nat) : ℕ∞) ≤ firstSettled outcomes := by
    apply le_sInf
    rintro _ ⟨number, rfl, isSettled⟩
    rw [Nat.cast_le]
    by_contra early
    have retryable := before number (by omega)
    rw [isSettled] at retryable
    cases retryable
  rcases Nat.lt_or_ge (last + 1) attempts with early | exhausted
  · have first : firstSettled outcomes = (last + 1 : Nat) :=
      le_antisymm (sInf_le ⟨last, rfl, settled early⟩) least
    rw [first, min_eq_right (Nat.cast_le.mpr early.le)]
  · have same : attempts = last + 1 := by omega
    rw [same, min_eq_left least]

/-! ## Runs -/

section

variable {ρ : Type} {answers : EngineAnswers ρ} {settings : EngineSettings}
  {sessions : List Session}

/-- What connecting comes to after its last attempt. -/
def concluded (settings : EngineSettings) : Except Failure Unit → Except Failure Unit
  | .ok _ => .ok ()
  | .error failure =>
      match retryable? failure with
      | some reported => .error (.store (connectError settings reported))
      | none => .error failure

def opened (outcome : Except Failure Unit) : Exchange engineInterface :=
  { call := .adapter .openPool, reply := outcome }

def paused (delay : Float) : Exchange engineInterface :=
  { call := .ambient (.pause delay), reply := .ok () }

/-- The exchanges of one attempt.  A pause follows a retryable failure, unless no further
attempt is allowed. -/
def attempted (delay : Float) (attempts : Nat) (outcomes : Nat → Except Failure Unit)
    (number : Nat) : List (Exchange engineInterface) :=
  opened (outcomes number) ::
    if isRetryable (outcomes number) ∧ number + 1 ≠ attempts then [paused delay] else []

/-- The outcome of one attempt: what is worth another attempt is a result. -/
def attemptOutcome : Except Failure Unit → Except Failure (Option EngineFailure)
  | .ok _ => .ok none
  | .error failure =>
      match retryable? failure with
      | some reported => .ok (some reported)
      | none => .error failure

theorem run_openPool (state : ρ) (exchanges : List (Exchange engineInterface)) :
    Action.run (recorded answers) (openPool settings) sessions (state, exchanges) =
      ((attemptOutcome (answers (.adapter .openPool) state).1, sessions),
        (answers (.adapter .openPool) state).2,
        exchanges ++ [opened (answers (.adapter .openPool) state).1]) := by
  unfold openPool
  rw [Action.run_bind, Action.run_attempt, EngineAction.run_adapter]
  dsimp only [recorded, opened]
  cases (answers (.adapter .openPool) state).1 with
  | ok _ => rfl
  | error failure =>
      dsimp only [attemptOutcome]
      cases retryable? failure <;> rfl

variable {state : ρ} {next : Option EngineFailure → EngineAction Unit} {number attempts : Nat}
  {exchanges : List (Exchange engineInterface)}

/-- An attempt that settles the matter is the last one. -/
theorem run_openPool_settled (done : next none = pure ())
    (settled : isRetryable (answers (.adapter .openPool) state).1 = false) :
    Action.run (recorded answers) (openPool settings >>= next) sessions (state, exchanges) =
      ((concluded settings (answers (.adapter .openPool) state).1, sessions),
        (answers (.adapter .openPool) state).2,
        exchanges ++ [opened (answers (.adapter .openPool) state).1]) := by
  rw [Action.run_bind, run_openPool]
  cases isOutcome : (answers (.adapter .openPool) state).1 with
  | ok _ =>
      dsimp only [attemptOutcome]
      rw [done]
      rfl
  | error failure =>
      rw [isOutcome, isRetryable_error, Option.isSome_eq_false_iff, Option.isNone_iff_eq_none]
        at settled
      simp only [attemptOutcome, concluded, settled]

theorem run_openPool_retryable {reported : EngineFailure}
    (fails : (answers (.adapter .openPool) state).1 = .error (.engine reported))
    (retryable : reported.kind ≠ .other) :
    Action.run (recorded answers) (openPool settings >>= next) sessions (state, exchanges) =
      Action.run (recorded answers) (next (some reported)) sessions
        ((answers (.adapter .openPool) state).2,
          exchanges ++ [opened (.error (.engine reported))]) := by
  have again : retryable? (.engine reported) = some reported :=
    retryable?_eq_some_iff.mpr ⟨rfl, retryable⟩
  rw [Action.run_bind, run_openPool, fails]
  simp only [attemptOutcome, again]

theorem run_pause
    (pauses : ∀ state, (answers (.ambient (.pause settings.retryDelay)) state).1 = .ok ()) :
    Action.run (recorded answers) (EngineAction.pause settings.retryDelay) sessions
        (state, exchanges) =
      ((.ok (), sessions), (answers (.ambient (.pause settings.retryDelay)) state).2,
        exchanges ++ [paused settings.retryDelay]) := by
  unfold EngineAction.pause paused
  rw [Action.run_perform]
  dsimp only [recorded]
  rw [pauses]

theorem exists_reported {outcome : Except Failure Unit} (retryable : isRetryable outcome = true) :
    ∃ reported, outcome = .error (.engine reported) ∧ reported.kind ≠ .other := by
  cases outcome with
  | ok _ => cases retryable
  | error failure =>
      rw [isRetryable_error, Option.isSome_iff_exists] at retryable
      obtain ⟨reported, same⟩ := retryable
      obtain ⟨rfl, kind⟩ := retryable?_eq_some_iff.mp same
      exact ⟨reported, rfl, kind⟩

theorem attempted_of_settled {delay : Float} {outcomes : Nat → Except Failure Unit}
    (settled : isRetryable (outcomes number) = false) :
    attempted delay attempts outcomes number = [opened (outcomes number)] := by
  simp [attempted, settled]

/-- From an attempt on, with a number of further ones left: the attempts go on as long as
they fail retryably and others are left. -/
theorem run_connectFrom (sessions : List Session) (state : ρ)
    (pauses : ∀ state, (answers (.ambient (.pause settings.retryDelay)) state).1 = .ok ())
    (left number : Nat) (isNumber : number + left + 1 = attempts)
    (exchanges : List (Exchange engineInterface)) :
    let outcomes := openings answers settings.retryDelay state
    ∃ more reached, more ≤ left ∧
      (∀ step < more, isRetryable (outcomes (number + step)) = true) ∧
      (more < left → isRetryable (outcomes (number + more)) = false) ∧
      Action.run (recorded answers) (connectFrom settings (number + 1) left) sessions
          (afterAttempts answers settings.retryDelay state number, exchanges) =
        ((concluded settings (outcomes (number + more)), sessions), reached,
          exchanges ++ (List.range' number (more + 1)).flatMap
            (attempted settings.retryDelay attempts outcomes)) := by
  intro outcomes
  induction left generalizing number exchanges with
  | zero =>
      refine ⟨0, (answers (.adapter .openPool)
        (afterAttempts answers settings.retryDelay state number)).2, Nat.le_refl 0, nofun, nofun,
        ?_⟩
      have isLast : attempted settings.retryDelay attempts outcomes number =
          [opened (outcomes number)] := by
        rw [attempted, if_neg fun again => again.2 isNumber]
      rw [List.range'_one, List.flatMap_singleton, isLast]
      cases retryable : isRetryable (outcomes number) with
      | false => exact run_openPool_settled rfl retryable
      | true =>
          obtain ⟨reported, fails, kind⟩ := exists_reported retryable
          have again : retryable? (.engine reported) = some reported :=
            retryable?_eq_some_iff.mpr ⟨rfl, kind⟩
          unfold connectFrom
          rw [run_openPool_retryable fails kind, Action.run_throw, Nat.add_zero, fails, concluded,
            again]
  | succ left ih =>
      cases retryable : isRetryable (outcomes number) with
      | false =>
          refine ⟨0, (answers (.adapter .openPool)
            (afterAttempts answers settings.retryDelay state number)).2, Nat.zero_le _, nofun,
            fun _ => retryable, ?_⟩
          rw [List.range'_one, List.flatMap_singleton, attempted_of_settled retryable]
          exact run_openPool_settled rfl retryable
      | true =>
          obtain ⟨reported, fails, kind⟩ := exists_reported retryable
          have goesOn : attempted settings.retryDelay attempts outcomes number =
              [opened (outcomes number), paused settings.retryDelay] := by
            rw [attempted, if_pos ⟨retryable, by omega⟩]
          obtain ⟨more, reached, within, before, settled, ran⟩ := ih (number + 1) (by omega)
            (exchanges ++ attempted settings.retryDelay attempts outcomes number)
          have shift (step : Nat) : number + (step + 1) = number + 1 + step := by omega
          refine ⟨more + 1, reached, Nat.succ_le_succ within, ?_, ?_, ?_⟩
          · rintro (_ | step) earlier
            · exact retryable
            · rw [shift]
              exact before step (Nat.lt_of_succ_lt_succ earlier)
          · intro fewer
            rw [shift]
            exact settled (Nat.lt_of_succ_lt_succ fewer)
          · rw [List.range'_succ, List.flatMap_cons, ← List.append_assoc, shift more, ← ran, goesOn]
            change Action.run (recorded answers) (openPool settings >>= _) _ _ = _
            rw [run_openPool_retryable fails kind]
            dsimp only
            rw [Action.run_bind, Action.run_note]
            dsimp only
            rw [Action.run_bind, run_pause pauses, List.append_assoc, fails]
            rfl

/-! ## The course of connecting -/

def isOpening (exchange : Exchange engineInterface) : Bool :=
  match exchange.call with
  | .adapter .openPool => true
  | _ => false

theorem countP_isOpening_attempted (delay : Float) (attempts : Nat)
    (outcomes : Nat → Except Failure Unit) (number : Nat) :
    (attempted delay attempts outcomes number).countP isOpening = 1 := by
  unfold attempted
  split <;> rfl

theorem countP_isOpening_flatMap (delay : Float) (attempts : Nat)
    (outcomes : Nat → Except Failure Unit) (numbers : List Nat) :
    (numbers.flatMap (attempted delay attempts outcomes)).countP isOpening = numbers.length := by
  induction numbers with
  | nil => rfl
  | cons number numbers ih =>
      rw [List.flatMap_cons, List.countP_append, countP_isOpening_attempted, ih, List.length_cons,
        Nat.add_comm]

/-- What connecting does and comes to, from the outcomes of opening the pool. -/
structure ConnectCourse (settings : EngineSettings) (outcomes : Nat → Except Failure Unit)
    (outcome : Except Failure Unit) (exchanges : List (Exchange engineInterface)) : Prop where
  /-- The pool is opened until an outcome settles the matter or the attempts are exhausted. -/
  opens : (exchanges.countP isOpening : ℕ∞) = min (settings.attempts : ℕ∞) (firstSettled outcomes)
  /-- There is one pause after each retryable failure but that of the last attempt allowed. -/
  asks : exchanges = (List.range (exchanges.countP isOpening)).flatMap
    (attempted settings.retryDelay settings.attempts outcomes)
  returns_iff : outcome = .ok () ↔
    ∃ last, last + 1 = exchanges.countP isOpening ∧ outcomes last = .ok ()
  givesUp_iff :
    (∃ last failure, last + 1 = settings.attempts ∧
      exchanges.countP isOpening = settings.attempts ∧
      outcomes last = .error (.engine failure) ∧
      outcome = .error (.store (connectError settings failure))) ↔
    ∀ number < settings.attempts, isRetryable (outcomes number) = true
  passesOn : ∀ last failure, last + 1 = exchanges.countP isOpening →
    outcomes last = .error failure → isRetryable (.error failure) = false →
    outcome = .error failure

theorem ConnectCourse.of_last {outcomes : Nat → Except Failure Unit} {last : Nat}
    (within : last < settings.attempts)
    (before : ∀ number < last, isRetryable (outcomes number) = true)
    (settled : last + 1 < settings.attempts → isRetryable (outcomes last) = false) :
    ConnectCourse settings outcomes (concluded settings (outcomes last))
      ((List.range (last + 1)).flatMap
        (attempted settings.retryDelay settings.attempts outcomes)) := by
  have made : ((List.range (last + 1)).flatMap
      (attempted settings.retryDelay settings.attempts outcomes)).countP isOpening = last + 1 := by
    rw [countP_isOpening_flatMap, List.length_range]
  refine ⟨?_, ?_, ?_, ?_, ?_⟩
  · rw [made, min_firstSettled within before settled]
  · rw [made]
  · rw [made]
    constructor
    · intro returns
      refine ⟨last, rfl, ?_⟩
      cases isLast : outcomes last with
      | ok _ => rfl
      | error failure =>
          rw [isLast, concluded] at returns
          split at returns <;> cases returns
    · rintro ⟨_, same, succeeds⟩
      obtain rfl := Nat.succ.inj same
      rw [succeeds]
      rfl
  · rw [made]
    constructor
    · rintro ⟨_, failure, isLast, exhausted, fails, raised⟩ number early
      obtain rfl := Nat.succ.inj (isLast.trans exhausted.symm)
      rcases Nat.lt_or_eq_of_le (Nat.le_of_lt_succ (exhausted ▸ early)) with earlier | rfl
      · exact before number earlier
      · -- only what is retryable is told as an error of connecting
        rw [fails, isRetryable_error, Option.isSome_iff_exists]
        rw [fails, concluded] at raised
        split at raised
        · rename_i reported same
          exact ⟨reported, same⟩
        · cases raised
    · intro allFail
      have exhausted : last + 1 = settings.attempts := by
        refine Nat.le_antisymm within (Nat.not_lt.mp fun early => ?_)
        rw [allFail last within] at settled
        cases settled early
      obtain ⟨reported, fails, kind⟩ := exists_reported (allFail last within)
      refine ⟨last, reported, exhausted, exhausted, fails, ?_⟩
      rw [fails, concluded, retryable?_eq_some_iff.mpr ⟨rfl, kind⟩]
  · rw [made]
    rintro _ failure same fails passes
    obtain rfl := Nat.succ.inj same
    rw [isRetryable_error, Option.isSome_eq_false_iff, Option.isNone_iff_eq_none] at passes
    rw [fails, concluded, passes]

theorem run_connect (settings : EngineSettings)
    (pauses : ∀ state, (answers (.ambient (.pause settings.retryDelay)) state).1 = .ok ())
    (allowed : 0 < settings.attempts) (sessions : List Session) (state : ρ) :
    ∃ last reached,
      Action.run (recorded answers) (connect settings) sessions (state, []) =
        ((concluded settings (openings answers settings.retryDelay state last), sessions), reached,
          (List.range (last + 1)).flatMap (attempted settings.retryDelay settings.attempts
            (openings answers settings.retryDelay state))) ∧
      last < settings.attempts ∧
      (∀ number < last,
        isRetryable (openings answers settings.retryDelay state number) = true) ∧
      (last + 1 < settings.attempts →
        isRetryable (openings answers settings.retryDelay state last) = false) := by
  obtain ⟨left, isAttempts⟩ := Nat.exists_eq_succ_of_ne_zero allowed.ne'
  obtain ⟨last, reached, within, before, settled, fromFirst⟩ :=
    run_connectFrom sessions state pauses left 0
      ((congrArg Nat.succ (Nat.zero_add left)).trans isAttempts.symm) []
  simp only [Nat.zero_add, List.nil_append] at before settled fromFirst
  refine ⟨last, reached, ?_, ?_, before, ?_⟩
  · have unfolded : connect settings = connectFrom settings 1 left := by
      unfold connect
      rw [isAttempts]
    rw [unfolded, List.range_eq_range']
    exact fromFirst
  · omega
  · intro early
    exact settled (by omega)

/-- Connecting makes at least one attempt if the number that was configured, if any, is at
least one. -/
theorem retriesFor_pos {config : ConnectionConfig}
    (checked : ∀ tries, config.connectRetries = some tries → 1 ≤ tries) (name : String) :
    0 < config.retriesFor name := by
  unfold ConnectionConfig.retriesFor
  cases configured : config.connectRetries with
  | none =>
      dsimp only [Option.getD_none]
      split <;> decide
  | some tries => exact checked tries configured

theorem retriesFor_name (config : ConnectionConfig) (dialect : Dialect) :
    config.retriesFor dialect.name =
      config.connectRetries.getD (match dialect with | .postgres => 3 | .mysql => 1) := by
  cases dialect <;> rfl

/-- Whatever opening the pool comes to, attempt by attempt, connecting takes its course by
these outcomes: with as many attempts as are configured or usual for the dialect, and as long
as pauses do not fail. -/
theorem connect_follows_openings (options : ClientOptions)
    (checked : ∀ tries, options.config.connectRetries = some tries → 1 ≤ tries)
    (dialect : Dialect) (label connectCode queryCode : String) (rowIds : RowIdSource)
    (answers : EngineAnswers ρ)
    (pauses : ∀ state, (answers (.ambient (.pause options.config.retryDelay)) state).1 = .ok ())
    (sessions : List Session) (state : ρ) :
    let settings := EngineSettings.ofOptions dialect label connectCode queryCode rowIds options
    let ran := Action.run (recorded answers) (connect settings) sessions (state, [])
    settings.attempts =
        options.config.connectRetries.getD (match dialect with | .postgres => 3 | .mysql => 1) ∧
      ran.1.2 = sessions ∧
      ConnectCourse settings (openings answers options.config.retryDelay state) ran.1.1
        ran.2.2 := by
  intro settings ran
  obtain ⟨last, reached, isRan, within, before, settled⟩ :=
    run_connect settings pauses (retriesFor_pos checked dialect.name) sessions state
  have course : ConnectCourse settings (openings answers options.config.retryDelay state) _ _ :=
    .of_last within before settled
  rw [show ran = _ from isRan]
  exact ⟨retriesFor_name options.config dialect, rfl, course⟩

/-- An adapter that opens its pool at the third attempt, and counts the attempts. -/
def thirdTime : EngineAnswers Nat
  | .adapter .openPool => fun made =>
      (if made < 2 then .error (.engine { kind := .timeout, text := "timed out" }) else .ok (),
        made + 1)
  | call => fun made => ((Transaction.scripted (.ok ()) (.ok ()) (.ok ()) call ()).1, made)

/-- The usual number of attempts for Postgres is enough for a pool that opens at the third
one. -/
theorem connect_follows_openings_thirdTime :
    let options : ClientOptions :=
      { dialect := .postgres, config := { user := "app", database := "app" } }
    let settings := EngineSettings.native .postgres options
    let ran := Action.run (recorded thirdTime) (connect settings) [] (0, [])
    settings.attempts = 3 ∧ ran.2.2.countP isOpening = 3 ∧ ran.1.1 = .ok () ∧
      ConnectCourse settings (openings thirdTime options.config.retryDelay 0) ran.1.1 ran.2.2 := by
  intro options settings ran
  exact ⟨rfl, rfl, rfl, (connect_follows_openings options nofun .postgres "PostgreSQL" "PG_CONNECT"
    "PG_QUERY" .returned thirdTime (fun _ => rfl) [] 0).2.2⟩

end

end Engine

end DocStore
