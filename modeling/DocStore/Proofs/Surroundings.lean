import DocStore.Program

/-!
# Programs among their surroundings

What a layer below may be asked and what it may reply depend on a state that only the
proofs see: what was read, which connections are out.  A program ensures a goal if, as
long as the replies are those that may come, all that it asks is permitted and what it
comes to meets the goal.  The goal of an action has two parts, one for results and one
for failures.

A run is a program with a function that answers its calls.  What a program ensures
among surroundings holds of every run whose answers belong to these surroundings.
-/

namespace DocStore

/-- What may be asked in a state, and the replies with the states that may follow. -/
structure Surroundings (below : Interface) (ν : Type) where
  permits : ν → below.Call → Prop
  replies : ν → (call : below.Call) → below.Reply call → ν → Prop

variable {below : Interface} {ν σ ρ α β : Type}

/-! ## Programs -/

namespace Program

variable {around : Surroundings below ν} {goal other : α → ν → Prop}

def Ensures (around : Surroundings below ν) : Program below α → ν → (α → ν → Prop) → Prop
  | done result, seen, goal => goal result seen
  | note _ next, seen, goal => next.Ensures around seen goal
  | ask call next, seen, goal =>
      around.permits seen call ∧
        ∀ reply later, around.replies seen call reply later →
          (next reply).Ensures around later goal

theorem ensures_bind {program : Program below α} {next : α → Program below β} {seen : ν}
    {goal : β → ν → Prop} :
    (program.bind next).Ensures around seen goal ↔
      program.Ensures around seen fun result later => (next result).Ensures around later goal := by
  induction program generalizing seen with
  | done result => rfl
  | note entry rest ih => exact ih
  | ask call rest ih =>
      constructor
      · rintro ⟨permitted, continues⟩
        refine ⟨permitted, ?_⟩
        intro reply later replied
        exact (ih reply).mp (continues reply later replied)
      · rintro ⟨permitted, continues⟩
        refine ⟨permitted, ?_⟩
        intro reply later replied
        exact (ih reply).mpr (continues reply later replied)

theorem Ensures.imp {program : Program below α} {seen : ν}
    (ensured : program.Ensures around seen goal)
    (weaker : ∀ result later, goal result later → other result later) :
    program.Ensures around seen other := by
  induction program generalizing seen with
  | done result => exact weaker result seen ensured
  | note entry rest ih => exact ih ensured
  | ask call rest ih =>
      obtain ⟨permitted, continues⟩ := ensured
      refine ⟨permitted, ?_⟩
      intro reply later replied
      exact ih reply (continues reply later replied)

theorem ensures_congr {program : Program below α} {seen : ν}
    (same : ∀ result later, goal result later ↔ other result later) :
    program.Ensures around seen goal ↔ program.Ensures around seen other :=
  ⟨fun ensured => ensured.imp fun result later => (same result later).mp,
    fun ensured => ensured.imp fun result later => (same result later).mpr⟩

/-- What a program ensures among some surroundings it ensures among others, as long as these
permit no less and reply no more in states that are related. -/
theorem Ensures.transfer {μ : Type} {beside : Surroundings below μ} {related : ν → μ → Prop}
    (moves : ∀ seen known call, related seen known → around.permits seen call →
      beside.permits known call ∧ ∀ reply later, beside.replies known call reply later →
        ∃ after, around.replies seen call reply after ∧ related after later)
    {program : Program below α} {seen : ν} {known : μ}
    (ensured : program.Ensures around seen goal) (start : related seen known) :
    program.Ensures beside known fun result later =>
      ∃ after, related after later ∧ goal result after := by
  induction program generalizing seen known with
  | done result => exact ⟨seen, start, ensured⟩
  | note entry rest ih => exact ih ensured start
  | ask call rest ih =>
      obtain ⟨permitted, continues⟩ := ensured
      obtain ⟨allowed, answered⟩ := moves seen known call start permitted
      refine ⟨allowed, ?_⟩
      intro reply later replied
      obtain ⟨after, repliedAfter, still⟩ := answered reply later replied
      exact ih reply (continues reply after repliedAfter) still

end Program

/-! ## Actions -/

namespace Action

variable {around : Surroundings below ν} {action : Action below σ α} {own : σ} {seen : ν}
  {returns : α → σ → ν → Prop} {fails : Failure → σ → ν → Prop}

/-- The goal for a result or the goal for a failure. -/
def Ends (returns : α → σ → ν → Prop) (fails : Failure → σ → ν → Prop) :
    Except Failure α × σ → ν → Prop
  | (.ok result, own), later => returns result own later
  | (.error failure, own), later => fails failure own later

theorem Ends.either {goal : σ → ν → Prop} {ended : Except Failure α × σ} {later : ν}
    (ends : Ends (fun _ => goal) (fun _ => goal) ended later) : goal ended.2 later := by
  obtain ⟨outcome, own⟩ := ended
  cases outcome <;> exact ends

/-- Started with a state of its own, an action asks what is permitted only and meets the
goal for its outcome. -/
def Ensures (around : Surroundings below ν) (action : Action below σ α) (own : σ) (seen : ν)
    (returns : α → σ → ν → Prop) (fails : Failure → σ → ν → Prop) : Prop :=
  Program.Ensures around (action own) seen (Ends returns fails)

theorem Ensures.imp {otherReturns : α → σ → ν → Prop} {otherFails : Failure → σ → ν → Prop}
    (ensured : action.Ensures around own seen returns fails)
    (weakerResult : ∀ result own later, returns result own later → otherReturns result own later)
    (weakerFailure : ∀ failure own later, fails failure own later → otherFails failure own later) :
    action.Ensures around own seen otherReturns otherFails := by
  apply Program.Ensures.imp ensured
  rintro ⟨outcome, own⟩ later
  cases outcome with
  | ok result => exact weakerResult result own later
  | error failure => exact weakerFailure failure own later

@[simp] theorem ensures_pure {result : α} :
    (pure result : Action below σ α).Ensures around own seen returns fails ↔
      returns result own seen := .rfl

@[simp] theorem ensures_throw {failure : Failure} :
    (throw failure : Action below σ α).Ensures around own seen returns fails ↔
      fails failure own seen := .rfl

/-- A step that fails ends an action. -/
@[simp] theorem ensures_bind {next : α → Action below σ β} {returns : β → σ → ν → Prop} :
    (action >>= next).Ensures around own seen returns fails ↔
      action.Ensures around own seen
        (fun result own later => (next result).Ensures around own later returns fails) fails := by
  have unfolded : (action >>= next) own =
      (action own).bind fun outcome => ExceptT.bindCont next outcome.1 outcome.2 := rfl
  unfold Ensures
  rw [unfolded, Program.ensures_bind]
  apply Program.ensures_congr
  rintro ⟨outcome, own⟩ later
  cases outcome <;> rfl

@[simp] theorem ensures_perform {call : below.Call} {read : below.Reply call → Except Failure α} :
    (perform call read).Ensures around own seen returns fails ↔
      around.permits seen call ∧
        ∀ reply later, around.replies seen call reply later →
          Ends returns fails (read reply, own) later := .rfl

@[simp] theorem ensures_note {entry : LogEntry} {returns : Unit → σ → ν → Prop} :
    (note entry).Ensures around own seen returns fails ↔ returns () own seen := .rfl

@[simp] theorem ensures_attempt {returns : Except Failure α → σ → ν → Prop} :
    (attempt action).Ensures around own seen returns fails ↔
      action.Ensures around own seen (fun result => returns (.ok result))
        fun failure => returns (.error failure) := by
  unfold Ensures attempt
  rw [Program.ensures_bind]
  apply Program.ensures_congr
  rintro ⟨outcome, own⟩ later
  cases outcome <;> rfl

@[simp] theorem ensures_recover {handler : Failure → Action below σ α} :
    (recover action handler).Ensures around own seen returns fails ↔
      action.Ensures around own seen returns
        fun failure own later => (handler failure).Ensures around own later returns fails := by
  unfold recover
  rw [ensures_bind, ensures_attempt]
  rfl

@[simp] theorem ensures_ofOutcome {outcome : Except Failure α} :
    (ofOutcome outcome).Ensures around own seen returns fails ↔
      Ends returns fails (outcome, own) seen := .rfl

@[simp] theorem ensures_get {returns : σ → σ → ν → Prop} :
    (get : Action below σ σ).Ensures around own seen returns fails ↔ returns own own seen := .rfl

@[simp] theorem ensures_set {next : σ} {returns : PUnit → σ → ν → Prop} :
    (set next : Action below σ PUnit).Ensures around own seen returns fails ↔
      returns ⟨⟩ next seen := .rfl

@[simp] theorem ensures_modify {step : σ → σ} {returns : PUnit → σ → ν → Prop} :
    (modify step : Action below σ PUnit).Ensures around own seen returns fails ↔
      returns ⟨⟩ (step own) seen := .rfl

theorem ensures_ofFault {outcome : Except Fault α} :
    (ofFault outcome).Ensures around own seen returns fails ↔
      Ends returns fails (outcome.mapError .fault, own) seen := by
  cases outcome <;> rfl

theorem ensures_ofStoreError {outcome : Except StoreError α} :
    (ofStoreError outcome).Ensures around own seen returns fails ↔
      Ends returns fails (outcome.mapError .store, own) seen := by
  cases outcome <;> rfl

theorem ensures_notes {entries : List LogEntry} {outcome : Except Failure α} :
    (notes entries outcome).Ensures around own seen returns fails ↔
      Ends returns fails (outcome, own) seen := by
  induction entries with
  | nil => rfl
  | cons entry entries ih => exact ih

theorem ensures_ofLogged {computation : Logged α} :
    (ofLogged computation).Ensures around own seen returns fails ↔
      Ends returns fails (computation.outcome.1, own) seen :=
  ensures_notes

end Action

/-! ## Runs -/

structure Exchange (below : Interface) where
  call : below.Call
  reply : below.Reply call

def recorded (answers : (call : below.Call) → StateM ρ (below.Reply call)) :
    (call : below.Call) → StateM (ρ × List (Exchange below)) (below.Reply call) :=
  fun call (state, exchanges) =>
    let answered := answers call state
    (answered.1, answered.2, exchanges ++ [{ call, reply := answered.1 }])

/-- Runs a program; its log entries are passed over. -/
def Program.course (answers : (call : below.Call) → StateM ρ (below.Reply call))
    (program : Program below α) (state : ρ) : α × ρ :=
  (program.answer (fun _ => pure ()) answers).run state

namespace Program

variable {answers : (call : below.Call) → StateM ρ (below.Reply call)}

@[simp] theorem course_done (result : α) (state : ρ) :
    (done result).course answers state = (result, state) := rfl

@[simp] theorem course_note (entry : LogEntry) (next : Program below α) (state : ρ) :
    (note entry next).course answers state = next.course answers state := rfl

@[simp] theorem course_ask (call : below.Call) (next : below.Reply call → Program below α)
    (state : ρ) :
    (ask call next).course answers state =
      (next (answers call state).1).course answers (answers call state).2 := rfl

theorem course_bind (program : Program below α) (next : α → Program below β) (state : ρ) :
    (program.bind next).course answers state =
      (next (program.course answers state).1).course answers (program.course answers state).2 := by
  unfold course
  rw [answer_bind]
  rfl

/-- The states of the layer below in which a program asks it for something. -/
def moments (answers : (call : below.Call) → StateM ρ (below.Reply call)) :
    Program below α → ρ → List ρ
  | done _, _ => []
  | note _ next, state => next.moments answers state
  | ask call next, state =>
      state :: (next (answers call state).1).moments answers (answers call state).2

end Program

namespace Action

variable {answers : (call : below.Call) → StateM ρ (below.Reply call)}

/-- The outcome of an action, the state that it keeps, and the state of the layer below
after it. -/
def run (answers : (call : below.Call) → StateM ρ (below.Reply call)) (action : Action below σ α)
    (own : σ) (state : ρ) : (Except Failure α × σ) × ρ :=
  (action own).course answers state

variable {action : Action below σ α} {own : σ} {state : ρ}

@[simp] theorem run_pure (result : α) :
    run answers (pure result : Action below σ α) own state = ((.ok result, own), state) := rfl

@[simp] theorem run_throw (failure : Failure) :
    run answers (throw failure : Action below σ α) own state = ((.error failure, own), state) := rfl

@[simp] theorem run_get :
    run answers (get : Action below σ σ) own state = ((.ok own, own), state) := rfl

@[simp] theorem run_set (next : σ) :
    run answers (set next : Action below σ PUnit) own state = ((.ok ⟨⟩, next), state) := rfl

@[simp] theorem run_modify (step : σ → σ) :
    run answers (modify step : Action below σ PUnit) own state =
      ((.ok ⟨⟩, step own), state) := rfl

@[simp] theorem run_note (entry : LogEntry) :
    run answers (note entry : Action below σ Unit) own state = ((.ok (), own), state) := rfl

@[simp] theorem run_ofOutcome (outcome : Except Failure α) :
    run answers (ofOutcome outcome : Action below σ α) own state = ((outcome, own), state) := rfl

@[simp] theorem run_perform (call : below.Call) (read : below.Reply call → Except Failure α) :
    run answers (perform call read : Action below σ α) own state =
      ((read (answers call state).1, own), (answers call state).2) := rfl

theorem run_bind (next : α → Action below σ β) :
    run answers (action >>= next) own state =
      match run answers action own state with
      | ((.ok value, after), reached) => run answers (next value) after reached
      | ((.error failure, after), reached) => ((.error failure, after), reached) := by
  have unfolded : (action >>= next) own =
      (action own).bind fun outcome => ExceptT.bindCont next outcome.1 outcome.2 := rfl
  unfold run
  rw [unfolded, Program.course_bind]
  rcases (action own).course answers state with ⟨⟨outcome, after⟩, reached⟩
  cases outcome <;> rfl

theorem run_attempt :
    run answers (attempt action) own state =
      match run answers action own state with
      | ((outcome, after), reached) => ((.ok outcome, after), reached) := by
  unfold run attempt
  rw [Program.course_bind]
  rfl

theorem run_recover (handler : Failure → Action below σ α) :
    run answers (recover action handler) own state =
      match run answers action own state with
      | ((.ok value, after), reached) => ((.ok value, after), reached)
      | ((.error failure, after), reached) => run answers (handler failure) after reached := by
  unfold recover
  rw [run_bind, run_attempt]
  rcases run answers action own state with ⟨⟨outcome, after⟩, reached⟩
  cases outcome <;> rfl

end Action

/-- The answers of a run belong to the surroundings: asked what is permitted, they reply
what may come, as long as the states agree. -/
def Surroundings.Covers (around : Surroundings below ν)
    (answers : (call : below.Call) → StateM ρ (below.Reply call)) (agrees : ρ → ν → Prop) : Prop :=
  ∀ state seen call, agrees state seen → around.permits seen call →
    ∃ later, around.replies seen call (answers call state).1 later ∧
      agrees (answers call state).2 later

theorem Program.Ensures.course {answers : (call : below.Call) → StateM ρ (below.Reply call)}
    {around : Surroundings below ν} {agrees : ρ → ν → Prop}
    {program : Program below α} {state : ρ} {seen : ν} {goal : α → ν → Prop}
    (ensured : program.Ensures around seen goal) (covered : around.Covers answers agrees)
    (start : agrees state seen) :
    ∃ later, goal (program.course answers state).1 later ∧
      agrees (program.course answers state).2 later := by
  induction program generalizing state seen with
  | done result => exact ⟨seen, ensured, start⟩
  | note entry rest ih => exact ih ensured start
  | ask call rest ih =>
      obtain ⟨permitted, continues⟩ := ensured
      obtain ⟨later, replied, still⟩ := covered state seen call start permitted
      exact ih _ (continues _ later replied) still

/-- A program asks in states that agree with ones in which it may ask. -/
theorem Program.Ensures.moments {answers : (call : below.Call) → StateM ρ (below.Reply call)}
    {around : Surroundings below ν} {agrees : ρ → ν → Prop}
    {program : Program below α} {state : ρ} {seen : ν} {goal : α → ν → Prop}
    (ensured : program.Ensures around seen goal) (covered : around.Covers answers agrees)
    (start : agrees state seen) :
    ∀ moment ∈ program.moments answers state,
      ∃ known call, agrees moment known ∧ around.permits known call := by
  induction program generalizing state seen with
  | done result => exact nofun
  | note entry rest ih => exact ih ensured start
  | ask call rest ih =>
      obtain ⟨permitted, continues⟩ := ensured
      obtain ⟨later, replied, still⟩ := covered state seen call start permitted
      intro moment isMoment
      rcases List.mem_cons.mp isMoment with rfl | afterwards
      · exact ⟨seen, call, start, permitted⟩
      · exact ih _ (continues _ later replied) still moment afterwards

end DocStore
