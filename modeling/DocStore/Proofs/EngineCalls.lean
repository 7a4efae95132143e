import DocStore.Engine.Verb
import DocStore.Proofs.Surroundings

/-!
# Goals whatever the outcome

For some goals it does not matter whether an action returns or fails.  An action reaches
such a goal if it meets it either way, and it keeps the goal if it meets it whenever it
starts there.  Actions that keep a goal can be put together in any way.

The statements of an engine consist of calls to its adapter and to the clock.  They keep
what these calls keep, and in a session they reach what the call on its connection reaches.
-/

namespace DocStore

variable {below : Interface} {ν σ α β : Type}

/-- A call keeps a goal: it may be made where the goal is met, which it is afterwards. -/
def Surroundings.Keeps (around : Surroundings below ν) (goal : σ → ν → Prop) (call : below.Call) :
    Prop :=
  ∀ own seen, goal own seen →
    around.permits seen call ∧
      ∀ reply later, around.replies seen call reply later → goal own later

namespace Action

variable {around : Surroundings below ν} {action : Action below σ α} {next : α → Action below σ β}
  {own : σ} {seen : ν} {goal other : σ → ν → Prop}

/-- An action meets a goal both when it returns and when it fails. -/
def Reaches (around : Surroundings below ν) (action : Action below σ α) (own : σ) (seen : ν)
    (goal : σ → ν → Prop) : Prop :=
  action.Ensures around own seen (fun _ => goal) fun _ => goal

def Keeps (around : Surroundings below ν) (goal : σ → ν → Prop) (action : Action below σ α) :
    Prop :=
  ∀ own seen, goal own seen → action.Reaches around own seen goal

/-- An action asks for nothing and keeps its state. -/
def Silent (action : Action below σ α) : Prop :=
  ∀ (ν : Type) (around : Surroundings below ν) (goal : σ → ν → Prop), action.Keeps around goal

theorem Reaches.imp (reaches : action.Reaches around own seen goal)
    (weaker : ∀ after later, goal after later → other after later) :
    action.Reaches around own seen other := by
  apply Ensures.imp reaches
  · intro result after later
    exact weaker after later
  · intro failure after later
    exact weaker after later

theorem Reaches.ensures (reaches : action.Reaches around own seen goal) :
    Program.Ensures around (action own) seen fun ended later => goal ended.2 later := by
  apply Program.Ensures.imp reaches
  intro ended later ends
  exact ends.either

theorem Reaches.bind (reaches : action.Reaches around own seen goal)
    (keeps : ∀ result, (next result).Keeps around goal) :
    (action >>= next).Reaches around own seen goal := by
  unfold Reaches
  rw [ensures_bind]
  apply Ensures.imp reaches
  · intro result after later met
    exact keeps result after later met
  · intro failure after later met
    exact met

theorem Keeps.bind (first : action.Keeps around goal)
    (second : ∀ result, (next result).Keeps around goal) : (action >>= next).Keeps around goal := by
  intro own seen met
  exact (first own seen met).bind second

theorem Keeps.attempt (keeps : action.Keeps around goal) :
    (attempt action).Keeps around goal := by
  intro own seen met
  unfold Reaches
  rw [ensures_attempt]
  exact keeps own seen met

theorem Keeps.recover {handler : Failure → Action below σ α} (keeps : action.Keeps around goal)
    (handled : ∀ failure, (handler failure).Keeps around goal) :
    (recover action handler).Keeps around goal := by
  apply Keeps.bind keeps.attempt
  intro outcome
  cases outcome with
  | ok result =>
      intro own seen met
      exact met
  | error failure => exact handled failure

theorem keeps_perform {call : below.Call} {read : below.Reply call → Except Failure α}
    (kept : around.Keeps goal call) : (perform call read).Keeps around goal := by
  intro own seen met
  obtain ⟨permitted, replied⟩ := kept own seen met
  unfold Reaches
  rw [ensures_perform]
  refine ⟨permitted, ?_⟩
  intro reply later isReply
  cases read reply with
  | ok result => exact replied reply later isReply
  | error failure => exact replied reply later isReply

/-! ### Silent actions -/

theorem silent_pure {result : α} : Silent (pure result : Action below σ α) := by
  intro ν around goal own seen met
  exact met

theorem silent_throw {failure : Failure} : Silent (throw failure : Action below σ α) := by
  intro ν around goal own seen met
  exact met

theorem silent_note {entry : LogEntry} : Silent (note entry : Action below σ Unit) := by
  intro ν around goal own seen met
  exact met

theorem silent_ofOutcome {outcome : Except Failure α} :
    Silent (ofOutcome outcome : Action below σ α) := by
  intro ν around goal own seen met
  cases outcome with
  | ok result => exact met
  | error failure => exact met

theorem silent_ofFault {outcome : Except Fault α} :
    Silent (ofFault outcome : Action below σ α) := by
  cases outcome with
  | ok result => exact silent_pure
  | error fault => exact silent_throw

theorem Silent.keeps (silent : Silent action) : action.Keeps around goal :=
  silent ν around goal

theorem Silent.bind (first : Silent action) (second : ∀ result, Silent (next result)) :
    Silent (action >>= next) := by
  intro ν around goal
  exact first.keeps.bind fun result => (second result).keeps

theorem Reaches.answering {toValue : α → Value} (reaches : action.Reaches around own seen goal) :
    (answering toValue action).Reaches around own seen goal :=
  reaches.bind fun _ => silent_pure.keeps

theorem Keeps.answering {toValue : α → Value} (keeps : action.Keeps around goal) :
    (answering toValue action).Keeps around goal :=
  keeps.bind fun _ => silent_pure.keeps

/-! ### The calls that are asked -/

theorem silent_ofReport {outcome : Except IssueReport α} :
    Silent (ofReport outcome : Action below σ α) := by
  cases outcome with
  | ok result => exact silent_pure
  | error report => exact silent_throw

theorem silent_ofLogged {computation : Logged α} :
    Silent (ofLogged computation : Action below σ α) := by
  intro ν around goal own seen met
  unfold Reaches
  rw [ensures_ofLogged]
  cases computation.outcome.1 with
  | ok result => exact met
  | error failure => exact met

end Action

/-- Only some calls may be made, and anything may be replied. -/
def Surroundings.only (asked : below.Call → Prop) : Surroundings below Unit where
  permits _ := asked
  replies _ _ _ _ := True

namespace Action

variable {asked : below.Call → Prop} {action : Action below σ α} {next : α → Action below σ β}

/-- An action makes only some calls and keeps its state. -/
def Asks (asked : below.Call → Prop) (action : Action below σ α) : Prop :=
  ∀ start, action.Keeps (.only asked) fun own _ => own = start

theorem asks_perform {call : below.Call} {read : below.Reply call → Except Failure α}
    (isAsked : asked call) : Asks asked (perform call read : Action below σ α) := by
  intro start
  apply keeps_perform
  intro own _ same
  exact ⟨isAsked, fun _ _ _ => same⟩

theorem Silent.asks (silent : Silent action) : Asks asked action := fun _ => silent.keeps

theorem Asks.bind (first : Asks asked action) (second : ∀ result, Asks asked (next result)) :
    Asks asked (action >>= next) :=
  fun start => (first start).bind fun result => second result start

theorem Asks.attempt (asks : Asks asked action) : Asks asked (attempt action) :=
  fun start => (asks start).attempt

theorem Asks.answering {toValue : α → Value} (asks : Asks asked action) :
    Asks asked (answering toValue action) :=
  asks.bind fun _ => silent_pure.asks

end Action

/-! ## Actions of an engine -/

/-- A call that belongs to no session. -/
def EngineCall.IsOutside : EngineCall → Prop
  | adapter .openPool => True
  | adapter .closePool => True
  | adapter (.execute _ _ none) => True
  | ambient _ => True
  | _ => False

namespace EngineAction

open Action

variable {settings : EngineSettings} {around : Surroundings engineInterface ν}
  {sessions : List Session} {seen : ν} {goal : List Session → ν → Prop} {session : SessionId}
  {found : Session} {sql : String} {parameters : List Value}

theorem reaches_guarded {activity : String} {text : Option String} {action : EngineAction α} :
    (settings.guarded activity text action).Reaches around sessions seen goal ↔
      action.Reaches around sessions seen goal := by
  unfold EngineSettings.guarded Reaches
  rw [ensures_recover]
  rfl

theorem silent_sessionAt : Silent (Engine.sessionAt session) := by
  intro ν around goal own seen met
  unfold Engine.sessionAt Reaches
  rw [ensures_bind, ensures_get]
  cases own[session]? with
  | none => exact met
  | some found => exact met

theorem reaches_sessionAt_bind {next : Session → EngineAction α}
    (isFound : sessions[session]? = some found) :
    (Engine.sessionAt session >>= next).Reaches around sessions seen goal ↔
      (next found).Reaches around sessions seen goal := by
  unfold Engine.sessionAt Reaches
  rw [ensures_bind, ensures_bind, ensures_get]
  simp only [isFound, ensures_pure]

/-- Nothing is done in a session that was never started. -/
theorem reaches_sessionAt_bind_none {next : Session → EngineAction α}
    (missing : sessions[session]? = none) (met : goal sessions seen) :
    (Engine.sessionAt session >>= next).Reaches around sessions seen goal := by
  unfold Engine.sessionAt Reaches
  rw [ensures_bind, ensures_bind, ensures_get]
  simp only [missing, ensures_throw]
  exact met

section

variable (clock : around.Keeps goal (.ambient .elapsed))
include clock

theorem reaches_profiled {action : EngineAction Execution}
    (reaches : action.Reaches around sessions seen goal) :
    (Engine.profiled settings sql parameters action).Reaches around sessions seen goal := by
  unfold Engine.profiled
  split
  · exact reaches
  · unfold Reaches
    rw [ensures_bind, ensures_attempt]
    apply Ensures.imp reaches
    · intro execution after later met
      refine Keeps.bind (keeps_perform clock) ?_ after later met
      intro duration
      dsimp only
      split
      · exact (silent_note.bind fun _ => silent_pure).keeps
      · exact silent_pure.keeps
    · intro failure after later met
      dsimp only
      split
      · exact (silent_note.bind fun _ => silent_throw).keeps after later met
      · exact met

theorem reaches_execute (isFound : sessions[session]? = some found)
    (reaches : (adapter (.execute sql parameters (some found.lease))).Reaches around sessions seen
      goal) :
    (Engine.execute settings sql parameters (some session)).Reaches around sessions seen goal := by
  unfold Engine.execute Engine.leaseOf
  dsimp only
  rw [bind_assoc, reaches_sessionAt_bind isFound, pure_bind, reaches_guarded]
  exact reaches_profiled clock reaches

theorem keeps_execute (statement : around.Keeps goal (.adapter (.execute sql parameters none))) :
    (Engine.execute settings sql parameters none).Keeps around goal := by
  intro sessions seen met
  unfold Engine.execute Engine.leaseOf
  dsimp only
  rw [pure_bind, reaches_guarded]
  exact reaches_profiled clock (keeps_perform statement sessions seen met)

theorem keeps_query (statement : around.Keeps goal (.adapter (.execute sql parameters none))) :
    (Engine.query settings sql parameters none).Keeps around goal :=
  (keeps_execute clock statement).bind fun _ => silent_pure.keeps

theorem keeps_insert {count : Value}
    (statement : around.Keeps goal (.adapter (.execute sql parameters none))) :
    (Engine.insert settings sql parameters count none).Keeps around goal :=
  (keeps_execute clock statement).bind fun _ => silent_ofFault.keeps

theorem keeps_direct (statement : around.Keeps goal (.adapter (.execute sql [] none))) :
    (Engine.perform settings sql).Keeps around goal :=
  (keeps_query clock statement).bind fun _ => silent_pure.keeps

theorem keeps_tableExists {table : String}
    (statement : around.Keeps goal (.adapter (.execute
      (Statement.tableExists settings.dialect table).sql
      (Statement.tableExists settings.dialect table).params none))) :
    (Engine.tableExists settings table).Keeps around goal := by
  apply Keeps.bind (keeps_query clock statement)
  intro rows
  cases rows with
  | nil => exact silent_pure.keeps
  | cons row rows => exact silent_ofFault.keeps.bind fun _ => silent_pure.keeps

end

/-! ### Outside of sessions -/

section

variable (outside : ∀ call, EngineCall.IsOutside call → around.Keeps goal call)
include outside

theorem keeps_query_outside : (Engine.query settings sql parameters none).Keeps around goal :=
  keeps_query (outside (.ambient .elapsed) trivial)
    (outside (.adapter (.execute sql parameters none)) trivial)

theorem keeps_tableExists_outside {table : String} :
    (Engine.tableExists settings table).Keeps around goal :=
  keeps_tableExists (outside (.ambient .elapsed) trivial)
    (outside (.adapter (.execute _ _ none)) trivial)

theorem keeps_direct_outside : (Engine.perform settings sql).Keeps around goal :=
  keeps_direct (outside (.ambient .elapsed) trivial)
    (outside (.adapter (.execute sql [] none)) trivial)

theorem keeps_listTables : (Engine.listTables settings).Keeps around goal :=
  (keeps_query_outside outside).bind fun _ => silent_ofFault.keeps

theorem keeps_createIndex {table : String} {keys : Members} {options : IndexOptions} :
    (Engine.createIndex settings table keys options).Keeps around goal := by
  apply silent_ofFault.keeps.bind
  intro fields
  apply silent_ofFault.keeps.bind
  intro directions
  exact (keeps_direct_outside outside).bind fun _ => silent_pure.keeps

theorem keeps_listIndexes {table : String} :
    (Engine.listIndexes settings table).Keeps around goal :=
  (keeps_query_outside outside).bind fun _ => silent_ofOutcome.keeps

theorem keeps_openPool : (Engine.openPool settings).Keeps around goal := by
  apply Keeps.bind (keeps_perform (outside (.adapter .openPool) trivial)).attempt
  intro outcome
  cases outcome with
  | ok _ => exact silent_note.keeps.bind fun _ => silent_pure.keeps
  | error failure =>
      dsimp only
      split
      · exact silent_pure.keeps
      · exact silent_throw.keeps

theorem keeps_connectFrom (attempt left : Nat) :
    (Engine.connectFrom settings attempt left).Keeps around goal := by
  induction left generalizing attempt with
  | zero =>
      apply Keeps.bind (keeps_openPool outside)
      intro failed
      cases failed with
      | none => exact silent_pure.keeps
      | some failure => exact silent_throw.keeps
  | succ left ih =>
      apply Keeps.bind (keeps_openPool outside)
      intro failed
      cases failed with
      | none => exact silent_pure.keeps
      | some failure =>
          apply Keeps.bind silent_note.keeps
          intro _
          apply Keeps.bind (keeps_perform (outside (.ambient (.pause settings.retryDelay)) trivial))
          intro _
          exact ih (attempt + 1)

theorem keeps_connect : (Engine.connect settings).Keeps around goal := by
  unfold Engine.connect
  split
  · exact silent_pure.keeps
  · exact keeps_connectFrom outside 1 _

theorem keeps_disconnect : (Engine.disconnect settings).Keeps around goal :=
  (keeps_perform (outside (.adapter .closePool) trivial)).bind fun _ => silent_note.keeps

theorem keeps_isHealthy : (Engine.isHealthy settings).Keeps around goal := by
  have probe := outside (.adapter (.execute "SELECT 1" [] none)) trivial
  apply Keeps.bind (keeps_perform probe).attempt
  intro outcome
  cases outcome with
  | ok _ => exact silent_pure.keeps
  | error failure =>
      dsimp only
      split
      · exact silent_note.keeps.bind fun _ => silent_pure.keeps
      · exact silent_throw.keeps

end

end EngineAction

end DocStore
