import DocStore.Proofs.Lending
import DocStore.Proofs.SessionRun

/-!
# Connections of sessions

A history of sessions runs on a pool through one of the adapters.  After each of its calls
the connections that are out of the pool are those of the sessions that were started and
not released since, whichever native calls failed.
-/

namespace DocStore

/-! ## What a pool was asked for -/

def goesOut (connection : ConnectionId) (exchange : Exchange poolInterface) : Bool :=
  exchange.call.takesOut? exchange.reply = some connection

def comesIn (connection : ConnectionId) (exchange : Exchange poolInterface) : Bool :=
  exchange.call.bringsIn? = some connection

def timesOut (connection : ConnectionId) (exchanges : List (Exchange poolInterface)) : Nat :=
  exchanges.countP (goesOut connection)

def timesIn (connection : ConnectionId) (exchanges : List (Exchange poolInterface)) : Nat :=
  exchanges.countP (comesIn connection)

theorem count_erase_mem {out : List ConnectionId} {connection : ConnectionId}
    (isOut : connection ∈ out) (other : ConnectionId) :
    out.count other =
      (if connection = other then 1 else 0) + (out.erase connection).count other := by
  rw [(List.perm_cons_erase isOut).count_eq, List.count_cons, Nat.add_comm]
  simp

theorem count_after? {exchange : Exchange poolInterface} {out later : List ConnectionId}
    (moved : exchange.call.after? out exchange.reply = some later) (connection : ConnectionId) :
    out.count connection + (if goesOut connection exchange then 1 else 0) =
      (if comesIn connection exchange then 1 else 0) + later.count connection := by
  obtain ⟨call, reply⟩ := exchange
  have broughtIn {given : ConnectionId}
      (moved : (if given ∈ out then some (out.erase given) else none) = some later) :
      out.count connection = (if given = connection then 1 else 0) + later.count connection := by
    split at moved
    · rename_i isOut
      cases moved
      exact count_erase_mem isOut connection
    · cases moved
  have takenOut {taken : ConnectionId} (moved : some (taken :: out) = some later) :
      out.count connection + (if taken = connection then 1 else 0) = later.count connection := by
    cases moved
    rw [List.count_cons]
    simp
  unfold goesOut comesIn
  cases call with
  | checkOut pool =>
      cases reply with
      | ok taken => simpa [PoolCall.takesOut?, PoolCall.bringsIn?] using takenOut moved
      | error failure =>
          cases moved
          simp [PoolCall.takesOut?, PoolCall.bringsIn?]
  | borrow pool =>
      cases reply with
      | ok taken => simpa [PoolCall.takesOut?, PoolCall.bringsIn?] using takenOut moved
      | error failure =>
          cases moved
          simp [PoolCall.takesOut?, PoolCall.bringsIn?]
  | checkIn pool given =>
      simpa [PoolCall.takesOut?, PoolCall.bringsIn?] using broughtIn moved
  | giveBack pool given succeeded =>
      simpa [PoolCall.takesOut?, PoolCall.bringsIn?] using broughtIn moved
  | _ =>
      cases moved
      simp [PoolCall.takesOut?, PoolCall.bringsIn?]

/-- A connection came in as often as it went out, but for the times that it is still out. -/
theorem timesOut_eq {exchanges : List (Exchange poolInterface)} {out : List ConnectionId}
    (isOut : connectionsOut? exchanges = some out) (connection : ConnectionId) :
    timesOut connection exchanges = timesIn connection exchanges + out.count connection := by
  -- the induction needs any connections to be out at the start
  have general : ∀ start, exchanges.foldlM
      (fun out exchange => exchange.call.after? out exchange.reply) start = some out →
        start.count connection + timesOut connection exchanges =
          timesIn connection exchanges + out.count connection := by
    clear isOut
    induction exchanges with
    | nil =>
        intro start same
        cases same
        exact Nat.add_comm _ _
    | cons exchange exchanges ih =>
        intro start folded
        rw [List.foldlM_cons] at folded
        obtain ⟨middle, moved, rest⟩ := Option.bind_eq_some_iff.mp folded
        have first := count_after? moved connection
        have others := ih middle rest
        simp only [timesOut, timesIn, List.countP_cons] at others ⊢
        omega
  simpa using general [] isOut

/-! ## Sessions on an adapter -/

inductive SessionVerb where
  | execute (sql : String) (parameters : List Value) (session : Option SessionId)
  | startSession (isolation : Option String)
  | commit (session : SessionId)
  | rollback (session : SessionId)
  | release (session : SessionId)

namespace SessionVerb

/-- Carries a verb out.  Only a session that is started is a result. -/
def perform (settings : EngineSettings) : SessionVerb → EngineAction (Option SessionId)
  | execute sql parameters session => do
      let _ ← Engine.execute settings sql parameters session
      pure none
  | startSession isolation => do
      let session ← Engine.startSession settings isolation
      pure (some session)
  | commit session => do
      Engine.commit settings session
      pure none
  | rollback session => do
      Engine.rollback settings session
      pure none
  | release session => do
      Engine.release settings session
      pure none

/-- The sessions that were started and not released, after a verb and its outcome. -/
def opened (current : List SessionId) :
    SessionVerb → Except Failure (Option SessionId) → List SessionId
  | startSession _, .ok (some session) => session :: current
  | release session, _ => current.erase session
  | _, _ => current

end SessionVerb

/-- An adapter that conserves connections. -/
def leasing : Surroundings engineInterface (List ConnectionId) where
  permits out
    | .adapter call => call.IsProper out
    | .ambient _ => True
  replies out
    | .adapter call, reply, later => call.Moves out reply later
    | .ambient _, _, later => later = out

def connectionOf (sessions : List Session) (session : SessionId) : ConnectionId :=
  (sessions[session]?.map fun found => found.lease.connection).getD 0

/-- The connections that are out are those of the sessions that are open, which are the
ones that were not released. -/
structure Conserved (sessions : List Session) (current : List SessionId)
    (out : List ConnectionId) : Prop where
  nodup : current.Nodup
  isOpen : ∀ session, session ∈ current ↔ ∃ lease, sessions[session]? = some { lease : Session }
  perm : out.Perm (current.map (connectionOf sessions))

namespace EngineAction

open Action

variable {settings : EngineSettings} {α : Type} {sessions : List Session}
  {out : List ConnectionId} {session : SessionId}

def Still (action : EngineAction α) : Prop :=
  ∀ sessions out, action.Ensures leasing sessions out
    (fun _ after later => after = sessions ∧ later = out)
    fun _ after later => after = sessions ∧ later = out

theorem Still.bind {β : Type} {action : EngineAction α} {next : α → EngineAction β}
    (first : Still action) (second : ∀ value, Still (next value)) : Still (action >>= next) := by
  intro sessions out
  rw [ensures_bind]
  apply Ensures.imp (first sessions out)
  · rintro value _ _ ⟨rfl, rfl⟩
    exact second value _ _
  · rintro failure _ _ ended
    exact ended

theorem Still.pure {value : α} : Still (Pure.pure value) := by
  intro sessions out
  exact ⟨rfl, rfl⟩

theorem Still.throw {failure : Failure} : Still (MonadExcept.throw failure : EngineAction α) := by
  intro sessions out
  exact ⟨rfl, rfl⟩

theorem Still.note {entry : LogEntry} : Still (Action.note entry) := by
  intro sessions out
  exact ⟨rfl, rfl⟩

theorem still_sessionAt : Still (Engine.sessionAt session) := by
  intro sessions out
  unfold Engine.sessionAt
  rw [ensures_bind, ensures_get]
  cases sessions[session]? with
  | none => exact ⟨rfl, rfl⟩
  | some found => exact ⟨rfl, rfl⟩

theorem still_leaseOf (session : Option SessionId) : Still (Engine.leaseOf session) := by
  cases session with
  | none => exact Still.pure
  | some session => exact Still.bind still_sessionAt fun found => Still.pure

theorem ensures_guarded {activity : String} {sql : Option String} {action : EngineAction α}
    {returns : α → List Session → List ConnectionId → Prop}
    {fails : Failure → List Session → List ConnectionId → Prop} :
    (settings.guarded activity sql action).Ensures leasing sessions out returns fails ↔
      action.Ensures leasing sessions out returns
        fun failure => fails (settings.wrap activity sql failure) := by
  unfold EngineSettings.guarded
  rw [ensures_recover]
  rfl

theorem Still.guarded {activity : String} {sql : Option String} {action : EngineAction α}
    (still : Still action) : Still (settings.guarded activity sql action) := by
  intro sessions out
  rw [ensures_guarded]
  exact still sessions out

theorem Still.attempt {action : EngineAction α} (still : Still action) :
    Still (Action.attempt action) := by
  intro sessions out
  rw [ensures_attempt]
  exact still sessions out

theorem still_elapsed : Still elapsed := by
  intro sessions out
  unfold elapsed
  rw [ensures_perform]
  refine ⟨trivial, ?_⟩
  intro duration later moved
  exact ⟨rfl, moved⟩

theorem Still.profiled {sql : String} {parameters : List Value}
    {action : EngineAction Execution} (still : Still action) :
    Still (Engine.profiled settings sql parameters action) := by
  unfold Engine.profiled
  split
  · exact still
  · apply Still.bind still.attempt
    intro outcome
    cases outcome with
    | error failure =>
        dsimp only
        split
        · exact Still.bind Still.note fun _ => Still.throw
        · exact Still.throw
    | ok execution =>
        apply Still.bind still_elapsed
        intro duration
        dsimp only
        split
        · exact Still.bind Still.note fun _ => Still.pure
        · exact Still.pure

theorem still_adapter {call : AdapterCall} (proper : ∀ out, call.IsProper out)
    (moves : ∀ out reply later, call.Moves out reply later → later = out) :
    Still (adapter call) := by
  intro sessions out
  unfold adapter
  rw [ensures_perform]
  refine ⟨proper out, ?_⟩
  intro reply later moved
  cases moves out reply later moved
  cases reply with
  | ok result => exact ⟨rfl, rfl⟩
  | error failure => exact ⟨rfl, rfl⟩

theorem still_execute {sql : String} {parameters : List Value} (session : Option SessionId) :
    Still (Engine.execute settings sql parameters session) := by
  apply Still.bind (still_leaseOf session)
  intro lease
  apply Still.guarded
  apply Still.profiled
  apply still_adapter
  · intro out
    trivial
  · intro out reply later moved
    exact moved

theorem still_commit : Still (Engine.commit settings session) := by
  apply Still.bind still_sessionAt
  intro found
  apply Still.guarded
  apply still_adapter
  · intro out
    trivial
  · intro out reply later moved
    exact moved

theorem still_rollback : Still (Engine.rollback settings session) := by
  apply Still.bind still_sessionAt
  intro found
  apply Still.guarded
  apply still_adapter
  · intro out
    trivial
  · intro out reply later moved
    exact moved

/-- A session that is started takes one connection out; one that is not takes none. -/
theorem ensures_startSession {isolation : Option String} :
    (Engine.startSession settings isolation).Ensures leasing sessions out
      (fun session after later => ∃ lease, session = sessions.length ∧
        after = sessions ++ [{ lease : Session }] ∧ later = lease.connection :: out)
      fun _ after later => after = sessions ∧ later = out := by
  unfold Engine.startSession
  rw [ensures_bind, ensures_ofStoreError]
  cases IsolationLevel.read? isolation with
  | error error => exact ⟨rfl, rfl⟩
  | ok level =>
      change Ensures leasing _ sessions out _ _
      rw [ensures_bind, ensures_guarded]
      unfold adapter
      rw [ensures_perform]
      refine ⟨trivial, ?_⟩
      intro reply later moved
      cases reply with
      | ok lease => exact ⟨lease, rfl, rfl, moved⟩
      | error failure => exact ⟨rfl, moved⟩

/-- The first release of a session brings its connection in. -/
theorem ensures_release {lease : Lease} (held : sessions[session]? = some { lease : Session })
    (isOut : lease.connection ∈ out) :
    (Engine.release settings session).Ensures leasing sessions out
      (fun _ after later => after = sessions.set session { lease, released := true } ∧
        later = out.erase lease.connection)
      fun _ after later => after = sessions.set session { lease, released := true } ∧
        later = out.erase lease.connection := by
  unfold Engine.release Engine.sessionAt
  rw [ensures_bind, ensures_bind, ensures_get]
  simp only [held, ensures_pure, Bool.false_eq_true, if_false]
  rw [ensures_bind, ensures_modify, ensures_guarded]
  unfold adapter
  rw [ensures_perform]
  refine ⟨isOut, ?_⟩
  intro reply later moved
  cases reply with
  | ok _ => exact ⟨rfl, moved⟩
  | error failure => exact ⟨rfl, moved⟩

theorem ensures_release_again (released : ∀ lease, sessions[session]? ≠ some { lease : Session }) :
    (Engine.release settings session).Ensures leasing sessions out
      (fun _ after later => after = sessions ∧ later = out)
      fun _ after later => after = sessions ∧ later = out := by
  unfold Engine.release Engine.sessionAt
  rw [ensures_bind, ensures_bind, ensures_get]
  cases found : sessions[session]? with
  | none => exact ⟨rfl, rfl⟩
  | some known =>
      obtain ⟨lease, flag⟩ := known
      cases flag with
      | false => exact absurd found (released lease)
      | true => exact ⟨rfl, rfl⟩

end EngineAction

/-! ## One verb -/

namespace Conserved

variable {sessions : List Session} {current : List SessionId} {out : List ConnectionId}
  {session : SessionId} {lease : Lease}

theorem connection_mem (conserved : Conserved sessions current out)
    (held : sessions[session]? = some { lease : Session }) : lease.connection ∈ out := by
  have isOpen : session ∈ current := (conserved.isOpen session).mpr ⟨lease, held⟩
  have connection : connectionOf sessions session = lease.connection := by
    simp [connectionOf, held]
  rw [conserved.perm.mem_iff, ← connection]
  exact List.mem_map_of_mem isOpen

theorem exists_held_append {lease : Lease} {session : SessionId} :
    (∃ other, (sessions ++ [{ lease : Session }])[session]? = some { lease := other : Session }) ↔
      session = sessions.length ∨
        ∃ other, sessions[session]? = some { lease := other : Session } := by
  rw [List.getElem?_append]
  split
  · rename_i before
    exact (or_iff_right (Nat.ne_of_lt before)).symm
  · rename_i notBefore
    constructor
    · rintro ⟨other, last⟩
      have single := (List.getElem?_eq_some_iff.mp last).1
      rw [List.length_singleton] at single
      have atMost : session ≤ sessions.length :=
        Nat.sub_eq_zero_iff_le.mp (Nat.lt_one_iff.mp single)
      exact .inl (Nat.le_antisymm atMost (Nat.not_lt.mp notBefore))
    · rintro (rfl | ⟨other, held⟩)
      · exact ⟨lease, by simp⟩
      · exact absurd (List.getElem?_eq_some_iff.mp held).1 notBefore

theorem start (conserved : Conserved sessions current out) (lease : Lease) :
    Conserved (sessions ++ [{ lease : Session }]) (sessions.length :: current)
      (lease.connection :: out) := by
  have inside {session : SessionId} (isOpen : session ∈ current) : session < sessions.length := by
    obtain ⟨lease, held⟩ := (conserved.isOpen session).mp isOpen
    exact (List.getElem?_eq_some_iff.mp held).1
  refine ⟨?_, ?_, ?_⟩
  · refine List.nodup_cons.mpr ⟨?_, conserved.nodup⟩
    intro isOpen
    exact absurd (inside isOpen) (Nat.lt_irrefl _)
  · intro session
    rw [List.mem_cons, conserved.isOpen, exists_held_append]
  · have new : connectionOf (sessions ++ [{ lease : Session }]) sessions.length =
        lease.connection := by
      simp [connectionOf]
    have old : current.map (connectionOf (sessions ++ [{ lease : Session }])) =
        current.map (connectionOf sessions) := by
      apply List.map_congr_left
      intro session isOpen
      simp only [connectionOf, List.getElem?_append_left (inside isOpen)]
    rw [List.map_cons, new, old]
    exact conserved.perm.cons _

theorem connectionOf_set (held : sessions[session]? = some { lease : Session }) :
    connectionOf (sessions.set session { lease, released := true }) = connectionOf sessions := by
  funext other
  unfold connectionOf
  rw [List.getElem?_set]
  split
  · rename_i same
    subst same
    have inside := (List.getElem?_eq_some_iff.mp held).1
    rw [if_pos inside, held]
    rfl
  · rfl

theorem release (conserved : Conserved sessions current out)
    (held : sessions[session]? = some { lease : Session }) :
    Conserved (sessions.set session { lease, released := true }) (current.erase session)
      (out.erase lease.connection) := by
  refine ⟨conserved.nodup.erase session, ?_, ?_⟩
  · intro other
    rw [conserved.nodup.mem_erase_iff, conserved.isOpen, List.getElem?_set]
    split
    · rename_i same
      subst same
      have inside := (List.getElem?_eq_some_iff.mp held).1
      simp [inside]
    · rename_i different
      simp [Ne.symm different]
  · have isOpen : session ∈ current := (conserved.isOpen session).mpr ⟨lease, held⟩
    have connection : connectionOf sessions session = lease.connection := by
      simp [connectionOf, held]
    have first : out.Perm
        (lease.connection :: (current.erase session).map (connectionOf sessions)) := by
      rw [← connection, ← List.map_cons]
      exact conserved.perm.trans ((List.perm_cons_erase isOpen).map _)
    have erased := first.erase lease.connection
    rwa [List.erase_cons_head, ← connectionOf_set held] at erased

theorem release_again (conserved : Conserved sessions current out)
    (released : ∀ lease, sessions[session]? ≠ some { lease : Session }) :
    Conserved sessions (current.erase session) out := by
  have notOpen : session ∉ current := by
    intro isOpen
    obtain ⟨lease, held⟩ := (conserved.isOpen session).mp isOpen
    exact released lease held
  rwa [List.erase_of_not_mem notOpen]

end Conserved

namespace SessionVerb

open Action EngineAction

variable {settings : EngineSettings} {sessions : List Session} {current : List SessionId}
  {out : List ConnectionId}

theorem ensures_still {α : Type} {action : EngineAction α} (still : Still action)
    (conserved : Conserved sessions current out) :
    (action >>= fun _ => (pure none : EngineAction (Option SessionId))).Ensures leasing sessions out
      (fun _ after later => Conserved after current later)
      fun _ after later => Conserved after current later := by
  rw [ensures_bind]
  apply Ensures.imp (still sessions out)
  · rintro result _ _ ⟨rfl, rfl⟩
    exact conserved
  · rintro failure _ _ ⟨rfl, rfl⟩
    exact conserved

/-- Every verb conserves connections, whatever it comes to. -/
theorem ensures_perform (conserved : Conserved sessions current out) (verb : SessionVerb) :
    (verb.perform settings).Ensures leasing sessions out
      (fun result after later => Conserved after (verb.opened current (.ok result)) later)
      fun failure after later =>
        Conserved after (verb.opened current (.error failure)) later := by
  cases verb with
  | execute sql parameters session => exact ensures_still (still_execute session) conserved
  | commit session => exact ensures_still still_commit conserved
  | rollback session => exact ensures_still still_rollback conserved
  | startSession isolation =>
      unfold perform
      rw [ensures_bind]
      apply Ensures.imp ensures_startSession
      · rintro session _ _ ⟨lease, rfl, rfl, rfl⟩
        exact conserved.start lease
      · rintro failure _ _ ⟨rfl, rfl⟩
        exact conserved
  | release session =>
      unfold perform
      rw [ensures_bind]
      by_cases held : ∃ lease, sessions[session]? = some { lease : Session }
      · obtain ⟨lease, held⟩ := held
        apply Ensures.imp (ensures_release held (conserved.connection_mem held))
        · rintro result _ _ ⟨rfl, rfl⟩
          exact conserved.release held
        · rintro failure _ _ ⟨rfl, rfl⟩
          exact conserved.release held
      · have released : ∀ lease, sessions[session]? ≠ some { lease : Session } := by
          intro lease same
          exact held ⟨lease, same⟩
        apply Ensures.imp (ensures_release_again released)
        · rintro result _ _ ⟨rfl, rfl⟩
          exact conserved.release_again released
        · rintro failure _ _ ⟨rfl, rfl⟩
          exact conserved.release_again released

end SessionVerb

/-! ## Histories on a pool -/

def nativeAdapter (config : ConnectionConfig) :
    Dialect → (call : AdapterCall) → PoolAction call.Result
  | .mysql => MySql.adapt config
  | .postgres => Postgres.adapt config

theorem conserves_nativeAdapter (config : ConnectionConfig) (dialect : Dialect) :
    Conserves (nativeAdapter config dialect) := by
  cases dialect with
  | mysql => exact MySql.conserves config
  | postgres => exact Postgres.conserves config

section Histories

variable {ρ : Type}

abbrev PoolAnswers (ρ : Type) :=
  (call : poolInterface.Call) → StateM ρ (poolInterface.Reply call)

/-- A pool as it was told to be, and the exchanges with it so far. -/
structure PoolState (ρ : Type) where
  inUse : Option PoolId
  state : ρ
  exchanges : List (Exchange poolInterface)

variable (answers : PoolAnswers ρ) (ambient : (call : AmbientCall) → StateM ρ call.Reply)
  (adapt : (call : AdapterCall) → PoolAction call.Result)

/-- An adapter on a pool answers the calls of sessions. -/
def onPool : EngineAnswers (PoolState ρ)
  | .adapter call => fun pool =>
      let ended := Action.run (recorded answers) (adapt call) pool.inUse
        (pool.state, pool.exchanges)
      (ended.1.1, { inUse := ended.1.2, state := ended.2.1, exchanges := ended.2.2 })
  | .ambient call => fun pool =>
      let answered := ambient call pool.state
      (answered.1, { pool with state := answered.2 })

structure SessionHistory (ρ : Type) where
  sessions : List Session
  /-- The sessions that were started and not released since. -/
  current : List SessionId
  pool : PoolState ρ

/-- The outcome of a verb after a history. -/
def SessionHistory.outcome (settings : EngineSettings) (before : SessionHistory ρ)
    (verb : SessionVerb) : (Except Failure (Option SessionId) × List Session) × PoolState ρ :=
  Action.run (onPool answers ambient adapt) (verb.perform settings) before.sessions before.pool

def SessionHistory.next (settings : EngineSettings) (before : SessionHistory ρ)
    (verb : SessionVerb) : SessionHistory ρ :=
  let ended := before.outcome answers ambient adapt settings verb
  { sessions := ended.1.2, current := verb.opened before.current ended.1.1, pool := ended.2 }

def SessionHistory.after (settings : EngineSettings) (verbs : List SessionVerb)
    (before : SessionHistory ρ) : SessionHistory ρ :=
  verbs.foldl (SessionHistory.next answers ambient adapt settings) before

/-- A history that has not begun, with an open pool. -/
def SessionHistory.start (pool : PoolId) (state : ρ) : SessionHistory ρ :=
  { sessions := [], current := [], pool := { inUse := some pool, state, exchanges := [] } }

/-- The pool is open, and some connections are out of it. -/
def PoolState.Lends (pool : PoolId) (reached : PoolState ρ) (out : List ConnectionId) : Prop :=
  reached.inUse = some pool ∧ connectionsOut? reached.exchanges = some out

/-- A pool takes connections back, and native calls fail with ordinary failures only. -/
def PoolAnswers.Tolerable (answers : PoolAnswers ρ) : Prop :=
  ∀ call state, PoolCall.Tolerable call (answers call state).1

variable {answers ambient adapt}

theorem covers_lending (tolerable : answers.Tolerable) :
    lending.Covers (recorded answers) fun reached out =>
      connectionsOut? reached.2 = some out := by
  rintro ⟨state, exchanges⟩ out call isOut permitted
  obtain ⟨later, moved⟩ := PoolCall.exists_after permitted (answers call state).1
  refine ⟨later, ⟨tolerable call state, moved⟩, ?_⟩
  exact (connectionsOut?_append isOut _).trans moved

theorem covers_leasing (tolerable : answers.Tolerable) (conserves : Conserves adapt)
    (pool : PoolId) :
    leasing.Covers (onPool answers ambient adapt) (PoolState.Lends pool) := by
  rintro ⟨inUse, state, exchanges⟩ out call ⟨isOpen, isOut⟩ permitted
  cases call with
  | ambient call => exact ⟨out, rfl, isOpen, isOut⟩
  | adapter call =>
      cases isOpen
      -- the exchanges of the adapter call continue those that there were
      obtain ⟨later, ended, stillOut⟩ := Program.Ensures.course
        (conserves pool out call permitted) (covers_lending tolerable)
        (show connectionsOut? (state, exchanges).2 = some out from isOut)
      refine ⟨later, ?_⟩
      change call.Moves out (Action.run (recorded answers) (adapt call) (some pool)
        (state, exchanges)).1.1 later ∧ _
      change Action.Ends _ _ (Action.run (recorded answers) (adapt call) (some pool)
        (state, exchanges)).1 later at ended
      change connectionsOut? (Action.run (recorded answers) (adapt call) (some pool)
        (state, exchanges)).2.2 = some later at stillOut
      unfold PoolState.Lends onPool
      dsimp only
      generalize Action.run (recorded answers) (adapt call) (some pool) (state, exchanges) = run
        at ended stillOut ⊢
      obtain ⟨⟨outcome, inUse⟩, reached⟩ := run
      cases outcome with
      | ok result => exact ⟨ended.2, ended.1, stillOut⟩
      | error failure => exact ⟨ended.2, ended.1, stillOut⟩

def SessionHistory.Lends (pool : PoolId) (reached : SessionHistory ρ) (out : List ConnectionId) :
    Prop :=
  reached.pool.Lends pool out ∧ Conserved reached.sessions reached.current out

theorem SessionHistory.exists_lends_next (tolerable : answers.Tolerable)
    (conserves : Conserves adapt) {settings : EngineSettings} {pool : PoolId}
    {before : SessionHistory ρ} {out : List ConnectionId} (lends : before.Lends pool out)
    (verb : SessionVerb) :
    ∃ later, (before.next answers ambient adapt settings verb).Lends pool later := by
  obtain ⟨isLent, conserved⟩ := lends
  obtain ⟨later, ended, stillLent⟩ := Program.Ensures.course
    (verb.ensures_perform conserved) (covers_leasing tolerable conserves pool) isLent
  refine ⟨later, stillLent, ?_⟩
  change Action.Ends _ _ (before.outcome answers ambient adapt settings verb).1 later at ended
  unfold SessionHistory.next
  generalize before.outcome answers ambient adapt settings verb = run at ended ⊢
  obtain ⟨⟨outcome, sessions⟩, reached⟩ := run
  cases outcome with
  | ok result => exact ended
  | error failure => exact ended

theorem SessionHistory.exists_lends_after (tolerable : answers.Tolerable)
    (conserves : Conserves adapt) {settings : EngineSettings} {pool : PoolId}
    (verbs : List SessionVerb) {before : SessionHistory ρ} {out : List ConnectionId}
    (lends : before.Lends pool out) :
    ∃ later, (before.after answers ambient adapt settings verbs).Lends pool later := by
  induction verbs generalizing before out with
  | nil => exact ⟨out, lends⟩
  | cons verb verbs ih =>
      obtain ⟨middle, stillLent⟩ := exists_lends_next tolerable conserves lends verb
      exact ih stillLent

/-- Some connections are out of the pool of a history: they are those of the open sessions,
no connection came in that was not out, and each came in as often as it went out and is
not out any more. -/
structure SessionHistory.Balanced (reached : SessionHistory ρ) (out : List ConnectionId) :
    Prop where
  areOut : connectionsOut? reached.pool.exchanges = some out
  ofSessions : out.Perm (reached.current.map (connectionOf reached.sessions))
  returned : ∀ connection, timesOut connection reached.pool.exchanges =
    timesIn connection reached.pool.exchanges + out.count connection

theorem SessionHistory.Lends.balanced {reached : SessionHistory ρ} {pool : PoolId}
    {out : List ConnectionId} (lends : reached.Lends pool out) : reached.Balanced out :=
  ⟨lends.1.2, lends.2.perm, timesOut_eq lends.1.2⟩

/-- A session that does not start takes no connection out. -/
theorem SessionHistory.Lends.next_of_startSession (tolerable : answers.Tolerable)
    (conserves : Conserves adapt) {settings : EngineSettings} {pool : PoolId}
    {reached : SessionHistory ρ} {out : List ConnectionId} (lends : reached.Lends pool out)
    {isolation : Option String} {failure : Failure}
    (fails : (reached.outcome answers ambient adapt settings (.startSession isolation)).1.1 =
      .error failure) :
    (reached.next answers ambient adapt settings (.startSession isolation)).Lends pool out := by
  obtain ⟨isLent, conserved⟩ := lends
  have ensured : ((SessionVerb.startSession isolation).perform settings).Ensures leasing
      reached.sessions out (fun _ _ _ => True)
      fun _ after later => after = reached.sessions ∧ later = out := by
    unfold SessionVerb.perform
    rw [Action.ensures_bind]
    apply Action.Ensures.imp EngineAction.ensures_startSession
    · intro session after later started
      trivial
    · intro failure after later ended
      exact ended
  have covers : leasing.Covers (onPool answers ambient adapt) (PoolState.Lends pool) :=
    covers_leasing tolerable conserves pool
  obtain ⟨later, ended, stillLent⟩ := Program.Ensures.course ensured covers isLent
  change Action.Ends _ _
    (reached.outcome answers ambient adapt settings (.startSession isolation)).1 later at ended
  change (reached.outcome answers ambient adapt settings (.startSession isolation)).2.Lends pool
    later at stillLent
  unfold SessionHistory.next
  generalize reached.outcome answers ambient adapt settings (.startSession isolation) = run
    at ended stillLent fails ⊢
  obtain ⟨⟨outcome, sessions⟩, final⟩ := run
  cases fails
  obtain ⟨rfl, rfl⟩ := ended
  exact ⟨stillLent, conserved⟩

/-- After each verb of a history the connections are balanced, whatever failed, and a
session that does not start leaves out what was out before. -/
theorem connections_conserved (settings : EngineSettings) (config : ConnectionConfig)
    (dialect : Dialect) {answers : PoolAnswers ρ} (tolerable : answers.Tolerable)
    (ambient : (call : AmbientCall) → StateM ρ call.Reply) (pool : PoolId) (state : ρ)
    (verbs : List SessionVerb) :
    let adapt := nativeAdapter config dialect
    let reached := (SessionHistory.start pool state).after answers ambient adapt settings verbs
    ∃ out, reached.Balanced out ∧
      ∀ isolation failure,
        (reached.outcome answers ambient adapt settings (.startSession isolation)).1.1 =
            .error failure →
          (reached.next answers ambient adapt settings (.startSession isolation)).Balanced out := by
  intro adapt reached
  have conserves : Conserves adapt := conserves_nativeAdapter config dialect
  have begins : (SessionHistory.start pool state).Lends pool [] := by
    refine ⟨⟨rfl, rfl⟩, List.nodup_nil, ?_, .nil⟩
    intro session
    simp [SessionHistory.start]
  obtain ⟨out, lends⟩ : ∃ out, reached.Lends pool out :=
    SessionHistory.exists_lends_after tolerable conserves verbs begins
  refine ⟨out, lends.balanced, ?_⟩
  intro isolation failure fails
  exact (lends.next_of_startSession tolerable conserves fails).balanced

end Histories

/-- A pool with one connection, which cannot end transactions or change the isolation level. -/
def faultyPool : PoolAnswers Unit
  | .create _ => pure (.ok 0)
  | .checkOut _ => pure (.ok 7)
  | .borrow _ => pure (.ok 7)
  | .isClosed _ => pure false
  | .execute .. => pure (.ok { hasRows := false, rowCount := .int 0, lastRowId := .null })
  | .fetchAll _ => pure (.ok [])
  | .commit _ => pure (.error (.engine { kind := .engine, text := "lost" }))
  | .rollback _ => pure (.error (.engine { kind := .engine, text := "lost" }))
  | .setIsolation .. => pure (.error (.engine { kind := .engine, text := "lost" }))
  | .openWithin .. => pure (.ok ())
  | .close _ => pure (.ok ())
  | .awaitClosed _ => pure (.ok ())
  | .checkIn .. => pure (.ok ())
  | .giveBack .. => pure (.ok ())
  | .begin _ => pure (.ok ())

theorem faultyPool_tolerable : faultyPool.Tolerable := by
  intro call state
  cases call with
  | commit connection | rollback connection | setIsolation connection level =>
      rintro failure same
      cases same
      rfl
  | begin connection | execute connection sql parameters | fetchAll connection =>
      rintro failure same
      cases same
  | checkIn pool connection => exact rfl
  | _ => trivial

/-- One session is released twice after its commit failed, and another cannot start. -/
theorem connections_conserved_faultyPool :
    let adapt := nativeAdapter { user := "app", database := "app" } .postgres
    let ambient := fun call => Transaction.scripted (.ok ()) (.ok ()) (.ok ()) (.ambient call)
    let settings := Transaction.plainSettings
    let reached := (SessionHistory.start 0 ()).after faultyPool ambient adapt settings
      [.startSession none, .commit 0, .startSession (some "SERIALIZABLE"), .release 0, .release 0]
    faultyPool.Tolerable ∧ reached.current = [] ∧
    ∃ out, reached.Balanced out ∧
      ∀ isolation failure,
        (reached.outcome faultyPool ambient adapt settings (.startSession isolation)).1.1 =
            .error failure →
          (reached.next faultyPool ambient adapt settings (.startSession isolation)).Balanced
            out :=
  ⟨faultyPool_tolerable, rfl, connections_conserved Transaction.plainSettings
    { user := "app", database := "app" } .postgres faultyPool_tolerable
    (fun call => Transaction.scripted (.ok ()) (.ok ()) (.ok ()) (.ambient call)) 0 ()
    [.startSession none, .commit 0, .startSession (some "SERIALIZABLE"), .release 0, .release 0]⟩

end DocStore
