import DocStore.Pool.MySql
import DocStore.Pool.Postgres
import DocStore.Proofs.Surroundings

/-!
# Connections out of a pool

The connections that are out of a pool follow from the exchanges with it: a connection
that is checked out or borrowed goes out, and one that is checked in or given back comes
in again.  A connection that is not out cannot come in.

Each call to an adapter has one effect on the connections that are out: a session that is
begun takes its connection out, its release brings it in, and nothing else changes them.
Both adapters keep to this as long as the pool takes connections back and native calls
fail with ordinary failures only.
-/

namespace DocStore

/-! ## The exchanges with a pool -/

namespace PoolCall

/-- The connections that are out after a call and its reply. -/
def after? (out : List ConnectionId) : (call : PoolCall) → call.Reply → Option (List ConnectionId)
  | checkOut _, .ok connection => some (connection :: out)
  | borrow _, .ok connection => some (connection :: out)
  | checkIn _ connection, _ => if connection ∈ out then some (out.erase connection) else none
  | giveBack _ connection _, _ => if connection ∈ out then some (out.erase connection) else none
  | _, _ => some out

def bringsIn? : PoolCall → Option ConnectionId
  | checkIn _ connection => some connection
  | giveBack _ connection _ => some connection
  | _ => none

/-- The connection that a call takes out, if it succeeds. -/
def takesOut? : (call : PoolCall) → call.Reply → Option ConnectionId
  | checkOut _, .ok connection => some connection
  | borrow _, .ok connection => some connection
  | _, _ => none

/-- A pool takes back what is checked in, and native calls on connections fail with
ordinary failures only. -/
def Tolerable : (call : PoolCall) → call.Reply → Prop
  | checkIn .., reply => reply = .ok ()
  | begin _, reply => ∀ failure, reply = .error failure → failure.isOrdinary = true
  | commit _, reply => ∀ failure, reply = .error failure → failure.isOrdinary = true
  | rollback _, reply => ∀ failure, reply = .error failure → failure.isOrdinary = true
  | setIsolation .., reply => ∀ failure, reply = .error failure → failure.isOrdinary = true
  | execute .., reply => ∀ failure, reply = .error failure → failure.isOrdinary = true
  | fetchAll _, reply => ∀ failure, reply = .error failure → failure.isOrdinary = true
  | _, _ => True

end PoolCall

/-- The connections that are out of a pool after some exchanges, if none came in that was
not out. -/
def connectionsOut? (exchanges : List (Exchange poolInterface)) : Option (List ConnectionId) :=
  exchanges.foldlM (fun out exchange => exchange.call.after? out exchange.reply) []

/-- A pool that connections are taken out of and brought in. -/
def lending : Surroundings poolInterface (List ConnectionId) where
  permits out call := ∀ connection, call.bringsIn? = some connection → connection ∈ out
  replies out call reply later :=
    call.Tolerable reply ∧ call.after? out reply = some later

theorem PoolCall.exists_after {out : List ConnectionId} {call : PoolCall}
    (isOut : ∀ connection, call.bringsIn? = some connection → connection ∈ out)
    (reply : call.Reply) : ∃ later, call.after? out reply = some later := by
  cases call with
  | checkIn pool connection => exact ⟨_, if_pos (isOut connection rfl)⟩
  | giveBack pool connection succeeded => exact ⟨_, if_pos (isOut connection rfl)⟩
  | checkOut pool => cases reply <;> exact ⟨_, rfl⟩
  | borrow pool => cases reply <;> exact ⟨_, rfl⟩
  | _ => exact ⟨_, rfl⟩

theorem PoolCall.after_of_brings {out later : List ConnectionId} {call : PoolCall}
    {reply : call.Reply} {connection : ConnectionId} (brings : call.bringsIn? = some connection)
    (isOut : connection ∈ out) (moved : call.after? out reply = some later) :
    later = out.erase connection := by
  cases call with
  | checkIn pool given =>
      cases brings
      simpa [PoolCall.after?, isOut] using moved.symm
  | giveBack pool given succeeded =>
      cases brings
      simpa [PoolCall.after?, isOut] using moved.symm
  | _ => cases brings

theorem connectionsOut?_append {exchanges : List (Exchange poolInterface)}
    {out : List ConnectionId} (isOut : connectionsOut? exchanges = some out)
    (exchange : Exchange poolInterface) :
    connectionsOut? (exchanges ++ [exchange]) = exchange.call.after? out exchange.reply := by
  unfold connectionsOut? at isOut ⊢
  rw [List.foldlM_append, isOut]
  change (exchange.call.after? out exchange.reply >>= pure) = _
  rw [bind_pure]

/-! ## The effects of adapter calls -/

namespace AdapterCall

def Moves (out : List ConnectionId) :
    (call : AdapterCall) → Except Failure call.Result → List ConnectionId → Prop
  | begin _, .ok lease, later => later = lease.connection :: out
  | release lease, _, later => later = out.erase lease.connection
  | _, _, later => later = out

/-- The pool stays open, and only what is out is released. -/
def IsProper (out : List ConnectionId) : AdapterCall → Prop
  | openPool => False
  | closePool => False
  | release lease => lease.connection ∈ out
  | _ => True

end AdapterCall

/-- An adapter conserves connections: its calls have the effects that they should. -/
def Conserves (adapt : (call : AdapterCall) → PoolAction call.Result) : Prop :=
  ∀ pool out call, AdapterCall.IsProper out call →
    (adapt call).Ensures lending (some pool) out
      (fun result own later => own = some pool ∧ call.Moves out (.ok result) later)
      fun failure own later => own = some pool ∧ call.Moves out (.error failure) later

/-! ## Native calls -/

namespace PoolAction

variable {α : Type} {pool : PoolId} {own : Option PoolId} {out : List ConnectionId}
  {connection : ConnectionId}

/-- An action keeps the pool and the connections that are out, and fails with ordinary
failures only. -/
def Native (action : PoolAction α) : Prop :=
  ∀ own out, action.Ensures lending own out (fun _ after later => after = own ∧ later = out)
    fun failure after later => (after = own ∧ later = out) ∧ failure.isOrdinary = true

theorem Native.bind {β : Type} {action : PoolAction α} {next : α → PoolAction β}
    (first : Native action) (second : ∀ value, Native (next value)) :
    Native (action >>= next) := by
  intro own out
  rw [Action.ensures_bind]
  apply Action.Ensures.imp (first own out)
  · rintro value _ _ ⟨rfl, rfl⟩
    exact second value _ _
  · rintro failure after later ended
    exact ended

theorem Native.pure {value : α} : Native (Pure.pure value) := by
  intro own out
  exact ⟨rfl, rfl⟩

theorem native_perform {call : PoolCall} {read : call.Reply → Except Failure α}
    (stays : call.bringsIn? = none) (moves : ∀ out reply, call.after? out reply = some out)
    (ordinary : ∀ reply failure, call.Tolerable reply → read reply = .error failure →
      failure.isOrdinary = true) : Native (Action.perform call read) := by
  intro own out
  rw [Action.ensures_perform]
  constructor
  · intro connection brings
    cases stays.symm.trans brings
  · rintro reply later ⟨tolerable, moved⟩
    cases (moves out reply).symm.trans moved
    cases isRead : read reply with
    | ok result => exact ⟨rfl, rfl⟩
    | error failure => exact ⟨⟨rfl, rfl⟩, ordinary reply failure tolerable isRead⟩

theorem native_begin : Native (begin connection) :=
  native_perform rfl (fun _ _ => rfl) fun _ failure tolerable => tolerable failure

theorem native_commit : Native (commit connection) :=
  native_perform rfl (fun _ _ => rfl) fun _ failure tolerable => tolerable failure

theorem native_rollback : Native (rollback connection) :=
  native_perform rfl (fun _ _ => rfl) fun _ failure tolerable => tolerable failure

theorem native_setIsolation {level : Option IsolationLevel} :
    Native (setIsolation connection level) :=
  native_perform rfl (fun _ _ => rfl) fun _ failure tolerable => tolerable failure

theorem native_isClosed : Native (isClosed connection) := by
  refine native_perform rfl (fun _ _ => rfl) ?_
  intro reply failure _ isRead
  cases isRead

theorem native_execute {sql : String} {parameters : List Value} :
    Native (execute connection sql parameters) :=
  native_perform rfl (fun _ _ => rfl) fun _ failure tolerable => tolerable failure

theorem native_fetchAll : Native (fetchAll connection) :=
  native_perform rfl (fun _ _ => rfl) fun _ failure tolerable => tolerable failure

theorem native_runOn {sql : String} {parameters : List Value} :
    Native (runOn connection sql parameters) := by
  apply Native.bind native_execute
  intro cursor
  dsimp only
  split
  · apply Native.bind native_fetchAll
    intro rows
    exact Native.pure
  · apply Native.bind Native.pure
    intro rows
    exact Native.pure

/-! ## Taking out and bringing in -/

section

variable {fails : Failure → Option PoolId → List ConnectionId → Prop}

theorem ensures_required {label : String}
    {returns : PoolId → Option PoolId → List ConnectionId → Prop}
    (met : returns pool (some pool) out) :
    (required label).Ensures lending (some pool) out returns fails := met

theorem ensures_taking {call : PoolCall} {read : call.Reply → Except Failure ConnectionId}
    {returns : ConnectionId → Option PoolId → List ConnectionId → Prop}
    (brings : call.bringsIn? = none)
    (takes : ∀ reply, call.after? out reply =
      some ((read reply).toOption.elim out fun connection => connection :: out))
    (taken : ∀ connection, returns connection own (connection :: out))
    (failed : ∀ failure, fails failure own out) :
    (Action.perform call read).Ensures lending own out returns fails := by
  rw [Action.ensures_perform]
  constructor
  · intro connection isBrought
    cases brings.symm.trans isBrought
  · rintro reply later ⟨_, moved⟩
    have after := (takes reply).symm.trans moved
    cases isRead : read reply with
    | ok connection =>
        rw [isRead] at after
        cases after
        exact taken connection
    | error failure =>
        rw [isRead] at after
        cases after
        exact failed failure

theorem ensures_checkOut {returns : ConnectionId → Option PoolId → List ConnectionId → Prop}
    (taken : ∀ connection, returns connection own (connection :: out))
    (failed : ∀ failure, fails failure own out) :
    (checkOut pool).Ensures lending own out returns fails := by
  apply ensures_taking rfl _ taken failed
  intro reply
  cases reply <;> rfl

theorem ensures_borrow {returns : ConnectionId → Option PoolId → List ConnectionId → Prop}
    (taken : ∀ connection, returns connection own (connection :: out))
    (failed : ∀ failure, fails failure own out) :
    (borrow pool).Ensures lending own out returns fails := by
  apply ensures_taking rfl _ taken failed
  intro reply
  cases reply <;> rfl

theorem ensures_checkIn {returns : Unit → Option PoolId → List ConnectionId → Prop}
    (isOut : connection ∈ out) (met : returns () own (out.erase connection)) :
    (checkIn pool connection).Ensures lending own out returns fails := by
  unfold checkIn
  rw [Action.ensures_perform]
  constructor
  · intro other brings
    cases brings
    exact isOut
  · rintro reply later ⟨succeeds, moved⟩
    have returned : reply = .ok () := succeeds
    have after : later = out.erase connection := PoolCall.after_of_brings rfl isOut moved
    rw [returned, after]
    exact met

/-- A connection that is given back comes in, whatever the pool replies. -/
theorem ensures_giveBack {succeeded : Bool}
    {returns : Unit → Option PoolId → List ConnectionId → Prop}
    (isOut : connection ∈ out) (met : returns () own (out.erase connection))
    (failed : ∀ failure, fails failure own (out.erase connection)) :
    (giveBack pool connection succeeded).Ensures lending own out returns fails := by
  unfold giveBack
  rw [Action.ensures_perform]
  constructor
  · intro other brings
    cases brings
    exact isOut
  · rintro reply later ⟨_, moved⟩
    have after : later = out.erase connection := PoolCall.after_of_brings rfl isOut moved
    rw [after]
    cases reply with
    | ok _ => exact met
    | error failure => exact failed failure

end

/-- The connection comes in after an action in any case. -/
theorem Native.always {action : PoolAction α} (native : Native action)
    (isOut : connection ∈ out) :
    (always action (checkIn pool connection)).Ensures lending own out
      (fun _ after later => after = own ∧ later = out.erase connection)
      fun _ after later => after = own ∧ later = out.erase connection := by
  unfold PoolAction.always
  rw [Action.ensures_bind, Action.ensures_attempt]
  apply Action.Ensures.imp (native own out)
  · rintro result _ _ ⟨rfl, rfl⟩
    rw [Action.ensures_bind]
    exact ensures_checkIn isOut ⟨rfl, rfl⟩
  · rintro failure _ _ ⟨⟨rfl, rfl⟩, _⟩
    rw [Action.ensures_bind]
    exact ensures_checkIn isOut ⟨rfl, rfl⟩

/-- The connection comes in after a failure of an action. -/
theorem Native.onFailure {action : PoolAction α} (native : Native action)
    (isOut : connection ∈ out) :
    (onFailure action (checkIn pool connection)).Ensures lending own out
      (fun _ after later => after = own ∧ later = out)
      fun _ after later => after = own ∧ later = out.erase connection := by
  unfold PoolAction.onFailure
  rw [Action.ensures_recover]
  apply Action.Ensures.imp (native own out)
  · rintro result _ _ ended
    exact ended
  · rintro failure _ _ ⟨⟨rfl, rfl⟩, ordinary⟩
    dsimp only
    rw [if_pos ordinary, Action.ensures_bind]
    exact ensures_checkIn isOut ⟨rfl, rfl⟩

theorem Native.ensures {action : PoolAction α} (native : Native action) :
    action.Ensures lending own out (fun _ after later => after = own ∧ later = out)
      fun _ after later => after = own ∧ later = out := by
  apply Action.Ensures.imp (native own out)
  · intro result after later ended
    exact ended
  · intro failure after later ended
    exact ended.1

/-- Taking a connection out for a session: it stays out if the session begins. -/
theorem ensures_lend {label : String} {action : ConnectionId → PoolAction Unit}
    {isolation : Option IsolationLevel} (native : ∀ connection, Native (action connection)) :
    (do
      let pool ← required label
      let connection ← checkOut pool
      onFailure (action connection) (checkIn pool connection)
      pure ({ connection, isolation } : Lease) : PoolAction Lease).Ensures lending (some pool) out
      (fun lease after later => after = some pool ∧ later = lease.connection :: out)
      fun _ after later => after = some pool ∧ later = out := by
  rw [Action.ensures_bind]
  apply ensures_required
  rw [Action.ensures_bind]
  apply ensures_checkOut
  · intro connection
    rw [Action.ensures_bind]
    apply Action.Ensures.imp ((native connection).onFailure List.mem_cons_self)
    · rintro _ _ _ ⟨rfl, rfl⟩
      exact ⟨rfl, rfl⟩
    · rintro failure _ _ ⟨rfl, rfl⟩
      exact ⟨rfl, List.erase_cons_head ..⟩
  · intro failure
    exact ⟨rfl, rfl⟩

end PoolAction

/-! ## The two adapters -/

open PoolAction

namespace MySql

theorem native_executeOn {connection : ConnectionId} {sql : String} {parameters : List Value} :
    Native (executeOn connection sql parameters) := by
  apply Native.bind native_runOn
  rintro ⟨cursor, rows⟩
  exact Native.pure

theorem native_beginOn {connection : ConnectionId} {isolation : Option IsolationLevel} :
    Native (beginOn connection isolation) := by
  cases isolation with
  | none => exact native_begin
  | some level =>
      apply Native.bind native_execute
      intro cursor
      exact native_begin

theorem conserves (config : ConnectionConfig) : Conserves (adapt config) := by
  intro pool out call isProper
  cases call with
  | openPool => exact isProper.elim
  | closePool => exact isProper.elim
  | execute sql parameters lease =>
      cases lease with
      | some lease => exact native_executeOn.ensures
      | none =>
          refine (Action.ensures_bind).mpr (ensures_required ?_)
          rw [Action.ensures_bind]
          apply ensures_checkOut
          · intro connection
            apply Action.Ensures.imp (native_executeOn.always List.mem_cons_self)
            · rintro result _ _ ⟨rfl, rfl⟩
              exact ⟨rfl, List.erase_cons_head ..⟩
            · rintro failure _ _ ⟨rfl, rfl⟩
              exact ⟨rfl, List.erase_cons_head ..⟩
          · intro failure
            exact ⟨rfl, rfl⟩
  | begin isolation => exact ensures_lend fun connection => native_beginOn
  | commit lease => exact native_commit.ensures
  | rollback lease => exact native_rollback.ensures
  | release lease =>
      refine (Action.ensures_bind).mpr (ensures_required ?_)
      exact ensures_checkIn isProper ⟨rfl, rfl⟩

end MySql

namespace Postgres

theorem native_executeOn {connection : ConnectionId} {sql : String} {parameters : List Value} :
    Native (executeOn connection sql parameters) := by
  apply Native.bind native_runOn
  rintro ⟨cursor, rows⟩
  exact Native.pure

theorem native_applyIsolation {connection : ConnectionId} {isolation : Option IsolationLevel} :
    Native (applyIsolation connection isolation) := by
  cases isolation with
  | none => exact Native.pure
  | some level => exact native_setIsolation

theorem native_resetIsolation {lease : Lease} : Native (resetIsolation lease) := by
  unfold resetIsolation
  cases lease.isolation with
  | none => exact Native.pure
  | some level =>
      apply Native.bind native_isClosed
      intro closed
      cases closed with
      | true => exact Native.pure
      | false => exact native_setIsolation

/-- A borrowed connection comes in again, whatever it is used for. -/
theorem ensures_withBorrowed {α : Type} {pool : PoolId} {own : Option PoolId}
    {out : List ConnectionId} {body : ConnectionId → PoolAction α}
    (native : ∀ connection, Native (body connection)) :
    (withBorrowed pool body).Ensures lending own out
      (fun _ after later => after = own ∧ later = out)
      fun _ after later => after = own ∧ later = out := by
  unfold withBorrowed
  rw [Action.ensures_bind]
  apply ensures_borrow
  · intro connection
    rw [Action.ensures_bind, Action.ensures_attempt]
    have comesIn : (connection :: out).erase connection = out := List.erase_cons_head ..
    apply Action.Ensures.imp (native connection own (connection :: out))
    · rintro result _ _ ⟨rfl, rfl⟩
      refine (Action.ensures_bind).mpr (ensures_giveBack List.mem_cons_self ?_ ?_)
      · exact ⟨rfl, comesIn⟩
      · intro failure
        exact ⟨rfl, comesIn⟩
    · rintro failure _ _ ⟨⟨rfl, rfl⟩, _⟩
      refine (Action.ensures_bind).mpr (ensures_giveBack List.mem_cons_self ?_ ?_)
      · exact ⟨rfl, comesIn⟩
      · intro other
        exact ⟨rfl, comesIn⟩
  · intro failure
    exact ⟨rfl, rfl⟩

theorem conserves (config : ConnectionConfig) : Conserves (adapt config) := by
  intro pool out call isProper
  cases call with
  | openPool => exact isProper.elim
  | closePool => exact isProper.elim
  | execute sql parameters lease =>
      cases lease with
      | some lease => exact native_executeOn.ensures
      | none =>
          refine (Action.ensures_bind).mpr (ensures_required ?_)
          exact ensures_withBorrowed fun connection => native_executeOn
  | begin isolation => exact ensures_lend fun connection => native_applyIsolation
  | commit lease => exact native_commit.ensures
  | rollback lease => exact native_rollback.ensures
  | release lease =>
      refine (Action.ensures_bind).mpr (ensures_required ?_)
      exact native_resetIsolation.always isProper

end Postgres

end DocStore
