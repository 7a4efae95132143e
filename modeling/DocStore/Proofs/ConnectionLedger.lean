import DocStore.Proofs.EngineCalls
import DocStore.Proofs.SessionConnections

/-!
# Acts on pooled connections

A ledger holds the connections that are out of a pool and the connections that were acted
on, one for each act: a statement, a fetch, or the beginning or the end of a transaction.
The pool answers as it likes, as long as it lends no connection that is out.

The adapters act on the connection of a session when they are told to, and on no other
connection then.  All else that they do concerns connections that were not out when they
began.
-/

namespace DocStore

/-! ## The ledger of a pool -/

namespace PoolCall

/-- The connection that a call acts on.  The transaction of a connection that is given back
is ended by the pool. -/
def actsOn? : PoolCall → Option ConnectionId
  | begin connection => some connection
  | commit connection => some connection
  | rollback connection => some connection
  | execute connection _ _ => some connection
  | fetchAll connection => some connection
  | giveBack _ connection _ => some connection
  | _ => none

/-- The connections that are out after a call.  One that is brought in is not out any more,
whatever the pool replies. -/
def leavesOut (out : List ConnectionId) (call : PoolCall) (reply : call.Reply) :
    List ConnectionId :=
  match call.bringsIn? with
  | some connection => out.erase connection
  | none => (call.takesOut? reply).elim out fun connection => connection :: out

end PoolCall

/-- A pool that lends no connection that is out. -/
def lendingApart : Surroundings poolInterface (List ConnectionId) where
  permits _ _ := True
  replies out call reply later :=
    (∀ connection, call.takesOut? reply = some connection → connection ∉ out) ∧
      later = call.leavesOut out reply

structure Ledger where
  out : List ConnectionId
  acts : List ConnectionId

namespace Ledger

def after (seen : Ledger) (call : PoolCall) (reply : call.Reply) : Ledger :=
  { out := call.leavesOut seen.out reply, acts := seen.acts ++ call.actsOn?.toList }

/-- What was out is out, and what was done since was done on connections of some kind. -/
def Extends (allowed : ConnectionId → Prop) (seen later : Ledger) : Prop :=
  (∀ connection ∈ seen.out, connection ∈ later.out) ∧
    ∃ acts, later.acts = seen.acts ++ acts ∧ ∀ connection ∈ acts, allowed connection

/-- Nothing was done on connections that were out. -/
def Spares (seen later : Ledger) : Prop :=
  seen.Extends (fun connection => connection ∉ seen.out) later

/-- Something was done on a connection, and nothing on any other one. -/
def ActsOn (connection : ConnectionId) (seen later : Ledger) : Prop :=
  seen.Extends (fun other => other = connection) later ∧ seen.acts.length < later.acts.length

/-- Nothing was done but that a connection came in. -/
def ReleasesOnly (connection : ConnectionId) (seen later : Ledger) : Prop :=
  later.acts = seen.acts ∧
    ∀ other ∈ seen.out, other ≠ connection → other ∈ later.out

variable {allowed : ConnectionId → Prop} {seen middle later : Ledger} {call : PoolCall}
  {reply : call.Reply} {connection : ConnectionId}

theorem Extends.refl : seen.Extends allowed seen := ⟨fun _ isOut => isOut, [], by simp, by simp⟩

theorem ReleasesOnly.refl : seen.ReleasesOnly connection seen := ⟨rfl, fun _ isOut _ => isOut⟩

theorem Spares.trans (first : seen.Spares middle) (second : middle.Spares later) :
    seen.Spares later := by
  obtain ⟨stillOut, acts, isMiddle, apart⟩ := first
  obtain ⟨laterOut, others, isLater, othersApart⟩ := second
  refine ⟨fun connection isOut => laterOut connection (stillOut connection isOut), acts ++ others,
    ?_, ?_⟩
  · rw [isLater, isMiddle, List.append_assoc]
  · intro connection acted
    rcases List.mem_append.mp acted with early | late
    · exact apart connection early
    · exact fun isOut => othersApart connection late (stillOut connection isOut)

theorem mem_after_out (isOut : connection ∈ seen.out)
    (brings : call.bringsIn? ≠ some connection) : connection ∈ (seen.after call reply).out := by
  unfold after PoolCall.leavesOut
  cases broughtIn : call.bringsIn? with
  | some other =>
      have different : connection ≠ other := by
        rintro rfl
        exact brings broughtIn
      exact (List.mem_erase_of_ne different).mpr isOut
  | none =>
      cases call.takesOut? reply with
      | none => exact isOut
      | some taken => exact List.mem_cons_of_mem _ isOut

theorem Extends.after (extended : seen.Extends allowed later)
    (acts : ∀ connection, call.actsOn? = some connection → allowed connection)
    (brings : ∀ connection, call.bringsIn? = some connection → connection ∉ seen.out) :
    seen.Extends allowed (later.after call reply) := by
  obtain ⟨stillOut, done, isLater, areAllowed⟩ := extended
  refine ⟨?_, done ++ call.actsOn?.toList, ?_, ?_⟩
  · intro connection isOut
    apply mem_after_out (stillOut connection isOut)
    exact fun brought => brings connection brought isOut
  · simp [Ledger.after, isLater]
  · intro connection acted
    rcases List.mem_append.mp acted with early | late
    · exact areAllowed connection early
    · exact acts connection (Option.mem_toList.mp late)

end Ledger

/-- A pool that lends no connection that is out, with its ledger. -/
def bookkeeping : Surroundings poolInterface Ledger where
  permits _ _ := True
  replies seen call reply later :=
    (∀ connection, call.takesOut? reply = some connection → connection ∉ seen.out) ∧
      later = seen.after call reply

namespace PoolAction

open Action

variable {allowed : ConnectionId → Prop} {seen later : Ledger} {own : Option PoolId}
  {connection : ConnectionId} {pool : PoolId} {sql : String} {parameters : List Value}

theorem keeps_extends {call : PoolCall}
    (acts : ∀ connection, call.actsOn? = some connection → allowed connection)
    (brings : ∀ connection, call.bringsIn? = some connection → connection ∉ seen.out) :
    bookkeeping.Keeps (fun (_ : Option PoolId) later => seen.Extends allowed later) call := by
  intro own later extended
  refine ⟨trivial, ?_⟩
  rintro reply _ ⟨_, rfl⟩
  exact extended.after acts brings

/-- A call that neither acts on a connection nor brings one in. -/
theorem keeps_idle {call : PoolCall} (acts : call.actsOn? = none)
    (brings : call.bringsIn? = none) :
    bookkeeping.Keeps (fun (_ : Option PoolId) later => seen.Extends allowed later) call := by
  apply keeps_extends
  · intro connection acted
    cases acts.symm.trans acted
  · intro connection brought
    cases brings.symm.trans brought

/-- A call that acts on a connection and leaves it out. -/
theorem keeps_acting {call : PoolCall} (isAllowed : allowed connection)
    (acts : call.actsOn? = some connection) (brings : call.bringsIn? = none) :
    bookkeeping.Keeps (fun (_ : Option PoolId) later => seen.Extends allowed later) call := by
  apply keeps_extends
  · intro other acted
    cases acts.symm.trans acted
    exact isAllowed
  · intro other brought
    cases brings.symm.trans brought

theorem keeps_bringing {call : PoolCall} (notOut : connection ∉ seen.out)
    (acts : ∀ other, call.actsOn? = some other → other = connection)
    (brings : call.bringsIn? = some connection) :
    bookkeeping.Keeps (fun (_ : Option PoolId) later => seen.Spares later) call := by
  apply keeps_extends
  · intro other acted
    cases acts other acted
    exact notOut
  · intro other brought
    cases brings.symm.trans brought
    exact notOut

theorem silent_required {label : String} : Silent (required label) := by
  intro ν around goal own seen met
  cases own with
  | none => exact met
  | some pool => exact met

/-- A step on the pool in use fails if there is none. -/
theorem ensures_required_bind {ν α : Type} {around : Surroundings poolInterface ν} {seen : ν}
    {label : String} {next : PoolId → PoolAction α} {returns : α → Option PoolId → ν → Prop}
    {fails : Failure → Option PoolId → ν → Prop}
    (failed : fails (.store (.notConnected label)) own seen)
    (goesOn : ∀ pool, (next pool).Ensures around own seen returns fails) :
    (required label >>= next).Ensures around own seen returns fails := by
  unfold required
  rw [ensures_bind, ensures_bind, ensures_get]
  cases own with
  | none => exact failed
  | some pool => exact goesOn pool

/-- A statement reaches what its own call reaches, if a fetch keeps it. -/
theorem reaches_runOn {ν : Type} {around : Surroundings poolInterface ν} {seen : ν}
    {goal : Option PoolId → ν → Prop}
    (statement : (execute connection sql parameters).Reaches around own seen goal)
    (fetching : around.Keeps goal (.fetchAll connection)) :
    (runOn connection sql parameters).Reaches around own seen goal := by
  apply Reaches.bind statement
  intro cursor
  dsimp only
  split
  · exact (keeps_perform fetching).bind fun _ => silent_pure.keeps
  · exact silent_pure.keeps.bind fun _ => silent_pure.keeps

theorem reaches_acting {call : PoolCall} {α : Type} {read : call.Reply → Except Failure α}
    (acts : call.actsOn? = some connection) (brings : call.bringsIn? = none) :
    (perform call read).Reaches bookkeeping own seen
      fun _ later => seen.ActsOn connection later := by
  have kept : bookkeeping.Keeps
      (fun (_ : Option PoolId) later => seen.Extends (fun other => other = connection) later)
      call := keeps_acting rfl acts brings
  unfold Reaches
  rw [ensures_perform]
  refine ⟨trivial, ?_⟩
  rintro reply _ ⟨apart, rfl⟩
  have acted : seen.ActsOn connection (seen.after call reply) := by
    refine ⟨(kept own seen Ledger.Extends.refl).2 reply _ ⟨apart, rfl⟩, ?_⟩
    simp [Ledger.after, acts]
  cases read reply with
  | ok result => exact acted
  | error failure => exact acted

theorem keeps_fetchAll_actsOn :
    bookkeeping.Keeps (fun (_ : Option PoolId) later => seen.ActsOn connection later)
      (.fetchAll connection) := by
  rintro own later ⟨extended, grown⟩
  refine ⟨trivial, ?_⟩
  rintro reply _ ⟨apart, rfl⟩
  have kept : bookkeeping.Keeps
      (fun (_ : Option PoolId) later => seen.Extends (fun other => other = connection) later)
      (.fetchAll connection) := keeps_acting rfl rfl rfl
  refine ⟨(kept own later extended).2 reply _ ⟨apart, rfl⟩, ?_⟩
  simp only [Ledger.after, List.length_append]
  omega

theorem reaches_runOn_actsOn :
    (runOn connection sql parameters).Reaches bookkeeping own seen
      fun _ later => seen.ActsOn connection later :=
  reaches_runOn (reaches_acting rfl rfl) keeps_fetchAll_actsOn

/-- A statement on a connection that was not out spares those that were. -/
theorem keeps_runOn_spares (notOut : connection ∉ seen.out) :
    (runOn connection sql parameters).Keeps bookkeeping fun _ later => seen.Spares later := by
  intro own later spared
  apply reaches_runOn
  · exact keeps_perform (keeps_acting notOut rfl rfl) own later spared
  · exact keeps_acting notOut rfl rfl

/-- A connection that is taken out was not out. -/
theorem ensures_take {call : PoolCall} {read : call.Reply → Except Failure ConnectionId}
    (takes : ∀ reply connection, read reply = .ok connection →
      call.takesOut? reply = some connection)
    (acts : call.actsOn? = none) (brings : call.bringsIn? = none) :
    (perform call read).Ensures bookkeeping own seen
      (fun connection _ later => connection ∉ seen.out ∧ connection ∈ later.out ∧
        seen.Spares later)
      fun _ _ later => seen.Spares later := by
  rw [ensures_perform]
  refine ⟨trivial, ?_⟩
  rintro reply _ ⟨apart, rfl⟩
  have kept : bookkeeping.Keeps (fun (_ : Option PoolId) later => seen.Spares later) call :=
    keeps_idle acts brings
  have spared : seen.Spares (seen.after call reply) :=
    (kept own seen Ledger.Extends.refl).2 reply _ ⟨apart, rfl⟩
  cases isRead : read reply with
  | error failure => exact spared
  | ok connection =>
      have taken := takes reply connection isRead
      refine ⟨apart connection taken, ?_, spared⟩
      unfold Ledger.after PoolCall.leavesOut
      simp [brings, taken]

/-- What follows the taking of a connection spares those that were out before. -/
theorem reaches_take_bind {α : Type} {take : PoolAction ConnectionId}
    {next : ConnectionId → PoolAction α}
    (taken : take.Ensures bookkeeping own seen
      (fun connection _ later => connection ∉ seen.out ∧ connection ∈ later.out ∧
        seen.Spares later)
      fun _ _ later => seen.Spares later)
    (keeps : ∀ connection, connection ∉ seen.out →
      (next connection).Keeps bookkeeping fun _ later => seen.Spares later) :
    (take >>= next).Reaches bookkeeping own seen fun _ later => seen.Spares later := by
  unfold Reaches
  rw [ensures_bind]
  apply Ensures.imp taken
  · rintro connection own later ⟨notOut, _, spared⟩
    exact keeps connection notOut own later spared
  · intro failure own later spared
    exact spared

theorem ensures_checkOut_apart :
    (checkOut pool).Ensures bookkeeping own seen
      (fun connection _ later => connection ∉ seen.out ∧ connection ∈ later.out ∧
        seen.Spares later)
      fun _ _ later => seen.Spares later := by
  refine ensures_take ?_ rfl rfl
  rintro reply connection rfl
  rfl

theorem ensures_borrow_apart :
    (borrow pool).Ensures bookkeeping own seen
      (fun connection _ later => connection ∉ seen.out ∧ connection ∈ later.out ∧
        seen.Spares later)
      fun _ _ later => seen.Spares later := by
  refine ensures_take ?_ rfl rfl
  rintro reply connection rfl
  rfl

theorem keeps_checkIn (notOut : connection ∉ seen.out) :
    (checkIn pool connection).Keeps bookkeeping fun _ later => seen.Spares later := by
  apply keeps_perform
  refine keeps_bringing notOut ?_ rfl
  intro other acted
  cases acted

theorem keeps_giveBack {succeeded : Bool} (notOut : connection ∉ seen.out) :
    (giveBack pool connection succeeded).Keeps bookkeeping fun _ later => seen.Spares later := by
  apply keeps_perform
  refine keeps_bringing notOut ?_ rfl
  intro other acted
  cases acted
  rfl

theorem keeps_always {α : Type} {action : PoolAction α} (notOut : connection ∉ seen.out)
    (keeps : action.Keeps bookkeeping fun _ later => seen.Spares later) :
    (always action (checkIn pool connection)).Keeps bookkeeping
      fun _ later => seen.Spares later := by
  apply keeps.attempt.bind
  intro outcome
  apply (keeps_checkIn notOut).bind
  intro _
  exact silent_ofOutcome.keeps

/-- A call on a connection that was taken out leaves it out. -/
theorem keeps_held {call : PoolCall} (notOut : connection ∉ seen.out)
    (acts : ∀ other, call.actsOn? = some other → other = connection)
    (brings : call.bringsIn? = none) :
    bookkeeping.Keeps
      (fun (_ : Option PoolId) later => connection ∈ later.out ∧ seen.Spares later) call := by
  rintro own later ⟨isOut, spared⟩
  refine ⟨trivial, ?_⟩
  rintro reply _ ⟨_, rfl⟩
  constructor
  · apply Ledger.mem_after_out isOut
    simp [brings]
  · apply Ledger.Extends.after spared
    · intro other acted
      cases acts other acted
      exact notOut
    · intro other brought
      cases brings.symm.trans brought

/-- A connection that is taken out for a session stays out if the session begins. -/
theorem ensures_begin_apart {label : String} {action : ConnectionId → PoolAction Unit}
    {isolation : Option IsolationLevel}
    (keeps : ∀ connection, connection ∉ seen.out → (action connection).Keeps bookkeeping
      fun _ later => connection ∈ later.out ∧ seen.Spares later) :
    (do
      let pool ← required label
      let connection ← checkOut pool
      onFailure (action connection) (checkIn pool connection)
      pure ({ connection, isolation } : Lease) : PoolAction Lease).Ensures bookkeeping own seen
      (fun lease _ later => lease.connection ∉ seen.out ∧ lease.connection ∈ later.out ∧
        seen.Spares later)
      fun _ _ later => seen.Spares later := by
  apply ensures_required_bind Ledger.Extends.refl
  intro pool
  rw [ensures_bind]
  apply Ensures.imp ensures_checkOut_apart
  · rintro connection own later ⟨notOut, isOut, spared⟩
    unfold onFailure
    rw [ensures_bind, ensures_recover]
    apply Ensures.imp (keeps connection notOut own later ⟨isOut, spared⟩)
    · rintro _ own later ⟨isOut, spared⟩
      exact ⟨notOut, isOut, spared⟩
    · rintro failure own later ⟨_, spared⟩
      -- the handler never returns, so the connection need not be out after it
      dsimp only
      split
      · rw [ensures_bind]
        apply Ensures.imp (keeps_checkIn notOut own later spared)
        · intro _ own later spared
          exact spared
        · intro failure own later spared
          exact spared
      · exact spared
  · intro failure own later spared
    exact spared

/-- A call that does nothing but bring a connection in. -/
theorem keeps_releasing {call : PoolCall} (acts : call.actsOn? = none)
    (brings : ∀ other, call.bringsIn? = some other → other = connection) :
    bookkeeping.Keeps
      (fun (_ : Option PoolId) later => seen.ReleasesOnly connection later) call := by
  rintro own later ⟨sameActs, stillOut⟩
  refine ⟨trivial, ?_⟩
  rintro reply _ ⟨_, rfl⟩
  refine ⟨?_, ?_⟩
  · simpa [Ledger.after, acts] using sameActs
  · intro other isOut different
    apply Ledger.mem_after_out (stillOut other isOut different)
    exact fun brought => different (brings other brought)

theorem keeps_checkIn_releasing :
    (checkIn pool connection).Keeps bookkeeping
      fun _ later => seen.ReleasesOnly connection later := by
  apply keeps_perform
  refine keeps_releasing rfl ?_
  rintro other brought
  cases brought
  rfl

theorem keeps_set {ν : Type} {around : Surroundings poolInterface ν} {goal : ν → Prop}
    {next : Option PoolId} :
    (set next : PoolAction PUnit).Keeps around fun _ later => goal later := by
  intro own later met
  exact met

end PoolAction

/-! ## The effects of adapter calls -/

namespace AdapterCall

/-- What a call does to the connections of sessions. -/
def Effect (seen : Ledger) : (call : AdapterCall) → Except Failure call.Result → Ledger → Prop
  | execute _ _ (some lease), _, later => seen.ActsOn lease.connection later
  | commit lease, _, later => seen.ActsOn lease.connection later
  | rollback lease, _, later => seen.ActsOn lease.connection later
  | begin _, .ok lease, later =>
      lease.connection ∉ seen.out ∧ lease.connection ∈ later.out ∧ seen.Spares later
  | release lease, _, later => seen.ReleasesOnly lease.connection later
  | _, _, later => seen.Spares later

end AdapterCall

/-- An adapter keeps sessions apart: its calls have the effects that they should. -/
def KeepsApart (adapt : (call : AdapterCall) → PoolAction call.Result) : Prop :=
  ∀ own seen call, (adapt call).Ensures bookkeeping own seen
    (fun result _ later => call.Effect seen (.ok result) later)
    fun failure _ later => call.Effect seen (.error failure) later

open Action PoolAction

namespace MySql

theorem keeps_openPool {config : ConnectionConfig} {seen : Ledger} :
    (openPool config).Keeps bookkeeping fun _ later => seen.Spares later :=
  (keeps_perform (keeps_idle rfl rfl)).bind fun _ => keeps_set

theorem keeps_closePool {seen : Ledger} :
    closePool.Keeps bookkeeping fun _ later => seen.Spares later := by
  intro own later spared
  cases own with
  | none => exact spared
  | some pool =>
      have closes : (do
          PoolAction.close pool
          PoolAction.awaitClosed pool
          set (none : Option PoolId) : PoolAction Unit).Keeps bookkeeping
            fun _ later => seen.Spares later := by
        apply Keeps.bind (keeps_perform (keeps_idle rfl rfl))
        intro _
        exact (keeps_perform (keeps_idle rfl rfl)).bind fun _ => keeps_set
      exact closes (some pool) later spared

theorem keeps_executeOn {connection : ConnectionId} {sql : String} {parameters : List Value}
    {seen : Ledger} (notOut : connection ∉ seen.out) :
    (executeOn connection sql parameters).Keeps bookkeeping fun _ later => seen.Spares later :=
  (keeps_runOn_spares notOut).bind fun _ => silent_pure.keeps

theorem keeps_beginOn {connection : ConnectionId} {isolation : Option IsolationLevel}
    {seen : Ledger} (notOut : connection ∉ seen.out) :
    (beginOn connection isolation).Keeps bookkeeping
      fun _ later => connection ∈ later.out ∧ seen.Spares later := by
  have begins : (PoolAction.begin connection).Keeps bookkeeping
      fun _ later => connection ∈ later.out ∧ seen.Spares later := by
    apply keeps_perform
    refine keeps_held notOut ?_ rfl
    rintro other acted
    cases acted
    rfl
  cases isolation with
  | none => exact begins
  | some level =>
      refine Keeps.bind (keeps_perform (keeps_held notOut ?_ rfl)) fun _ => begins
      rintro other acted
      cases acted
      rfl

theorem keepsApart (config : ConnectionConfig) : KeepsApart (adapt config) := by
  intro own seen call
  cases call with
  | openPool => exact keeps_openPool own seen Ledger.Extends.refl
  | closePool => exact keeps_closePool own seen Ledger.Extends.refl
  | execute sql parameters lease =>
      cases lease with
      | some lease => exact reaches_runOn_actsOn.bind fun _ => silent_pure.keeps
      | none =>
          refine ensures_required_bind Ledger.Extends.refl fun pool => ?_
          apply reaches_take_bind ensures_checkOut_apart
          intro connection notOut
          exact keeps_always notOut (keeps_executeOn notOut)
  | begin isolation => exact ensures_begin_apart fun connection => keeps_beginOn
  | commit lease => exact reaches_acting rfl rfl
  | rollback lease => exact reaches_acting rfl rfl
  | release lease =>
      refine ensures_required_bind Ledger.ReleasesOnly.refl fun pool => ?_
      exact keeps_checkIn_releasing own seen Ledger.ReleasesOnly.refl

end MySql

namespace Postgres

section

variable {ν : Type} {around : Surroundings poolInterface ν} {goal : ν → Prop}
  (closes : ∀ pool, around.Keeps (fun (_ : Option PoolId) => goal) (.close pool))
include closes

/-- Opening a pool keeps what its calls keep, whichever pool is in use. -/
theorem keeps_openPool_of {config : ConnectionConfig}
    (creates : ∀ parameters, around.Keeps (fun (_ : Option PoolId) => goal) (.create parameters))
    (opens : ∀ pool seconds,
      around.Keeps (fun (_ : Option PoolId) => goal) (.openWithin pool seconds)) :
    (openPool config).Keeps around fun _ => goal := by
  unfold openPool
  have uses : ∀ pool, (do
      PoolAction.onFailure (PoolAction.openWithin pool config.connectTimeout)
        (PoolAction.close pool)
      set (some pool) : PoolAction Unit).Keeps around fun _ => goal := by
    intro pool
    refine Keeps.bind (Keeps.recover (keeps_perform (opens pool _)) ?_) fun _ => keeps_set
    intro failure
    dsimp only
    split
    · exact (keeps_perform (closes pool)).bind fun _ => silent_throw.keeps
    · exact silent_throw.keeps
  dsimp only
  split
  · exact silent_throw.keeps.bind fun _ => (keeps_perform (creates _)).bind uses
  · exact (keeps_perform (creates _)).bind uses

theorem keeps_closePool_of : closePool.Keeps around fun _ => goal := by
  intro own seen met
  cases own with
  | none => exact met
  | some pool =>
      have ends : (do
          PoolAction.close pool
          set (none : Option PoolId) : PoolAction Unit).Keeps around fun _ => goal :=
        (keeps_perform (closes pool)).bind fun _ => keeps_set
      exact ends (some pool) seen met

end

/-- A connection is given back whatever came of its use. -/
theorem reaches_withBorrowed {ν α : Type} {around : Surroundings poolInterface ν}
    {goal : Option PoolId → ν → Prop} {holds : ConnectionId → Option PoolId → ν → Prop}
    {pool : PoolId} {body : ConnectionId → PoolAction α} {own : Option PoolId} {seen : ν}
    (borrows : (PoolAction.borrow pool).Ensures around own seen holds fun _ => goal)
    (keeps : ∀ connection, (body connection).Keeps around (holds connection))
    (gives : ∀ connection succeeded after later, holds connection after later →
      (PoolAction.giveBack pool connection succeeded).Reaches around after later goal) :
    (withBorrowed pool body).Reaches around own seen goal := by
  unfold withBorrowed Reaches
  rw [ensures_bind]
  apply Ensures.imp borrows
  · intro connection after middle held
    rw [ensures_bind, ensures_attempt]
    apply Ensures.imp (keeps connection after middle held)
    · intro result last later kept
      exact (gives connection true last later kept).bind fun _ => silent_pure.keeps
    · intro failure last later kept
      exact (gives connection false last later kept).bind fun _ => silent_throw.keeps
  · intro failure after later met
    exact met

theorem keeps_openPool {config : ConnectionConfig} {seen : Ledger} :
    (openPool config).Keeps bookkeeping fun _ later => seen.Spares later :=
  keeps_openPool_of (fun _ => keeps_idle rfl rfl) (fun _ => keeps_idle rfl rfl)
    fun _ _ => keeps_idle rfl rfl

theorem keeps_closePool {seen : Ledger} :
    closePool.Keeps bookkeeping fun _ later => seen.Spares later :=
  keeps_closePool_of fun _ => keeps_idle rfl rfl

theorem keeps_withBorrowed {pool : PoolId} {seen : Ledger} {α : Type} {own : Option PoolId}
    {body : ConnectionId → PoolAction α}
    (keeps : ∀ connection, connection ∉ seen.out →
      (body connection).Keeps bookkeeping fun _ later => seen.Spares later) :
    (withBorrowed pool body).Reaches bookkeeping own seen fun _ later => seen.Spares later := by
  apply reaches_take_bind ensures_borrow_apart
  intro connection notOut
  apply Keeps.bind (keeps connection notOut).attempt
  intro outcome
  cases outcome with
  | ok result => exact (keeps_giveBack notOut).bind fun _ => silent_pure.keeps
  | error failure => exact (keeps_giveBack notOut).bind fun _ => silent_throw.keeps

theorem keeps_applyIsolation {connection : ConnectionId} {isolation : Option IsolationLevel}
    {seen : Ledger} (notOut : connection ∉ seen.out) :
    (applyIsolation connection isolation).Keeps bookkeeping
      fun _ later => connection ∈ later.out ∧ seen.Spares later := by
  cases isolation with
  | none => exact silent_pure.keeps
  | some level =>
      refine keeps_perform (keeps_held notOut ?_ rfl)
      rintro other acted
      cases acted

theorem keeps_resetIsolation {lease : Lease} {seen : Ledger} :
    (resetIsolation lease).Keeps bookkeeping
      fun _ later => seen.ReleasesOnly lease.connection later := by
  unfold resetIsolation
  cases lease.isolation with
  | none => exact silent_pure.keeps
  | some level =>
      apply Keeps.bind (keeps_perform (keeps_releasing rfl (by rintro _ ⟨⟩)))
      intro closed
      cases closed with
      | true => exact silent_pure.keeps
      | false => exact keeps_perform (keeps_releasing rfl (by rintro _ ⟨⟩))

theorem keepsApart (config : ConnectionConfig) : KeepsApart (adapt config) := by
  intro own seen call
  cases call with
  | openPool => exact keeps_openPool own seen Ledger.Extends.refl
  | closePool => exact keeps_closePool own seen Ledger.Extends.refl
  | execute sql parameters lease =>
      cases lease with
      | some lease => exact reaches_runOn_actsOn.bind fun _ => silent_pure.keeps
      | none =>
          refine ensures_required_bind Ledger.Extends.refl fun pool => ?_
          apply keeps_withBorrowed
          intro connection notOut
          exact (keeps_runOn_spares notOut).bind fun _ => silent_pure.keeps
  | begin isolation => exact ensures_begin_apart fun connection => keeps_applyIsolation
  | commit lease => exact reaches_acting rfl rfl
  | rollback lease => exact reaches_acting rfl rfl
  | release lease =>
      refine ensures_required_bind Ledger.ReleasesOnly.refl fun pool => ?_
      apply Keeps.bind keeps_resetIsolation.attempt _ own seen Ledger.ReleasesOnly.refl
      intro outcome
      exact keeps_checkIn_releasing.bind fun _ => silent_ofOutcome.keeps

end Postgres

theorem keepsApart_nativeAdapter (config : ConnectionConfig) (dialect : Dialect) :
    KeepsApart (nativeAdapter config dialect) := by
  cases dialect with
  | mysql => exact MySql.keepsApart config
  | postgres => exact Postgres.keepsApart config

end DocStore
