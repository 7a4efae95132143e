import DocStore.Proofs.EngineInvariants

/-!
# Open pools

The pool that an adapter holds is the one that is open, and no other one is: a pool that
cannot be opened is closed again before the next attempt, and disconnecting closes the one
that is held.

Connecting while a pool is held takes another one in its place and leaves the old one open.
So does an opening that is cancelled, which no ordinary clean-up follows.
-/

namespace DocStore

/-! ## The pools that are open -/

/-- Whether a pool is open when it is created. -/
def opensAtOnce (parameters : Members) : Bool :=
  match parameters.getD "open" with
  | .bool false => false
  | _ => true

namespace PoolCall

/-- The pools that are open after a call.  One that is opened may be open whatever the reply
is. -/
def leavesOpen (pools : List PoolId) : (call : PoolCall) → call.Reply → List PoolId
  | create parameters, .ok pool => if opensAtOnce parameters then pool :: pools else pools
  | openWithin pool _, _ => if pool ∈ pools then pools else pool :: pools
  | close pool, .ok _ => pools.erase pool
  | _, _ => pools

/-- The pool that a call created. -/
def creates? : (call : PoolCall) → call.Reply → Option PoolId
  | create _, .ok pool => some pool
  | _, _ => none

/-- A pool can be closed. -/
def Closes : (call : PoolCall) → call.Reply → Prop
  | close _, reply => reply = .ok ()
  | awaitClosed _, reply => reply = .ok ()
  | _, _ => True

/-- An opening was cancelled. -/
def isAborted : (call : PoolCall) → call.Reply → Bool
  | openWithin _ _, .error failure => !failure.isOrdinary
  | _, _ => false

/-- A call that concerns connections. -/
def OnConnections : PoolCall → Prop
  | create _ => False
  | openWithin .. => False
  | close _ => False
  | awaitClosed _ => False
  | _ => True

end PoolCall

/-- The pools that are open, and whether an opening was cancelled. -/
structure Openings where
  pools : List PoolId
  aborted : Bool

/-- What is open after a call. -/
def Openings.after (seen : Openings) (call : PoolCall) (reply : call.Reply) : Openings :=
  { pools := call.leavesOpen seen.pools reply, aborted := seen.aborted || call.isAborted reply }

/-- New pools are not open yet, and pools can be closed. -/
def opening : Surroundings poolInterface Openings where
  permits _ _ := True
  replies seen call reply later :=
    (∀ pool, call.creates? reply = some pool → pool ∉ seen.pools) ∧ call.Closes reply ∧
      later = seen.after call reply

/-! ## What an adapter holds -/

/-- The pool that is held, those that are open, and whether an opening was cancelled. -/
structure Standing where
  held : Option PoolId
  pools : List PoolId
  aborted : Bool

namespace Standing

/-- The pool that is held is open, and no other one is. -/
def IsTight (seen : Standing) : Prop := seen.pools = seen.held.toList

/-- All is tight, and no opening was cancelled. -/
def IsCalm (seen : Standing) : Prop := seen.IsTight ∧ seen.aborted = false

/-- What an attempt to open a pool comes to: a pool is held and open, or nothing changes, or
a pool is open that is not held. -/
inductive Opens (seen : Standing) : Except Failure Unit → Standing → Prop where
  | opened (pool : PoolId) (isNew : pool ∉ seen.pools) :
      Opens seen (.ok ()) { seen with held := some pool, pools := pool :: seen.pools }
  | failed (failure : Failure) : Opens seen (.error failure) seen
  | abandoned (pool : PoolId) (isNew : pool ∉ seen.pools) (failure : Failure)
      (isCancelled : failure.isOrdinary = false) :
      Opens seen (.error failure) { seen with pools := pool :: seen.pools, aborted := true }

end Standing

/-- What a call to an adapter changes, if all was calm before. -/
def AdapterCall.Stands (seen : Standing) :
    (call : AdapterCall) → Except Failure call.Result → Standing → Prop
  | openPool, reply, later => seen.Opens reply later
  | closePool, reply, later =>
      reply = .ok () ∧ later = { held := none, pools := [], aborted := false }
  | _, _, later => later = seen

/-- An adapter on pools: all is calm when it is asked. -/
def standing : Surroundings engineInterface Standing where
  permits seen _ := seen.IsCalm
  replies seen
    | .adapter call, reply, later => call.Stands seen reply later
    | .ambient _, _, later => later = seen

/-! ## The two adapters -/

section

open Action PoolAction

variable {ν α : Type} {around : Surroundings poolInterface ν} {goal : Option PoolId → ν → Prop}

theorem Action.Keeps.always {action : PoolAction α} {cleanUp : PoolAction Unit}
    (keeps : action.Keeps around goal) (cleaned : cleanUp.Keeps around goal) :
    (PoolAction.always action cleanUp).Keeps around goal := by
  apply keeps.attempt.bind
  intro outcome
  exact cleaned.bind fun _ => silent_ofOutcome.keeps

theorem Action.Keeps.onFailure {action : PoolAction α} {cleanUp : PoolAction Unit}
    (keeps : action.Keeps around goal) (cleaned : cleanUp.Keeps around goal) :
    (PoolAction.onFailure action cleanUp).Keeps around goal := by
  apply keeps.recover
  intro failure
  dsimp only
  split
  · exact cleaned.bind fun _ => silent_throw.keeps
  · exact silent_throw.keeps

variable (kept : ∀ call, PoolCall.OnConnections call → around.Keeps goal call)
include kept

theorem PoolAction.keeps_runOn {connection : ConnectionId} {sql : String}
    {parameters : List Value} : (runOn connection sql parameters).Keeps around goal := by
  intro own seen met
  exact reaches_runOn
    (keeps_perform (kept (.execute connection sql parameters) trivial) own seen met)
    (kept (.fetchAll connection) trivial)

/-- What calls on connections keep, sessions and statements keep. -/
theorem MySql.keeps_adapt (config : ConnectionConfig) {call : AdapterCall}
    (notOpening : call ≠ .openPool) (notClosing : call ≠ .closePool) :
    (MySql.adapt config call).Keeps around goal := by
  have executes {connection : ConnectionId} {sql : String} {parameters : List Value} :
      (MySql.executeOn connection sql parameters).Keeps around goal :=
    (keeps_runOn kept).bind fun _ => silent_pure.keeps
  cases call with
  | openPool => exact absurd rfl notOpening
  | closePool => exact absurd rfl notClosing
  | execute sql parameters lease =>
      cases lease with
      | some lease => exact executes
      | none =>
          apply silent_required.keeps.bind
          intro pool
          apply (keeps_perform (kept (.checkOut pool) trivial)).bind
          intro connection
          exact executes.always (keeps_perform (kept (.checkIn pool connection) trivial))
  | begin isolation =>
      apply silent_required.keeps.bind
      intro pool
      apply (keeps_perform (kept (.checkOut pool) trivial)).bind
      intro connection
      have begins : (MySql.beginOn connection isolation).Keeps around goal := by
        cases isolation with
        | none => exact keeps_perform (kept (.begin connection) trivial)
        | some level =>
            apply (keeps_perform (kept (.execute connection _ []) trivial)).bind
            intro _
            exact keeps_perform (kept (.begin connection) trivial)
      exact (begins.onFailure
        (keeps_perform (kept (.checkIn pool connection) trivial))).bind fun _ => silent_pure.keeps
  | commit lease => exact keeps_perform (kept (.commit lease.connection) trivial)
  | rollback lease => exact keeps_perform (kept (.rollback lease.connection) trivial)
  | release lease =>
      apply silent_required.keeps.bind
      intro pool
      exact keeps_perform (kept (.checkIn pool lease.connection) trivial)

theorem Postgres.keeps_adapt (config : ConnectionConfig) {call : AdapterCall}
    (notOpening : call ≠ .openPool) (notClosing : call ≠ .closePool) :
    (Postgres.adapt config call).Keeps around goal := by
  have executes {connection : ConnectionId} {sql : String} {parameters : List Value} :
      (Postgres.executeOn connection sql parameters).Keeps around goal :=
    (keeps_runOn kept).bind fun _ => silent_pure.keeps
  cases call with
  | openPool => exact absurd rfl notOpening
  | closePool => exact absurd rfl notClosing
  | execute sql parameters lease =>
      cases lease with
      | some lease => exact executes
      | none =>
          apply silent_required.keeps.bind
          intro pool own seen met
          apply Postgres.reaches_withBorrowed
            (keeps_perform (kept (.borrow pool) trivial) own seen met)
          · exact fun _ => executes
          · intro connection succeeded
            exact keeps_perform (kept (.giveBack pool connection succeeded) trivial)
  | begin isolation =>
      apply silent_required.keeps.bind
      intro pool
      apply (keeps_perform (kept (.checkOut pool) trivial)).bind
      intro connection
      have applies : (Postgres.applyIsolation connection isolation).Keeps around goal := by
        cases isolation with
        | none => exact silent_pure.keeps
        | some level =>
            exact keeps_perform (kept (.setIsolation connection (some level)) trivial)
      exact (applies.onFailure
        (keeps_perform (kept (.checkIn pool connection) trivial))).bind fun _ => silent_pure.keeps
  | commit lease => exact keeps_perform (kept (.commit lease.connection) trivial)
  | rollback lease => exact keeps_perform (kept (.rollback lease.connection) trivial)
  | release lease =>
      apply silent_required.keeps.bind
      intro pool
      have resets : (Postgres.resetIsolation lease).Keeps around goal := by
        unfold Postgres.resetIsolation
        cases lease.isolation with
        | none => exact silent_pure.keeps
        | some level =>
            apply (keeps_perform (kept (.isClosed lease.connection) trivial)).bind
            intro closed
            cases closed with
            | true => exact silent_pure.keeps
            | false => exact keeps_perform (kept (.setIsolation lease.connection none) trivial)
      exact resets.always (keeps_perform (kept (.checkIn pool lease.connection) trivial))

end

/-- What is known of the pools, with the one that is held. -/
def Openings.standing (seen : Openings) (held : Option PoolId) : Standing :=
  { held, pools := seen.pools, aborted := seen.aborted }

section

open Action PoolAction

variable {own : Option PoolId} {seen : Openings} {call : PoolCall} {reply : call.Reply}

theorem Openings.after_eq (pools : call.leavesOpen seen.pools reply = seen.pools)
    (goesOn : call.isAborted reply = false) : seen.after call reply = seen := by
  unfold Openings.after
  rw [pools, goesOn, Bool.or_false]

theorem keeps_standing {before : Openings} {held : Option PoolId} (kept : call.OnConnections) :
    opening.Keeps (fun own later => later.standing own = before.standing held) call := by
  intro own later same
  refine ⟨trivial, ?_⟩
  rintro reply _ ⟨_, _, rfl⟩
  rw [← same]
  congr 1
  cases call with
  | create _ | openWithin _ _ | close _ | awaitClosed _ => exact kept.elim
  | _ => exact Openings.after_eq rfl rfl

theorem MySql.ensures_openPool (config : ConnectionConfig) :
    (MySql.openPool config).Ensures opening own seen
      (fun _ after later => (seen.standing own).Opens (.ok ()) (later.standing after))
      fun failure after later =>
        (seen.standing own).Opens (.error failure) (later.standing after) := by
  unfold MySql.openPool PoolAction.create
  rw [ensures_bind, ensures_perform]
  refine ⟨trivial, ?_⟩
  rintro reply _ ⟨isNew, _, rfl⟩
  cases reply with
  | error failure =>
      rw [Openings.after_eq rfl rfl]
      exact .failed failure
  | ok pool =>
      have atOnce : opensAtOnce (MySql.poolParameters config) = true := rfl
      have after : (seen.after (.create (MySql.poolParameters config)) (.ok pool)).standing
          (some pool) =
            { seen.standing own with held := some pool, pools := pool :: seen.pools } := by
        simp [Openings.after, Openings.standing, PoolCall.leavesOpen, PoolCall.isAborted, atOnce]
      change Standing.Opens _ _ (Openings.standing _ (some pool))
      rw [after]
      exact .opened pool (isNew pool rfl)

/-- A new pool that cannot be opened is closed again, unless its opening was cancelled. -/
theorem Postgres.ensures_opening {pool : PoolId} {seconds : Float}
    (isNew : pool ∉ seen.pools) :
    (do
      PoolAction.onFailure (PoolAction.openWithin pool seconds) (PoolAction.close pool)
      set (some pool) : PoolAction Unit).Ensures opening own seen
      (fun _ after later => (seen.standing own).Opens (.ok ()) (later.standing after))
      fun failure after later =>
        (seen.standing own).Opens (.error failure) (later.standing after) := by
  unfold PoolAction.onFailure PoolAction.openWithin PoolAction.close
  rw [ensures_bind, ensures_recover, ensures_perform]
  refine ⟨trivial, ?_⟩
  rintro opened _ ⟨_, _, rfl⟩
  have pools : PoolCall.leavesOpen seen.pools (.openWithin pool seconds) opened =
      pool :: seen.pools := if_neg isNew
  cases opened with
  | ok _ =>
      have after : (seen.after (.openWithin pool seconds) (.ok ())).standing (some pool) =
          { seen.standing own with held := some pool, pools := pool :: seen.pools } := by
        simp [Openings.after, Openings.standing, pools, PoolCall.isAborted]
      change Standing.Opens _ _ (Openings.standing _ (some pool))
      rw [after]
      exact .opened pool isNew
  | error failure =>
      unfold Ends
      dsimp only
      cases isOrdinary : failure.isOrdinary with
      | true =>
          rw [if_pos rfl, ensures_bind, ensures_perform]
          refine ⟨trivial, ?_⟩
          rintro closed _ ⟨_, succeeds, rfl⟩
          obtain rfl : closed = .ok () := succeeds
          have after : (seen.after (.openWithin pool seconds) (.error failure)).after
              (.close pool) (.ok ()) = seen := by
            simp [Openings.after, PoolCall.leavesOpen, PoolCall.isAborted, isNew, isOrdinary]
          rw [after]
          exact .failed failure
      | false =>
          have after : (seen.after (.openWithin pool seconds) (.error failure)).standing own =
              { seen.standing own with pools := pool :: seen.pools, aborted := true } := by
            simp [Openings.after, Openings.standing, pools, PoolCall.isAborted, isOrdinary]
          rw [if_neg Bool.false_ne_true]
          change Standing.Opens _ _ (Openings.standing _ own)
          rw [after]
          exact .abandoned pool isNew failure isOrdinary

theorem Postgres.ensures_openPool (config : ConnectionConfig) :
    (Postgres.openPool config).Ensures opening own seen
      (fun _ after later => (seen.standing own).Opens (.ok ()) (later.standing after))
      fun failure after later =>
        (seen.standing own).Opens (.error failure) (later.standing after) := by
  unfold Postgres.openPool PoolAction.create
  dsimp only
  split
  · exact .failed _
  · rw [ensures_bind, ensures_perform]
    refine ⟨trivial, ?_⟩
    rintro reply _ ⟨isNew, _, rfl⟩
    cases reply with
    | error failure =>
        rw [Openings.after_eq rfl rfl]
        exact .failed failure
    | ok pool =>
        have unopened : seen.after (.create (Postgres.poolParameters config)) (.ok pool) = seen :=
          Openings.after_eq rfl rfl
        rw [unopened]
        exact Postgres.ensures_opening (isNew pool rfl)

/-- Closing the pool that is held leaves none open. -/
theorem MySql.ensures_closePool (calm : (seen.standing own).IsCalm) :
    MySql.closePool.Ensures opening own seen
      (fun _ after later => later.standing after = { held := none, pools := [], aborted := false })
      fun _ _ _ => False := by
  obtain ⟨pools, aborted⟩ := seen
  obtain ⟨tight, goesOn⟩ := calm
  obtain rfl : pools = own.toList := tight
  obtain rfl : aborted = false := goesOn
  cases own with
  | none => exact rfl
  | some pool =>
      change (do
        PoolAction.close pool
        PoolAction.awaitClosed pool
        set (none : Option PoolId) : PoolAction Unit).Ensures opening (some pool) _ _ _
      unfold PoolAction.close PoolAction.awaitClosed
      rw [ensures_bind, ensures_perform]
      refine ⟨trivial, ?_⟩
      rintro closed _ ⟨_, succeeds, rfl⟩
      obtain rfl : closed = .ok () := succeeds
      unfold Ends
      dsimp only
      rw [ensures_bind, ensures_perform]
      refine ⟨trivial, ?_⟩
      rintro awaited _ ⟨_, isAwaited, rfl⟩
      obtain rfl : awaited = .ok () := isAwaited
      simp [Ends, Openings.standing, Openings.after, PoolCall.leavesOpen, PoolCall.isAborted]

theorem Postgres.ensures_closePool (calm : (seen.standing own).IsCalm) :
    Postgres.closePool.Ensures opening own seen
      (fun _ after later => later.standing after = { held := none, pools := [], aborted := false })
      fun _ _ _ => False := by
  obtain ⟨pools, aborted⟩ := seen
  obtain ⟨tight, goesOn⟩ := calm
  obtain rfl : pools = own.toList := tight
  obtain rfl : aborted = false := goesOn
  cases own with
  | none => exact rfl
  | some pool =>
      change (do
        PoolAction.close pool
        set (none : Option PoolId) : PoolAction Unit).Ensures opening (some pool) _ _ _
      unfold PoolAction.close
      rw [ensures_bind, ensures_perform]
      refine ⟨trivial, ?_⟩
      rintro closed _ ⟨_, succeeds, rfl⟩
      obtain rfl : closed = .ok () := succeeds
      simp [Ends, Openings.standing, Openings.after, PoolCall.leavesOpen, PoolCall.isAborted]

/-- What both adapters do to pools. -/
theorem ensures_stands (config : ConnectionConfig) (dialect : Dialect) {call : AdapterCall}
    (calm : (seen.standing own).IsCalm) :
    (nativeAdapter config dialect call).Ensures opening own seen
      (fun result after later =>
        call.Stands (seen.standing own) (.ok result) (later.standing after))
      fun failure after later =>
        call.Stands (seen.standing own) (.error failure) (later.standing after) := by
  have others (notOpening : call ≠ .openPool) (notClosing : call ≠ .closePool) :
      (nativeAdapter config dialect call).Reaches opening own seen
        fun after later => later.standing after = seen.standing own := by
    cases dialect with
    | mysql =>
        exact MySql.keeps_adapt (fun _ => keeps_standing) config notOpening notClosing _ _ rfl
    | postgres =>
        exact Postgres.keeps_adapt (fun _ => keeps_standing) config notOpening notClosing _ _ rfl
  cases call with
  | openPool =>
      cases dialect with
      | mysql => exact MySql.ensures_openPool config
      | postgres => exact Postgres.ensures_openPool config
  | closePool =>
      have closes : (nativeAdapter config dialect .closePool).Ensures opening own seen
          (fun _ after later =>
            later.standing after = { held := none, pools := [], aborted := false })
          fun _ _ _ => False := by
        cases dialect with
        | mysql => exact MySql.ensures_closePool calm
        | postgres => exact Postgres.ensures_closePool calm
      apply Ensures.imp closes
      · intro _ after later none
        exact ⟨rfl, none⟩
      · intro failure after later never
        exact never.elim
  | _ => exact others nofun nofun

end

/-! ## Uses -/

namespace Standing

/-- A pool took the place of the one that was held at the start, or an opening was
cancelled. -/
def Leaked (start : Option PoolId) (later : Standing) : Prop :=
  (∃ old new, start = some old ∧ later.held = some new ∧ new ≠ old) ∨ later.aborted = true

/-- All is tight unless something leaked. -/
def Accounts (start : Option PoolId) (later : Standing) : Prop :=
  later.IsTight ↔ ¬later.Leaked start

variable {seen later : Standing} {reply : Except Failure Unit}

theorem IsCalm.accounts (calm : seen.IsCalm) : seen.Accounts seen.held := by
  obtain ⟨tight, goesOn⟩ := calm
  refine iff_of_true tight ?_
  rintro (⟨old, new, isOld, isNew, different⟩ | aborted)
  · exact different (Option.some.inj (isNew.symm.trans isOld))
  · rw [goesOn] at aborted
    cases aborted

/-- An attempt to open a pool leaks one if it takes the place of another or is cancelled. -/
theorem Opens.accounts (opens : seen.Opens reply later) (calm : seen.IsCalm) :
    later.Accounts seen.held := by
  obtain ⟨held, pools, aborted⟩ := seen
  obtain rfl : pools = held.toList := calm.1
  cases opens with
  | failed failure => exact calm.accounts
  | opened pool isNew =>
      cases held with
      | none =>
          obtain rfl : aborted = false := calm.2
          refine iff_of_true rfl ?_
          rintro (⟨old, new, isOld, _⟩ | aborted)
          · cases isOld
          · cases aborted
      | some old =>
          refine iff_of_false ?_ (not_not.mpr (.inl ⟨old, pool, rfl, rfl, ?_⟩))
          · exact fun tight => List.cons_ne_nil _ _ (List.cons.inj tight).2
          · rintro rfl
            exact isNew List.mem_cons_self
  | abandoned pool isNew failure isCancelled =>
      refine iff_of_false ?_ (not_not.mpr (.inr rfl))
      intro tight
      exact isNew (tight ▸ List.mem_cons_self)

end Standing

section

open Action EngineAction

variable {settings : EngineSettings} {sessions : List Session} {seen : Standing}

/-- After an attempt that is worth another one nothing has changed. -/
theorem ensures_attempt_stands (calm : seen.IsCalm) :
    (Engine.openPool settings).Ensures standing sessions seen
      (fun failed _ later => failed.elim (later.Accounts seen.held) fun _ => later = seen)
      fun _ _ later => later.Accounts seen.held := by
  unfold Engine.openPool adapter
  rw [ensures_bind, ensures_attempt, ensures_perform]
  refine ⟨calm, ?_⟩
  intro reply later opens
  cases reply with
  | ok _ =>
      change Ensures standing (_ >>= _) _ _ _ _
      rw [ensures_bind, ensures_note]
      exact Standing.Opens.accounts opens calm
  | error failure =>
      unfold Ends
      dsimp only
      cases retried : Engine.retryable? failure with
      | none => exact Standing.Opens.accounts opens calm
      | some reported =>
          change later = seen
          cases opens with
          | failed _ => rfl
          | abandoned pool isNew _ isCancelled =>
              cases failure with
              | cancelled => cases retried
              | _ => cases isCancelled

theorem reaches_connectFrom (calm : seen.IsCalm) (attempt left : Nat) :
    (Engine.connectFrom settings attempt left).Reaches standing sessions seen
      fun _ later => later.Accounts seen.held := by
  induction left generalizing attempt sessions with
  | zero =>
      unfold Engine.connectFrom Reaches
      rw [ensures_bind]
      apply Ensures.imp (ensures_attempt_stands calm)
      · intro failed after later stands
        cases failed with
        | none => exact stands
        | some failure =>
            cases stands
            exact calm.accounts
      · intro failure after later stands
        exact stands
  | succ left ih =>
      unfold Engine.connectFrom Reaches
      rw [ensures_bind]
      apply Ensures.imp (ensures_attempt_stands calm)
      · intro failed after later stands
        cases failed with
        | none => exact stands
        | some failure =>
            cases stands
            dsimp only
            unfold EngineAction.pause
            rw [ensures_bind, ensures_note, ensures_bind, ensures_perform]
            refine ⟨calm, ?_⟩
            rintro reply _ rfl
            cases reply with
            | ok _ => exact ih (attempt + 1)
            | error failure => exact calm.accounts
      · intro failure after later stands
        exact stands

theorem reaches_connect_stands (calm : seen.IsCalm) :
    (Engine.connect settings).Reaches standing sessions seen
      fun _ later => later.Accounts seen.held := by
  unfold Engine.connect
  split
  · exact calm.accounts
  · exact reaches_connectFrom calm 1 _

/-- No pool is open after disconnecting. -/
theorem reaches_disconnect_stands (calm : seen.IsCalm) :
    (Engine.disconnect settings).Reaches standing sessions seen
      fun _ later => later = { held := none, pools := [], aborted := false } := by
  unfold Engine.disconnect adapter Reaches
  rw [ensures_bind, ensures_perform]
  refine ⟨calm, ?_⟩
  rintro reply _ ⟨rfl, rfl⟩
  exact rfl

theorem keeps_standing_of {call : EngineCall} (calm : seen.IsCalm)
    (same : ∀ seen reply later, standing.replies seen call reply later → later = seen) :
    standing.Keeps (fun (_ : List Session) later => later = seen) call := by
  rintro sessions _ rfl
  exact ⟨calm, fun reply later replied => same _ reply later replied⟩

theorem standing_maintains (calm : seen.IsCalm) :
    standing.Maintains fun _ later => later = seen where
  ambient _ := keeps_standing_of calm fun _ _ _ same => same
  execute _ _ _ := keeps_standing_of calm fun _ _ _ same => same
  commit _ := keeps_standing_of calm fun _ _ _ same => same
  rollback _ := keeps_standing_of calm fun _ _ _ same => same
  begin isolation sessions := by
    rintro _ rfl
    exact ⟨calm, fun _ _ same => same, fun _ _ same => same⟩
  release session lease sessions := by
    rintro _ _ rfl
    exact ⟨calm, fun _ _ same => same⟩

/-- A use asks the adapter while all is calm, and all is tight after it unless something
leaked. -/
theorem ensures_use_stands (calm : seen.IsCalm) (use : EngineUse) :
    (use.program settings sessions).Ensures standing seen fun _ later =>
      later.Accounts seen.held ∧ (use = .verb .disconnect → later.pools = []) := by
  by_cases connects : use = .verb .connect
  · subst connects
    unfold EngineUse.program
    rw [Program.ensures_bind]
    apply Program.Ensures.imp (reaches_connect_stands calm).answering.ensures
    intro ended later accounts
    exact ⟨accounts, nofun⟩
  · by_cases disconnects : use = .verb .disconnect
    · subst disconnects
      unfold EngineUse.program
      rw [Program.ensures_bind]
      apply Program.Ensures.imp (reaches_disconnect_stands calm).answering.ensures
      rintro ended _ rfl
      refine ⟨iff_of_true rfl ?_, fun _ => rfl⟩
      rintro (⟨old, new, _, isNew, _⟩ | aborted)
      · cases isNew
      · cases aborted
    · have maintains : standing.Maintains fun _ later => later = seen := standing_maintains calm
      have keeps : (use.program settings sessions).Ensures standing seen fun _ later =>
          later = seen := by
        apply maintains.ensures_program _ _ rfl
        · exact fun same => absurd same connects
        · exact fun same => absurd same disconnects
      apply Program.Ensures.imp keeps
      rintro ended _ rfl
      exact ⟨calm.accounts, fun same => absurd same disconnects⟩

end

/-! ## Histories -/

/-- Something holds of each item and of those before it. -/
theorem forall_split_cons {α : Type} {property : List α → α → Prop} {first : α} {items : List α} :
    (∀ former item latter, first :: items = former ++ item :: latter → property former item) ↔
      property [] first ∧
        ∀ former item latter, items = former ++ item :: latter →
          property (first :: former) item := by
  constructor
  · intro each
    refine ⟨each [] first items rfl, ?_⟩
    rintro former item latter rfl
    exact each (first :: former) item latter rfl
  · rintro ⟨atFirst, others⟩ former item latter split
    cases former with
    | nil =>
        obtain ⟨rfl, _⟩ := List.cons.inj split
        exact atFirst
    | cons head former =>
        obtain ⟨rfl, rest⟩ := List.cons.inj split
        exact others former item latter rest

section

variable {ρ : Type}

/-- An opening was cancelled in some exchanges. -/
def aborts (exchanges : List (Exchange poolInterface)) : Bool :=
  exchanges.any fun exchange => exchange.call.isAborted exchange.reply

/-- The pools that are open follow from the calls: a new one is not open yet, and pools can be
closed. -/
structure OpensPools (answers : PoolAnswers ρ)
    (ambient : (call : AmbientCall) → StateM ρ call.Reply) (openPools : ρ → List PoolId) :
    Prop where
  after : ∀ (call : PoolCall) state, openPools (answers call state).2 =
    call.leavesOpen (openPools state) (answers call state).1
  isNew : ∀ (call : PoolCall) state pool, call.creates? (answers call state).1 = some pool →
    pool ∉ openPools state
  closes : ∀ (call : PoolCall) state, call.Closes (answers call state).1
  meanwhile : ∀ call state, openPools (ambient call state).2 = openPools state

def PoolState.standing (openPools : ρ → List PoolId) (reached : PoolState ρ) : Standing :=
  { held := reached.inUse, pools := openPools reached.state
    aborted := aborts reached.exchanges }

variable (answers : PoolAnswers ρ) (ambient : (call : AmbientCall) → StateM ρ call.Reply)
  (adapt : (call : AdapterCall) → PoolAction call.Result) (settings : EngineSettings)
  (openPools : ρ → List PoolId)

/-- The pool that is held is open and no other one is, whenever the use asks for something
and after it; and none is open after disconnecting. -/
structure EngineHistory.StaysTight (before : EngineHistory ρ) (use : EngineUse) : Prop where
  meanwhile : ∀ moment ∈ (use.program settings before.sessions).moments
      (onPool answers ambient adapt) { before.pool with exchanges := [] },
    openPools moment.state = moment.inUse.toList
  after : openPools (before.next answers ambient adapt settings use).pool.state =
    (before.next answers ambient adapt settings use).pool.inUse.toList
  disconnects : use = .verb .disconnect →
    openPools (before.next answers ambient adapt settings use).pool.state = []

/-- A use takes another pool in the place of the one that is held, or its opening of a pool is
cancelled. -/
def EngineHistory.Leaks (before : EngineHistory ρ) (use : EngineUse) : Prop :=
  let after := (before.next answers ambient adapt settings use).pool
  (∃ old new, before.pool.inUse = some old ∧ after.inUse = some new ∧ new ≠ old) ∨
    aborts after.exchanges = true

variable {answers ambient adapt settings openPools}

theorem covers_opening (opens : OpensPools answers ambient openPools) :
    opening.Covers (recorded answers) fun reached seen =>
      seen = { pools := openPools reached.1, aborted := aborts reached.2 } := by
  rintro ⟨state, exchanges⟩ _ call rfl _
  refine ⟨_, ⟨opens.isNew call state, opens.closes call state, rfl⟩, ?_⟩
  have sameAborted : aborts (recorded answers call (state, exchanges)).2.2 =
      (aborts exchanges || call.isAborted (answers call state).1) := by
    simp [aborts, recorded]
  change Openings.mk _ _ = Openings.mk (openPools (answers call state).2) (aborts _)
  rw [sameAborted, opens.after]
  rfl

theorem covers_standing (config : ConnectionConfig) (dialect : Dialect)
    (opens : OpensPools answers ambient openPools) :
    standing.Covers (onPool answers ambient (nativeAdapter config dialect))
      fun reached seen => reached.standing openPools = seen := by
  rintro ⟨inUse, state, exchanges⟩ _ call rfl calm
  cases call with
  | ambient call =>
      refine ⟨_, rfl, ?_⟩
      unfold PoolState.standing onPool
      dsimp only
      rw [opens.meanwhile]
  | adapter call =>
      have ensured : (nativeAdapter config dialect call).Ensures opening inUse
          { pools := openPools state, aborted := aborts exchanges } _ _ :=
        ensures_stands config dialect calm
      obtain ⟨later, ended, isLater⟩ := Program.Ensures.course ensured (covers_opening opens)
        (show _ = Openings.mk (openPools (state, exchanges).1) _ from rfl)
      refine ⟨_, ?_, rfl⟩
      let ran := Action.run (recorded answers) (nativeAdapter config dialect call) inUse
        (state, exchanges)
      change Action.Ends _ _ ran.1 later at ended
      change later = { pools := openPools ran.2.1, aborted := aborts ran.2.2 } at isLater
      change call.Stands _ ran.1.1 (Standing.mk ran.1.2 (openPools ran.2.1) (aborts ran.2.2))
      generalize ran = ran at ended isLater ⊢
      obtain ⟨⟨outcome, own⟩, reached⟩ := ran
      subst isLater
      cases outcome with
      | ok result => exact ended
      | error failure => exact ended

/-- A use that starts where all is tight keeps it so if and only if it leaks no pool. -/
theorem EngineHistory.staysTight_iff (config : ConnectionConfig) (dialect : Dialect)
    (opens : OpensPools answers ambient openPools) {before : EngineHistory ρ}
    (tight : openPools before.pool.state = before.pool.inUse.toList) (use : EngineUse) :
    before.StaysTight answers ambient (nativeAdapter config dialect) settings openPools use ↔
      ¬before.Leaks answers ambient (nativeAdapter config dialect) settings use := by
  let start : PoolState ρ := { before.pool with exchanges := [] }
  have calm : (start.standing openPools).IsCalm := ⟨tight, rfl⟩
  have covers : standing.Covers (onPool answers ambient (nativeAdapter config dialect))
      fun reached seen => reached.standing openPools = seen := covers_standing config dialect opens
  have ensured : (use.program settings before.sessions).Ensures standing _ _ :=
    ensures_use_stands calm use
  obtain ⟨_, ⟨accounts, disconnects⟩, rfl⟩ := ensured.course covers rfl
  constructor
  · intro stays
    exact accounts.mp stays.after
  · intro keeps
    refine ⟨?_, accounts.mpr keeps, disconnects⟩
    intro moment isMoment
    obtain ⟨_, call, rfl, permitted⟩ := ensured.moments covers rfl moment isMoment
    exact permitted.1

/-- From a state in which all is tight. -/
theorem EngineHistory.after_staysTight_iff (config : ConnectionConfig) (dialect : Dialect)
    (opens : OpensPools answers ambient openPools) (uses : List EngineUse)
    {before : EngineHistory ρ}
    (tight : openPools before.pool.state = before.pool.inUse.toList) :
    let adapt := nativeAdapter config dialect
    (∀ former use latter, uses = former ++ use :: latter →
      (before.after answers ambient adapt settings former).StaysTight answers ambient adapt settings
        openPools use) ↔
      ∀ former use latter, uses = former ++ use :: latter →
        ¬(before.after answers ambient adapt settings former).Leaks answers ambient adapt settings
          use := by
  intro adapt
  induction uses generalizing before with
  | nil =>
      refine iff_of_true ?_ ?_
      · intro former use latter split
        cases former <;> cases split
      · intro former use latter split
        cases former <;> cases split
  | cons use uses ih =>
      rw [forall_split_cons, forall_split_cons]
      have step : before.StaysTight answers ambient adapt settings openPools use ↔
          ¬before.Leaks answers ambient adapt settings use :=
        EngineHistory.staysTight_iff config dialect opens tight use
      constructor
      · rintro ⟨stays, others⟩
        exact ⟨step.mp stays, (ih stays.after).mp others⟩
      · rintro ⟨keeps, others⟩
        have stays := step.mpr keeps
        exact ⟨stays, (ih stays.after).mpr others⟩

/-- In any history that begins without an open pool: the pool that is held is open and no
other one is, at every moment of every use, and none is open after disconnecting; if and only
if no use takes another pool in the place of the one that is held and no opening of a pool is
cancelled. -/
theorem open_pool_held_iff (settings : EngineSettings) (config : ConnectionConfig)
    (dialect : Dialect) (opens : OpensPools answers ambient openPools) {state : ρ}
    (noneOpen : openPools state = []) (uses : List EngineUse) :
    let adapt := nativeAdapter config dialect
    let reached := fun former =>
      (EngineHistory.start state).after answers ambient adapt settings former
    (∀ former use latter, uses = former ++ use :: latter →
      (reached former).StaysTight answers ambient adapt settings openPools use) ↔
      ∀ former use latter, uses = former ++ use :: latter →
        ¬(reached former).Leaks answers ambient adapt settings use :=
  EngineHistory.after_staysTight_iff config dialect opens uses noneOpen

end

/-! ## Pools with numbers -/

/-- A number above those of some pools. -/
def nextPool (pools : List PoolId) : PoolId :=
  pools.foldr (fun pool next => max (pool + 1) next) 0

theorem lt_nextPool {pool : PoolId} {pools : List PoolId} (isOpen : pool ∈ pools) :
    pool < nextPool pools := by
  induction pools with
  | nil => cases isOpen
  | cons first others ih =>
      change pool < max (first + 1) (nextPool others)
      rcases List.mem_cons.mp isOpen with rfl | later
      · exact Nat.lt_of_lt_of_le (Nat.lt_succ_self pool) (Nat.le_max_left ..)
      · exact Nat.lt_of_lt_of_le (ih later) (Nat.le_max_right ..)

/-- Pools that open and close as they are told; the state is the pools that are open. -/
def numberedPools : PoolAnswers (List PoolId)
  | .create parameters => fun pools =>
      (.ok (nextPool pools),
        if opensAtOnce parameters then nextPool pools :: pools else pools)
  | .openWithin pool _ => fun pools => (.ok (), if pool ∈ pools then pools else pool :: pools)
  | .close pool => fun pools => (.ok (), pools.erase pool)
  | call => fun pools => ((faultyPool call ()).1, pools)

theorem numberedPools_opensPools : OpensPools numberedPools timeless id where
  after call pools := by cases call <;> rfl
  isNew call pools pool created := by
    cases call with
    | create parameters =>
        cases created
        exact fun isOpen => Nat.lt_irrefl _ (lt_nextPool isOpen)
    | _ => cases created
  closes call pools := by
    cases call with
    | close pool | awaitClosed pool => exact rfl
    | _ => trivial
  meanwhile call pools := timeless_snd call pools

/-- Connecting again after disconnecting leaks no pool. -/
theorem open_pool_held_reconnected :
    let adapt := nativeAdapter { user := "app", database := "app" } .mysql
    let reached := fun former =>
      (EngineHistory.start []).after numberedPools timeless adapt timelessSettings former
    let uses : List EngineUse := [.verb .connect, .verb .disconnect, .verb .connect]
    OpensPools numberedPools timeless id ∧ (reached uses).pool.inUse = some 0 ∧
      ∀ former use latter, uses = former ++ use :: latter →
        (reached former).StaysTight numberedPools timeless adapt timelessSettings id use := by
  intro adapt reached uses
  refine ⟨numberedPools_opensPools, rfl, ?_⟩
  refine (open_pool_held_iff timelessSettings { user := "app", database := "app" } .mysql
    numberedPools_opensPools rfl uses).mpr ?_
  rw [forall_split_cons, forall_split_cons, forall_split_cons]
  refine ⟨?_, ?_, ?_, ?_⟩
  · rintro (⟨old, new, ⟨⟩, _⟩ | aborted)
    exact Bool.false_ne_true aborted
  · rintro (⟨old, new, _, ⟨⟩, _⟩ | aborted)
    exact Bool.false_ne_true aborted
  · rintro (⟨old, new, ⟨⟩, _⟩ | aborted)
    exact Bool.false_ne_true aborted
  · rintro (_ | ⟨_, _⟩) use latter ⟨⟩

/-- Connecting while a pool is held leaves the old pool open beside the new one, and then for
good. -/
theorem connecting_again_leaks :
    let adapt := nativeAdapter { user := "app", database := "app" } .mysql
    let reached := fun uses =>
      (EngineHistory.start []).after numberedPools timeless adapt timelessSettings uses
    (reached [.verb .connect, .verb .connect]).pool.state = [1, 0] ∧
      (reached [.verb .connect, .verb .connect, .verb .disconnect]).pool.state = [0] ∧
      ¬(reached [.verb .connect]).StaysTight numberedPools timeless adapt timelessSettings id
        (.verb .connect) := by
  intro adapt reached
  refine ⟨rfl, rfl, ?_⟩
  intro stays
  have tight : ([1, 0] : List PoolId) = [1] := stays.after
  cases tight

end DocStore
