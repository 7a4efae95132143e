import Mathlib.Logic.Function.Basic
import DocStore.Proofs.EngineInvariants

/-!
# Isolation levels of pooled connections

A connection keeps the isolation level that it was told last.  A session that asks for one
sets it when it begins and takes it back before its connection is put back, so the open
connections in the pool are at the default level, as long as the level can be taken back.

A connection that refuses that, as it does while its transaction is open, is put back all the
same, with the level of the session.
-/

namespace DocStore

/-! ## The levels of connections -/

/-- What is seen of isolation levels: those that connections were told last, the open
connections that were put back, each with its level then, and the connections that stayed
open when they did not give their level back. -/
structure LevelWatch where
  level : ConnectionId → Option IsolationLevel := fun _ => none
  returned : List (ConnectionId × Option IsolationLevel) := []
  refused : List ConnectionId := []

namespace LevelWatch

def putBack (watch : LevelWatch) (isClosed : Bool) (connection : ConnectionId) : LevelWatch :=
  if isClosed then watch
  else { watch with returned := watch.returned ++ [(connection, watch.level connection)] }

/-- What is seen after a call.  A connection that cannot be told a level keeps the one that it
has.  The connections that were closed before the call and that are closed after it are
given. -/
def after (watch : LevelWatch) (wasClosed isClosed : ConnectionId → Bool) :
    (call : PoolCall) → call.Reply → LevelWatch
  | .setIsolation connection level, .ok _ =>
      { watch with level := Function.update watch.level connection level }
  | .setIsolation connection none, .error _ =>
      if isClosed connection then watch
      else { watch with refused := watch.refused ++ [connection] }
  | .checkIn _ connection, _ => watch.putBack (wasClosed connection) connection
  | .giveBack _ connection _, _ => watch.putBack (wasClosed connection) connection
  | _, _ => watch

variable {watch : LevelWatch} {connection : ConnectionId} {isClosed : Bool}

@[simp] theorem level_putBack : (watch.putBack isClosed connection).level = watch.level := by
  unfold putBack
  split <;> rfl

@[simp] theorem refused_putBack : (watch.putBack isClosed connection).refused = watch.refused := by
  unfold putBack
  split <;> rfl

theorem mem_returned_putBack {given : ConnectionId × Option IsolationLevel} :
    given ∈ (watch.putBack isClosed connection).returned ↔
      given ∈ watch.returned ∨ isClosed = false ∧ given = (connection, watch.level connection) := by
  unfold putBack
  cases isClosed <;> simp

theorem after_of_brings {wasClosed closed : ConnectionId → Bool} {call : PoolCall}
    {reply : call.Reply} (brings : call.bringsIn? = some connection) :
    watch.after wasClosed closed call reply = watch.putBack (wasClosed connection) connection := by
  cases call with
  | checkIn pool given =>
      cases brings
      rfl
  | giveBack pool given succeeded =>
      cases brings
      rfl
  | _ => cases brings

/-- What was seen is not forgotten. -/
theorem after_extends (watch : LevelWatch) (wasClosed isClosed : ConnectionId → Bool)
    (call : PoolCall) (reply : call.Reply) :
    (∀ given ∈ watch.returned, given ∈ (watch.after wasClosed isClosed call reply).returned) ∧
      ∀ connection ∈ watch.refused,
        connection ∈ (watch.after wasClosed isClosed call reply).refused := by
  have same : (∀ given ∈ watch.returned, given ∈ watch.returned) ∧
      ∀ connection ∈ watch.refused, connection ∈ watch.refused :=
    ⟨fun _ before => before, fun _ before => before⟩
  cases call with
  | checkIn pool connection | giveBack pool connection succeeded =>
      rw [after_of_brings rfl]
      refine ⟨fun given before => mem_returned_putBack.mpr (.inl before), ?_⟩
      rw [refused_putBack]
      exact same.2
  | setIsolation connection level =>
      cases reply with
      | ok _ => exact same
      | error failure =>
          cases level with
          | some level => exact same
          | none =>
              have now : watch.after wasClosed isClosed (.setIsolation connection none)
                  (.error failure) = if isClosed connection then watch
                    else { watch with refused := watch.refused ++ [connection] } := rfl
              rw [now]
              split
              · exact same
              · exact ⟨same.1, fun other before => List.mem_append_left _ before⟩
  | _ => exact same

end LevelWatch

/-! ## A pool with levels -/

/-- What a call says about a connection being closed. -/
def PoolCall.tells? : (call : PoolCall) → call.Reply → Option (ConnectionId × Bool)
  | isClosed connection, reply => some (connection, reply)
  | _, _ => none

/-- What is known of a pool: the connections that are out of it, those that are closed, and
what is seen of isolation levels. -/
structure PoolView where
  out : List ConnectionId
  closed : ConnectionId → Bool
  watch : LevelWatch

/-- A call and its reply lead from one view to another.  No connection that is out is lent,
and a connection that is closed stays so. -/
structure PoolView.Moves (seen : PoolView) (call : PoolCall) (reply : call.Reply)
    (later : PoolView) : Prop where
  apart : ∀ connection, call.takesOut? reply = some connection → connection ∉ seen.out
  told : ∀ connection isClosed, call.tells? reply = some (connection, isClosed) →
    seen.closed connection = isClosed
  stays : ∀ connection, seen.closed connection = true → later.closed connection = true
  out : later.out = call.leavesOut seen.out reply
  watch : later.watch = seen.watch.after seen.closed later.closed call reply

def watching : Surroundings poolInterface PoolView where
  permits _ _ := True
  replies := PoolView.Moves

namespace PoolView

/-- A connection is closed or at a level. -/
def Has (seen : PoolView) (connection : ConnectionId) (level : Option IsolationLevel) : Prop :=
  seen.closed connection = true ∨ seen.watch.level connection = level

/-- The connections of the sessions that hold one are at the levels that these asked for, and
all others are at the default level. -/
structure Settled (held : List Lease) (seen : PoolView) : Prop where
  nodup : (held.map Lease.connection).Nodup
  isOut : ∀ lease ∈ held, lease.connection ∈ seen.out
  atLevel : ∀ lease ∈ held, seen.Has lease.connection lease.isolation
  atRest : ∀ connection, connection ∉ seen.out → seen.Has connection none
  clean : ∀ given ∈ seen.watch.returned, given.2 = none
  accepted : seen.watch.refused = []

/-- A level was not given back, and a connection was put back with a level. -/
def Spoilt (seen : PoolView) : Prop :=
  seen.watch.refused ≠ [] ∧ ∃ given ∈ seen.watch.returned, given.2 ≠ none

/-- All is settled, or a level that was not given back has spoilt the pool. -/
def Sound (held : List Lease) (seen : PoolView) : Prop := Settled held seen ∨ seen.Spoilt

/-- An open connection has not given its level back. -/
def Doomed (connection : ConnectionId) (seen : PoolView) : Prop :=
  seen.watch.refused ≠ [] ∧ seen.closed connection = false ∧ seen.watch.level connection ≠ none

/-- A call that takes no connection out, brings none in and tells none a level. -/
structure IsIdle (call : PoolCall) (reply : call.Reply) : Prop where
  brings : call.bringsIn? = none
  takes : call.takesOut? reply = none
  watches : ∀ (watch : LevelWatch) wasClosed isClosed,
    watch.after wasClosed isClosed call reply = watch

variable {held : List Lease} {seen later : PoolView} {call : PoolCall} {reply : call.Reply}
  {connection : ConnectionId} {lease : Lease}

theorem Moves.has {level : Option IsolationLevel} (moves : seen.Moves call reply later)
    (same : later.watch.level connection = seen.watch.level connection)
    (has : seen.Has connection level) : later.Has connection level := by
  rcases has with closed | isLevel
  · exact .inl (moves.stays connection closed)
  · exact .inr (same.trans isLevel)

theorem Settled.drop (settled : Settled (lease :: held) seen) : Settled held seen := by
  obtain ⟨nodup, isOut, atLevel, atRest, clean, accepted⟩ := settled
  exact ⟨nodup.of_cons, (List.forall_mem_cons.mp isOut).2, (List.forall_mem_cons.mp atLevel).2,
    atRest, clean, accepted⟩

theorem Settled.perm {other : List Lease} (settled : Settled held seen) (same : held.Perm other) :
    Settled other seen := by
  obtain ⟨nodup, isOut, atLevel, atRest, clean, accepted⟩ := settled
  refine ⟨((same.map _).nodup_iff).mp nodup, ?_, ?_, atRest, clean, accepted⟩
  · intro lease isHeld
    exact isOut lease (same.mem_iff.mpr isHeld)
  · intro lease isHeld
    exact atLevel lease (same.mem_iff.mpr isHeld)

/-- Nothing changes for a pool as long as no connection moves and nothing is seen of levels. -/
theorem Settled.still (settled : Settled held seen) (moves : seen.Moves call reply later)
    (sameOut : later.out = seen.out) (sameWatch : later.watch = seen.watch) :
    Settled held later := by
  have has {connection : ConnectionId} {level : Option IsolationLevel} :
      seen.Has connection level → later.Has connection level := moves.has (by rw [sameWatch])
  refine ⟨settled.nodup, ?_, fun lease isHeld => has (settled.atLevel lease isHeld), ?_, ?_, ?_⟩
  · rw [sameOut]
    exact settled.isOut
  · intro connection atHome
    rw [sameOut] at atHome
    exact has (settled.atRest connection atHome)
  · rw [sameWatch]
    exact settled.clean
  · rw [sameWatch]
    exact settled.accepted

theorem Settled.idle (settled : Settled held seen) (moves : seen.Moves call reply later)
    (idle : IsIdle call reply) : Settled held later := by
  apply settled.still moves
  · rw [moves.out]
    unfold PoolCall.leavesOut
    rw [idle.brings, idle.takes]
    rfl
  · exact moves.watch.trans (idle.watches _ _ _)

/-- A connection that is closed is at any level. -/
theorem Settled.close {level : Option IsolationLevel} (settled : Settled (lease :: held) seen)
    (closed : seen.closed lease.connection = true) :
    Settled ({ lease with isolation := level } :: held) seen := by
  obtain ⟨nodup, isOut, atLevel, atRest, clean, accepted⟩ := settled
  refine ⟨nodup, List.forall_mem_cons.mpr (List.forall_mem_cons.mp isOut), ?_, atRest, clean,
    accepted⟩
  exact List.forall_mem_cons.mpr ⟨.inl closed, (List.forall_mem_cons.mp atLevel).2⟩

/-- A connection that is taken out of the pool is at the default level. -/
theorem Settled.take (settled : Settled held seen) (moves : seen.Moves call reply later)
    (brings : call.bringsIn? = none) (takes : call.takesOut? reply = some connection)
    (same : later.watch = seen.watch) :
    Settled ({ connection, isolation := none } :: held) later := by
  have notOut : connection ∉ seen.out := moves.apart connection takes
  have nowOut : later.out = connection :: seen.out := by
    rw [moves.out]
    unfold PoolCall.leavesOut
    rw [brings, takes]
    rfl
  have still {connection : ConnectionId} {level : Option IsolationLevel} :
      seen.Has connection level → later.Has connection level := moves.has (by rw [same])
  refine ⟨?_, ?_, ?_, ?_, ?_, ?_⟩
  · refine List.nodup_cons.mpr ⟨?_, settled.nodup⟩
    intro isHeld
    obtain ⟨lease, isLease, rfl⟩ := List.mem_map.mp isHeld
    exact notOut (settled.isOut lease isLease)
  · rw [nowOut]
    refine List.forall_mem_cons.mpr ⟨List.mem_cons_self, fun lease isHeld => ?_⟩
    exact List.mem_cons_of_mem _ (settled.isOut lease isHeld)
  · refine List.forall_mem_cons.mpr ⟨still (settled.atRest connection notOut), ?_⟩
    exact fun lease isHeld => still (settled.atLevel lease isHeld)
  · intro other atHome
    rw [nowOut, List.mem_cons, not_or] at atHome
    exact still (settled.atRest other atHome.2)
  · rw [same]
    exact settled.clean
  · rw [same]
    exact settled.accepted

/-- A connection that is told a level is at it, and the others are where they were. -/
theorem Settled.set {level : Option IsolationLevel}
    (settled : Settled (lease :: held) seen)
    (moves : seen.Moves (.setIsolation lease.connection level) (.ok ()) later) :
    Settled ({ lease with isolation := level } :: held) later := by
  have sameOut : later.out = seen.out := moves.out
  have now : later.watch =
      { seen.watch with level := Function.update seen.watch.level lease.connection level } :=
    moves.watch
  have still {connection : ConnectionId} {known : Option IsolationLevel}
      (other : connection ≠ lease.connection) :
      seen.Has connection known → later.Has connection known := by
    apply moves.has
    rw [now]
    exact Function.update_of_ne other _ _
  have apart : lease.connection ∉ held.map Lease.connection := (List.nodup_cons.mp settled.nodup).1
  refine ⟨settled.nodup, ?_, ?_, ?_, ?_, ?_⟩
  · rw [sameOut]
    exact List.forall_mem_cons.mpr (List.forall_mem_cons.mp settled.isOut)
  · refine List.forall_mem_cons.mpr ⟨.inr ?_, fun other isHeld => ?_⟩
    · rw [now]
      exact Function.update_self _ _ _
    · apply still _ (settled.atLevel other (List.mem_cons_of_mem _ isHeld))
      intro same
      exact apart (List.mem_map.mpr ⟨other, isHeld, same⟩)
  · intro connection atHome
    rw [sameOut] at atHome
    apply still _ (settled.atRest connection atHome)
    rintro rfl
    exact atHome (settled.isOut lease List.mem_cons_self)
  · rw [now]
    exact settled.clean
  · rw [now]
    exact settled.accepted

/-- A connection that does not give its level back is closed then, or doomed. -/
theorem Settled.refuse {level : IsolationLevel} {failure : Failure}
    (settled : Settled ({ connection, isolation := some level } :: held) seen)
    (moves : seen.Moves (.setIsolation connection none) (.error failure) later) :
    Settled ({ connection, isolation := none } :: held) later ∨ Doomed connection later := by
  have now : later.watch = if later.closed connection then seen.watch
      else { seen.watch with refused := seen.watch.refused ++ [connection] } := moves.watch
  cases closed : later.closed connection with
  | true =>
      rw [closed, if_pos rfl] at now
      have still : Settled ({ connection, isolation := some level } :: held) later :=
        settled.still moves moves.out now
      exact .inl (still.close closed)
  | false =>
      rw [closed, if_neg Bool.false_ne_true] at now
      right
      refine ⟨?_, closed, ?_⟩
      · rw [now]
        exact List.append_ne_nil_of_right_ne_nil _ (List.cons_ne_nil _ _)
      · rw [now]
        rcases settled.atLevel _ List.mem_cons_self with wasClosed | isLevel
        · have stillClosed : later.closed connection = true := moves.stays _ wasClosed
          rw [closed] at stillClosed
          cases stillClosed
        · intro isNone
          cases isLevel.symm.trans isNone

theorem Settled.putBack (settled : Settled ({ connection, isolation := none } :: held) seen)
    (moves : seen.Moves call reply later) (brings : call.bringsIn? = some connection) :
    Settled held later := by
  have sameOut : later.out = seen.out.erase connection := by
    rw [moves.out]
    unfold PoolCall.leavesOut
    rw [brings]
  have now : later.watch = seen.watch.putBack (seen.closed connection) connection :=
    moves.watch.trans (LevelWatch.after_of_brings brings)
  have still {other : ConnectionId} {known : Option IsolationLevel} :
      seen.Has other known → later.Has other known :=
    moves.has (by rw [now, LevelWatch.level_putBack])
  have apart : connection ∉ held.map Lease.connection := (List.nodup_cons.mp settled.nodup).1
  have atDefault : seen.Has connection none := settled.atLevel _ List.mem_cons_self
  refine ⟨settled.drop.nodup, ?_, fun lease isHeld => still (settled.drop.atLevel lease isHeld),
    ?_, ?_, ?_⟩
  · intro lease isHeld
    rw [sameOut]
    refine (List.mem_erase_of_ne ?_).mpr (settled.drop.isOut lease isHeld)
    intro same
    exact apart (List.mem_map.mpr ⟨lease, isHeld, same⟩)
  · intro other atHome
    rw [sameOut] at atHome
    by_cases same : other = connection
    · subst same
      exact still atDefault
    · rw [List.mem_erase_of_ne same] at atHome
      exact still (settled.atRest other atHome)
  · intro given isGiven
    rw [now, LevelWatch.mem_returned_putBack] at isGiven
    rcases isGiven with before | ⟨isOpen, rfl⟩
    · exact settled.clean given before
    · rcases atDefault with closed | isNone
      · rw [isOpen] at closed
        cases closed
      · exact isNone
  · rw [now, LevelWatch.refused_putBack]
    exact settled.accepted

theorem Doomed.putBack (doomed : Doomed connection seen) (moves : seen.Moves call reply later)
    (brings : call.bringsIn? = some connection) : later.Spoilt := by
  obtain ⟨refused, isOpen, atLevel⟩ := doomed
  have now : later.watch = seen.watch.putBack (seen.closed connection) connection :=
    moves.watch.trans (LevelWatch.after_of_brings brings)
  refine ⟨?_, (connection, seen.watch.level connection), ?_, atLevel⟩
  · rw [now, LevelWatch.refused_putBack]
    exact refused
  · rw [now]
    exact LevelWatch.mem_returned_putBack.mpr (.inr ⟨isOpen, rfl⟩)

theorem Spoilt.moves (spoilt : seen.Spoilt) (moves : seen.Moves call reply later) :
    later.Spoilt := by
  obtain ⟨refused, given, isGiven, atLevel⟩ := spoilt
  obtain ⟨stillGiven, stillRefused⟩ :=
    seen.watch.after_extends seen.closed later.closed call reply
  rw [← moves.watch] at stillGiven stillRefused
  obtain ⟨connection, isRefused⟩ := List.exists_mem_of_ne_nil _ refused
  exact ⟨List.ne_nil_of_mem (stillRefused connection isRefused), given, stillGiven given isGiven,
    atLevel⟩

theorem Sound.moves {other : List Lease} (sound : Sound held seen)
    (moves : seen.Moves call reply later) (settles : Settled held seen → Settled other later) :
    Sound other later := by
  rcases sound with settled | spoilt
  · exact .inl (settles settled)
  · exact .inr (spoilt.moves moves)

theorem Sound.drop (sound : Sound (lease :: held) seen) : Sound held seen := by
  rcases sound with settled | spoilt
  · exact .inl settled.drop
  · exact .inr spoilt

theorem Sound.perm {other : List Lease} (sound : Sound held seen) (same : held.Perm other) :
    Sound other seen := by
  rcases sound with settled | spoilt
  · exact .inl (settled.perm same)
  · exact .inr spoilt

end PoolView

/-! ## The calls of the adapter -/

namespace Postgres

open Action PoolAction PoolView

variable {held : List Lease} {own : Option PoolId} {seen : PoolView} {call : PoolCall}
  {connection : ConnectionId} {pool : PoolId} {isolation : Option IsolationLevel} {lease : Lease}
  {α : Type}

/-- A connection is about to be put back: it is at the default level, or doomed. -/
def Leaving (connection : ConnectionId) (held : List Lease) (seen : PoolView) : Prop :=
  Sound ({ connection, isolation := none } :: held) seen ∨ Doomed connection seen

/-- A call that is idle whatever its reply is leaves the pool sound. -/
theorem keeps_sound (brings : call.bringsIn? = none)
    (takes : ∀ reply, call.takesOut? reply = none)
    (watches : ∀ reply (watch : LevelWatch) wasClosed isClosed,
      watch.after wasClosed isClosed call reply = watch) :
    watching.Keeps (fun (_ : Option PoolId) => Sound held) call := by
  intro own seen sound
  refine ⟨trivial, ?_⟩
  intro reply later moves
  have idle : IsIdle call reply := ⟨brings, takes reply, watches reply⟩
  exact sound.moves moves fun settled => settled.idle moves idle

theorem ensures_taking {read : call.Reply → Except Failure ConnectionId}
    (brings : call.bringsIn? = none)
    (takes : ∀ reply, call.takesOut? reply = (read reply).toOption)
    (watches : ∀ reply (watch : LevelWatch) wasClosed isClosed,
      watch.after wasClosed isClosed call reply = watch) (sound : Sound held seen) :
    (perform call read).Ensures watching own seen
      (fun connection _ later => Sound ({ connection, isolation := none } :: held) later)
      fun _ _ later => Sound held later := by
  rw [ensures_perform]
  refine ⟨trivial, ?_⟩
  intro reply later moves
  have taken := takes reply
  have same : later.watch = seen.watch := moves.watch.trans (watches reply _ _ _)
  cases isRead : read reply with
  | ok connection =>
      rw [isRead] at taken
      exact sound.moves moves fun settled => settled.take moves brings taken same
  | error failure =>
      rw [isRead] at taken
      exact sound.moves moves fun settled =>
        settled.idle moves ⟨brings, taken, watches reply⟩

theorem ensures_checkOut_sound (sound : Sound held seen) :
    (checkOut pool).Ensures watching own seen
      (fun connection _ later => Sound ({ connection, isolation := none } :: held) later)
      fun _ _ later => Sound held later := by
  refine ensures_taking rfl ?_ (fun _ _ _ _ => rfl) sound
  intro reply
  cases reply <;> rfl

theorem ensures_borrow_sound (sound : Sound held seen) :
    (borrow pool).Ensures watching own seen
      (fun connection _ later => Sound ({ connection, isolation := none } :: held) later)
      fun _ _ later => Sound held later := by
  refine ensures_taking rfl ?_ (fun _ _ _ _ => rfl) sound
  intro reply
  cases reply <;> rfl

/-- The pool is sound after a connection was put back, whatever it replies. -/
theorem reaches_bringing {read : call.Reply → Except Failure α}
    (brings : call.bringsIn? = some connection) (leaving : Leaving connection held seen) :
    (perform call read).Reaches watching own seen fun _ => Sound held := by
  unfold Reaches
  rw [ensures_perform]
  refine ⟨trivial, ?_⟩
  intro reply later moves
  have sound : Sound held later := by
    rcases leaving with atDefault | doomed
    · exact atDefault.moves moves fun settled => settled.putBack moves brings
    · exact .inr (doomed.putBack moves brings)
  cases read reply with
  | ok result => exact sound
  | error failure => exact sound

theorem reaches_checkIn (leaving : Leaving connection held seen) :
    (checkIn pool connection).Reaches watching own seen fun _ => Sound held :=
  reaches_bringing rfl leaving

theorem reaches_giveBack {succeeded : Bool} (leaving : Leaving connection held seen) :
    (giveBack pool connection succeeded).Reaches watching own seen fun _ => Sound held :=
  reaches_bringing rfl leaving

theorem ensures_applyIsolation
    (sound : Sound ({ connection, isolation := none } :: held) seen) :
    (applyIsolation connection isolation).Ensures watching own seen
      (fun _ _ later => Sound ({ connection, isolation } :: held) later)
      fun _ _ later => Sound ({ connection, isolation := none } :: held) later := by
  cases isolation with
  | none => exact sound
  | some level =>
      unfold applyIsolation PoolAction.setIsolation
      rw [ensures_perform]
      refine ⟨trivial, ?_⟩
      intro reply later moves
      cases reply with
      | ok _ => exact sound.moves moves fun settled => settled.set moves
      | error failure =>
          exact sound.moves moves fun settled =>
            settled.idle moves ⟨rfl, rfl, fun _ _ _ => rfl⟩

/-- A session that begins holds a connection at the level that it asked for. -/
theorem ensures_begin_sound (sound : Sound held seen) :
    (begin isolation).Ensures watching own seen (fun lease _ later => Sound (lease :: held) later)
      fun _ _ later => Sound held later := by
  refine ensures_required_bind sound fun pool => ?_
  rw [ensures_bind]
  apply Ensures.imp (ensures_checkOut_sound sound)
  · intro connection after middle taken
    unfold PoolAction.onFailure
    rw [ensures_bind, ensures_recover]
    apply Ensures.imp (ensures_applyIsolation taken)
    · intro _ _ later applied
      exact applied
    · intro failure _ later kept
      dsimp only
      split
      · rw [ensures_bind]
        apply Ensures.imp (reaches_checkIn (.inl kept))
        · intro _ _ last sound
          exact sound
        · intro _ _ last sound
          exact sound
      · exact kept.drop
  · intro failure after later kept
    exact kept

theorem reaches_resetIsolation (sound : Sound (lease :: held) seen) :
    (resetIsolation lease).Reaches watching own seen fun _ => Leaving lease.connection held := by
  obtain ⟨connection, isolation⟩ := lease
  cases isolation with
  | none => exact .inl sound
  | some level =>
      unfold resetIsolation PoolAction.isClosed Reaches
      dsimp only
      rw [ensures_bind, ensures_perform]
      refine ⟨trivial, ?_⟩
      intro isClosed middle told
      have still : Sound ({ connection, isolation := some level } :: held) middle :=
        sound.moves told fun settled => settled.idle told ⟨rfl, rfl, fun _ _ _ => rfl⟩
      cases isClosed with
      | true =>
          have closed : middle.closed connection = true :=
            told.stays connection (told.told connection true rfl)
          left
          rcases still with settled | spoilt
          · exact .inl (settled.close closed)
          · exact .inr spoilt
      | false =>
          change Ensures watching (PoolAction.setIsolation connection none) _ _ _ _
          unfold PoolAction.setIsolation
          rw [ensures_perform]
          refine ⟨trivial, ?_⟩
          intro reply later moves
          cases reply with
          | ok _ => exact .inl (still.moves moves fun settled => settled.set moves)
          | error failure =>
              rcases still with settled | spoilt
              · exact (settled.refuse moves).imp .inl id
              · exact .inl (.inr (spoilt.moves moves))

theorem reaches_release_sound (sound : Sound (lease :: held) seen) :
    (release lease).Reaches watching own seen fun _ => Sound held := by
  refine ensures_required_bind sound.drop fun pool => ?_
  unfold PoolAction.always
  rw [ensures_bind, ensures_attempt]
  apply Ensures.imp (reaches_resetIsolation sound)
  · intro _ after later leaving
    exact (reaches_checkIn leaving).bind fun _ => silent_ofOutcome.keeps
  · intro failure after later leaving
    exact (reaches_checkIn leaving).bind fun _ => silent_ofOutcome.keeps

theorem keeps_executeOn_sound {sql : String} {parameters : List Value} :
    (executeOn connection sql parameters).Keeps watching fun _ => Sound held := by
  intro own seen sound
  have runs : (runOn connection sql parameters).Reaches watching own seen fun _ => Sound held :=
    reaches_runOn
      (keeps_perform (keeps_sound rfl (fun _ => rfl) fun _ _ _ _ => rfl) own seen sound)
      (keeps_sound rfl (fun _ => rfl) fun _ _ _ _ => rfl)
  exact runs.bind fun _ => silent_pure.keeps

theorem keeps_withBorrowed_sound {body : ConnectionId → PoolAction α}
    (keeps : ∀ connection held, (body connection).Keeps watching fun _ => Sound held) :
    (withBorrowed pool body).Keeps watching fun _ => Sound held := by
  intro own seen sound
  apply reaches_withBorrowed (ensures_borrow_sound sound)
  · intro connection
    exact keeps connection _
  · intro connection succeeded after later kept
    exact reaches_giveBack (.inl kept)

end Postgres

/-- The leases that are held after a call and its reply. -/
def AdapterCall.leaves (held : List Lease) :
    (call : AdapterCall) → Except Failure call.Result → List Lease
  | begin _, .ok lease => lease :: held
  | release lease, _ => held.erase lease
  | _, _ => held

namespace Postgres

open Action PoolAction PoolView

variable {held : List Lease} {own : Option PoolId} {seen : PoolView}

/-- After every call of the adapter the pool is sound for the leases that are held then. -/
theorem ensures_adapt_sound (config : ConnectionConfig) {call : AdapterCall}
    (isHeld : ∀ lease, call = .release lease → lease ∈ held) (sound : Sound held seen) :
    (adapt config call).Ensures watching own seen
      (fun result _ later => Sound (call.leaves held (.ok result)) later)
      fun failure _ later => Sound (call.leaves held (.error failure)) later := by
  have closes (pool : PoolId) : watching.Keeps (fun (_ : Option PoolId) => Sound held)
      (.close pool) := keeps_sound rfl (fun _ => rfl) fun _ _ _ _ => rfl
  cases call with
  | openPool =>
      have opens : (openPool config).Keeps watching fun _ => Sound held :=
        keeps_openPool_of closes (fun _ => keeps_sound rfl (fun _ => rfl) fun _ _ _ _ => rfl)
          fun _ _ => keeps_sound rfl (fun _ => rfl) fun _ _ _ _ => rfl
      exact opens own seen sound
  | closePool =>
      have ends : closePool.Keeps watching fun _ => Sound held := keeps_closePool_of closes
      exact ends own seen sound
  | execute sql parameters lease =>
      cases lease with
      | some lease => exact keeps_executeOn_sound own seen sound
      | none =>
          refine ensures_required_bind sound fun pool => ?_
          exact keeps_withBorrowed_sound (fun _ _ => keeps_executeOn_sound) own seen sound
  | begin isolation => exact ensures_begin_sound sound
  | commit lease =>
      exact keeps_perform (keeps_sound rfl (fun _ => rfl) fun _ _ _ _ => rfl) own seen sound
  | rollback lease =>
      exact keeps_perform (keeps_sound rfl (fun _ => rfl) fun _ _ _ _ => rfl) own seen sound
  | release lease =>
      exact reaches_release_sound (sound.perm (List.perm_cons_erase (isHeld lease rfl)))

end Postgres

/-! ## The leases of sessions -/

/-- The leases of the sessions that were not released. -/
def heldLeases (sessions : List Session) : List Lease :=
  (sessions.filter fun session => !session.released).map Session.lease

theorem heldLeases_append (sessions : List Session) (lease : Lease) :
    heldLeases (sessions ++ [{ lease : Session }]) = heldLeases sessions ++ [lease] := by
  simp [heldLeases]

theorem heldLeases_cons (session : Session) (sessions : List Session) :
    heldLeases (session :: sessions) =
      if session.released then heldLeases sessions
      else session.lease :: heldLeases sessions := by
  unfold heldLeases
  cases released : session.released <;> simp [released]

/-- The first release of a session ends its lease. -/
theorem perm_heldLeases_set {sessions : List Session} {session : SessionId} {lease : Lease}
    (isHeld : sessions[session]? = some { lease : Session }) :
    (heldLeases sessions).Perm
      (lease :: heldLeases (sessions.set session { lease, released := true })) := by
  induction sessions generalizing session with
  | nil => cases isHeld
  | cons first others ih =>
      cases session with
      | zero =>
          cases isHeld
          rw [List.set_cons_zero, heldLeases_cons, heldLeases_cons]
          exact .refl _
      | succ session =>
          have later := ih isHeld
          rw [List.set_cons_succ, heldLeases_cons, heldLeases_cons]
          split
          · exact later
          · exact (later.cons first.lease).trans (.swap ..)

/-- An adapter whose sessions hold leases. -/
def holding : Surroundings engineInterface (List Lease) where
  permits held
    | .adapter call => ∀ lease, call = .release lease → lease ∈ held
    | .ambient _ => True
  replies held
    | .adapter call, reply, later => later = call.leaves held reply
    | .ambient _, _, later => later = held

/-- What sessions hold is what the adapter has leased to them. -/
def OfSessions (sessions : List Session) (held : List Lease) : Prop :=
  held.Perm (heldLeases sessions)

theorem keeps_ofSessions {call : AdapterCall} (notRelease : ∀ lease, call ≠ .release lease)
    (leaves : ∀ held reply, call.leaves held reply = held) :
    holding.Keeps OfSessions (.adapter call) := by
  intro sessions held same
  refine ⟨fun lease isRelease => absurd isRelease (notRelease lease), ?_⟩
  rintro reply later replied
  rw [replied.trans (leaves held reply)]
  exact same

theorem holding_maintains : holding.Maintains OfSessions where
  ambient call := by
    intro sessions held same
    refine ⟨trivial, ?_⟩
    rintro reply _ rfl
    exact same
  execute sql parameters lease := keeps_ofSessions nofun fun _ _ => rfl
  commit lease := keeps_ofSessions nofun fun _ _ => rfl
  rollback lease := keeps_ofSessions nofun fun _ _ => rfl
  begin isolation sessions held same := by
    refine ⟨nofun, ?_, ?_⟩
    · rintro lease _ rfl
      unfold OfSessions
      rw [heldLeases_append]
      exact (same.cons lease).trans (List.perm_append_singleton lease _).symm
    · rintro failure _ rfl
      exact same
  release session lease sessions held isHeld same := by
    have ends : (heldLeases sessions).Perm (lease :: _) := perm_heldLeases_set isHeld
    refine ⟨?_, ?_⟩
    · rintro _ ⟨⟩
      exact (same.trans ends).mem_iff.mpr List.mem_cons_self
    · rintro reply _ rfl
      have erased := (same.trans ends).erase lease
      rwa [List.erase_cons_head] at erased

/-- Statements outside of sessions, connecting and disconnecting change no lease. -/
theorem keeps_ofSessions_outside {call : EngineCall} (outside : call.IsOutside) :
    holding.Keeps OfSessions call := by
  cases call with
  | ambient call => exact holding_maintains.ambient call
  | adapter call =>
      cases call with
      | openPool | closePool => exact keeps_ofSessions nofun fun _ _ => rfl
      | execute sql parameters lease => exact holding_maintains.execute sql parameters lease
      | _ => exact outside.elim

/-! ## Histories -/

section

variable {ρ : Type}

/-- The connections that are closed: the pool tells them, and they stay closed. -/
structure TellsClosed (answers : PoolAnswers ρ)
    (ambient : (call : AmbientCall) → StateM ρ call.Reply) (closed : ρ → ConnectionId → Bool) :
    Prop where
  told : ∀ connection state, (answers (.isClosed connection) state).1 = closed state connection
  stays : ∀ call state connection, closed state connection = true →
    closed (answers call state).2 connection = true
  staysMeanwhile : ∀ call state connection, closed state connection = true →
    closed (ambient call state).2 connection = true

/-- A pool with what is seen of isolation levels. -/
def watched (closed : ρ → ConnectionId → Bool) (answers : PoolAnswers ρ) :
    PoolAnswers (ρ × LevelWatch) :=
  fun call (state, watch) =>
    let answered := answers call state
    (answered.1, answered.2, watch.after (closed state) (closed answered.2) call answered.1)

/-- Surroundings in which nothing is seen of isolation levels. -/
def unwatched (ambient : (call : AmbientCall) → StateM ρ call.Reply) :
    (call : AmbientCall) → StateM (ρ × LevelWatch) call.Reply :=
  fun call (state, watch) =>
    let answered := ambient call state
    (answered.1, answered.2, watch)

/-- A history that has not begun, where nothing was seen yet. -/
def watchedStart (inUse : Option PoolId) (state : ρ) : EngineHistory (ρ × LevelWatch) :=
  { sessions := [], pool := { inUse, state := (state, {}), exchanges := [] } }

def PoolView.IsOf (holds : ρ → List ConnectionId → Prop) (closed : ρ → ConnectionId → Bool)
    (state : ρ × LevelWatch) (seen : PoolView) : Prop :=
  ∃ out, holds state.1 out ∧ seen = { out, closed := closed state.1, watch := state.2 }

/-- A pool is sound for some leases. -/
def PoolState.IsSound (holds : ρ → List ConnectionId → Prop) (closed : ρ → ConnectionId → Bool)
    (reached : PoolState (ρ × LevelWatch)) (held : List Lease) : Prop :=
  ∃ seen : PoolView, seen.IsOf holds closed reached.state ∧ PoolView.Sound held seen

variable {answers : PoolAnswers ρ} {ambient : (call : AmbientCall) → StateM ρ call.Reply}
  {holds : ρ → List ConnectionId → Prop} {closed : ρ → ConnectionId → Bool}

theorem covers_watching (lends : lendingApart.Covers answers holds)
    (tells : TellsClosed answers ambient closed) :
    watching.Covers (recorded (watched closed answers)) fun reached seen =>
      seen.IsOf holds closed reached.1 := by
  rintro ⟨⟨state, watch⟩, exchanges⟩ _ call ⟨out, isHeld, rfl⟩ _
  obtain ⟨_, ⟨apart, rfl⟩, stillHeld⟩ := lends state out call isHeld trivial
  let answered := answers call state
  refine ⟨{ out := call.leavesOut out answered.1, closed := closed answered.2
            watch := watch.after (closed state) (closed answered.2) call answered.1 },
    ⟨apart, ?_, tells.stays call state, rfl, rfl⟩, _, stillHeld, rfl⟩
  cases call with
  | isClosed connection =>
      rintro _ _ ⟨⟩
      exact (tells.told connection state).symm
  | _ => nofun

theorem covers_holding (config : ConnectionConfig) (lends : lendingApart.Covers answers holds)
    (still : ∀ call state out, holds state out → holds (ambient call state).2 out)
    (tells : TellsClosed answers ambient closed) :
    holding.Covers (onPool (watched closed answers) (unwatched ambient) (Postgres.adapt config))
      (PoolState.IsSound holds closed) := by
  rintro ⟨inUse, ⟨state, watch⟩, exchanges⟩ held call ⟨_, ⟨out, isHeld, rfl⟩, sound⟩ permitted
  cases call with
  | ambient call =>
      refine ⟨held, rfl, ⟨out, closed (ambient call state).2, watch⟩,
        ⟨out, still call state out isHeld, rfl⟩, ?_⟩
      -- connections may have been closed meanwhile, and all else is as it was
      rcases sound with settled | spoilt
      · left
        have has {connection : ConnectionId} {level : Option IsolationLevel}
            (has : PoolView.Has ⟨out, closed state, watch⟩ connection level) :
            PoolView.Has ⟨out, closed (ambient call state).2, watch⟩ connection level :=
          has.imp_left (tells.staysMeanwhile call state connection)
        exact ⟨settled.nodup, settled.isOut,
          fun lease isLease => has (settled.atLevel lease isLease),
          fun connection atHome => has (settled.atRest connection atHome), settled.clean,
          settled.accepted⟩
      · exact .inr spoilt
  | adapter call =>
      obtain ⟨seen, ended, isOf⟩ := Program.Ensures.course
        (Postgres.ensures_adapt_sound config permitted sound) (covers_watching lends tells)
        (show PoolView.IsOf holds closed ((state, watch), exchanges).1 _ from ⟨out, isHeld, rfl⟩)
      refine ⟨call.leaves held _, rfl, seen, isOf, ?_⟩
      change Action.Ends _ _ (Action.run (recorded (watched closed answers))
        (Postgres.adapt config call) inUse ((state, watch), exchanges)).1 seen at ended
      unfold onPool
      dsimp only
      generalize Action.run (recorded (watched closed answers)) (Postgres.adapt config call) inUse
        ((state, watch), exchanges) = run at ended ⊢
      obtain ⟨⟨outcome, own⟩, reached⟩ := run
      cases outcome with
      | ok result => exact ended
      | error failure => exact ended

/-- After any history the pool is sound for the leases of the sessions. -/
theorem meets_sound (settings : EngineSettings) (config : ConnectionConfig)
    (lends : lendingApart.Covers answers holds)
    (still : ∀ call state out, holds state out → holds (ambient call state).2 out)
    (tells : TellsClosed answers ambient closed) (inUse : Option PoolId) {state : ρ}
    (fresh : holds state []) (uses : List EngineUse) :
    ((watchedStart inUse state).after (watched closed answers) (unwatched ambient)
      (Postgres.adapt config) settings uses).Meets (PoolState.IsSound holds closed)
        OfSessions := by
  have begins : (watchedStart inUse state).Meets (PoolState.IsSound holds closed) OfSessions := by
    refine ⟨[], ⟨⟨[], closed state, {}⟩, ⟨[], fresh, rfl⟩, .inl ?_⟩, .refl _⟩
    exact ⟨List.nodup_nil, nofun, nofun, fun _ _ => .inr rfl, nofun, rfl⟩
  apply begins.after (covers_holding config lends still tells)
  · intro pool held agreed
    exact agreed
  · intro use sessions held same
    apply holding_maintains.ensures_program _ _ same
    · intro _
      exact EngineAction.keeps_connect fun _ => keeps_ofSessions_outside
    · intro _
      exact EngineAction.keeps_disconnect fun _ => keeps_ofSessions_outside

/-- After any history, with or without a pool at its beginning, on a pool that lends no
connection that is out: the open connections that were put back were at the default level, if
and only if no connection that stayed open refused to give its level back.  Until one does,
each session has the level that it asked for. -/
theorem returned_at_default_iff (settings : EngineSettings) (config : ConnectionConfig)
    (lends : lendingApart.Covers answers holds)
    (still : ∀ call state out, holds state out → holds (ambient call state).2 out)
    (tells : TellsClosed answers ambient closed) (inUse : Option PoolId) {state : ρ}
    (fresh : holds state []) (uses : List EngineUse) :
    let reached := (watchedStart inUse state).after (watched closed answers)
      (unwatched ambient) (Postgres.adapt config) settings uses
    let watch := reached.pool.state.2
    ((∀ given ∈ watch.returned, given.2 = none) ↔ watch.refused = []) ∧
      (watch.refused = [] → ∀ session ∈ reached.sessions, session.released = false →
        closed reached.pool.state.1 session.lease.connection = true ∨
          watch.level session.lease.connection = session.lease.isolation) := by
  intro reached watch
  obtain ⟨held, ⟨_, ⟨out, isHeld, rfl⟩, sound⟩, same⟩ :=
    meets_sound settings config lends still tells inUse fresh uses
  rcases sound with settled | ⟨refused, given, isGiven, atLevel⟩
  · refine ⟨iff_of_true settled.clean settled.accepted, ?_⟩
    intro _ session isSession notReleased
    apply settled.atLevel
    rw [same.mem_iff]
    refine List.mem_map.mpr ⟨session, List.mem_filter.mpr ⟨isSession, ?_⟩, rfl⟩
    rw [notReleased]
    rfl
  · refine ⟨iff_of_false ?_ refused, fun accepted => absurd accepted refused⟩
    intro clean
    exact atLevel (clean given isGiven)

end

/-- A pool with one connection, which refuses to change its level while its transaction is
open.  The second part of the state tells whether it is. -/
def transactionalPool : PoolAnswers (List ConnectionId × Bool)
  | .execute connection sql parameters => fun (out, _) =>
      ((singlePool (.execute connection sql parameters) out).1, out, true)
  | .commit _ => fun (out, _) => (.ok (), out, false)
  | .rollback _ => fun (out, _) => (.ok (), out, false)
  | .setIsolation .. => fun (out, isBusy) =>
      (if isBusy then .error (.engine { kind := .misuse, text := "in transaction" }) else .ok (),
        out, isBusy)
  | .checkIn _ connection => fun (out, _) => (.ok (), out.erase connection, false)
  | .giveBack _ connection _ => fun (out, _) => (.ok (), out.erase connection, false)
  | call => fun (out, isBusy) =>
      let answered := singlePool call out
      (answered.1, answered.2, isBusy)

theorem transactionalPool_lendsApart :
    lendingApart.Covers transactionalPool fun state out => state.1 = out := by
  rintro ⟨out, isBusy⟩ _ call rfl permitted
  cases call with
  | checkOut pool => exact singlePool_lendsApart out out (.checkOut pool) rfl permitted
  | borrow pool => exact singlePool_lendsApart out out (.borrow pool) rfl permitted
  | _ => exact ⟨_, ⟨by rintro _ ⟨⟩, rfl⟩, rfl⟩

theorem transactionalPool_tellsClosed :
    TellsClosed transactionalPool timeless fun _ _ => false where
  told _ _ := rfl
  stays := nofun
  staysMeanwhile := nofun

/-- A session asks for an isolation level and runs a statement, before other uses. -/
def afterStatement (uses : List EngineUse) : LevelWatch :=
  ((watchedStart (some 0) ([], false)).after (watched (fun _ _ => false) transactionalPool)
    (unwatched timeless) (Postgres.adapt { user := "app", database := "app" })
    Transaction.plainSettings
    (.verb (.startSession (some "SERIALIZABLE")) :: .verb (.query "SELECT 1" [] (some 0)) ::
      uses)).pool.state.2

/-- A session that is committed before it is released leaves the default level. -/
theorem returned_at_default_committed :
    let watch := afterStatement [.verb (.commit 0), .verb (.release 0)]
    lendingApart.Covers transactionalPool (fun state out => state.1 = out) ∧
      TellsClosed transactionalPool timeless (fun _ _ => false) ∧
      watch.returned = [(7, none)] ∧
      ((∀ given ∈ watch.returned, given.2 = none) ↔ watch.refused = []) := by
  refine ⟨transactionalPool_lendsApart, transactionalPool_tellsClosed, rfl, ?_⟩
  refine (returned_at_default_iff Transaction.plainSettings { user := "app", database := "app" }
    transactionalPool_lendsApart ?_ transactionalPool_tellsClosed (some 0) rfl
    [.verb (.startSession (some "SERIALIZABLE")), .verb (.query "SELECT 1" [] (some 0)),
      .verb (.commit 0), .verb (.release 0)]).1
  rintro call state out rfl
  exact congrArg Prod.fst (timeless_snd call state)

/-- A session that is released with its transaction still open leaves its level on the
connection that it puts back. -/
theorem open_transaction_leaves_level :
    let watch := afterStatement [.verb (.release 0)]
    watch.returned = [(7, some .serializable)] ∧ ¬ ∀ given ∈ watch.returned, given.2 = none := by
  intro watch
  refine ⟨rfl, ?_⟩
  intro clean
  cases clean (7, some .serializable) (List.mem_singleton.mpr rfl)

end DocStore
