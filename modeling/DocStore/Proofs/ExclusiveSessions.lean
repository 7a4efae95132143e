import DocStore.Client.Service
import DocStore.Engine.Verb
import DocStore.Proofs.ConnectionLedger

/-!
# Sessions as exclusive handles

A history of an engine is a sequence of uses: verbs, and statements for the client.  The
sessions that were not released hold connections that are out of the pool, each another
one.  A use without a session acts on connections that no session holds, and a use in a
session acts on the connection of that session.

Only the release looks at whether a session was released.  Any other use in a released
session acts on a connection which that session does not hold any more and which another
one may hold by then.
-/

namespace DocStore

/-! ## The connections of sessions -/

/-- A session holds a connection: it was given it and not released since. -/
def Holds (sessions : List Session) (session : SessionId) (connection : ConnectionId) : Prop :=
  ∃ lease, sessions[session]? = some { lease : Session } ∧ lease.connection = connection

def Released (sessions : List Session) (session : SessionId) : Prop :=
  ∃ lease, sessions[session]? = some { lease, released := true }

/-- What sessions hold is out of the pool, and no two sessions hold the same. -/
structure HeldApart (sessions : List Session) (out : List ConnectionId) : Prop where
  isOut : ∀ session connection, Holds sessions session connection → connection ∈ out
  unique : ∀ session other connection, Holds sessions session connection →
    Holds sessions other connection → session = other

namespace HeldApart

variable {sessions : List Session} {out later : List ConnectionId} {session : SessionId}
  {connection : ConnectionId} {lease : Lease}

theorem none : HeldApart [] [] := by
  constructor
  · rintro session connection ⟨lease, held, _⟩
    simp at held
  · rintro session other connection ⟨lease, held, _⟩
    simp at held

theorem mono (held : HeldApart sessions out) (stillOut : ∀ connection ∈ out, connection ∈ later) :
    HeldApart sessions later :=
  ⟨fun session connection holds => stillOut connection (held.isOut session connection holds),
    held.unique⟩

theorem holds_append :
    Holds (sessions ++ [{ lease : Session }]) session connection ↔
      Holds sessions session connection ∨
        session = sessions.length ∧ lease.connection = connection := by
  unfold Holds
  rw [List.getElem?_append]
  split
  · rename_i inside
    simp [Nat.ne_of_lt inside]
  · rename_i outside
    have missing : sessions[session]? = Option.none :=
      List.getElem?_eq_none (Nat.not_lt.mp outside)
    constructor
    · rintro ⟨other, last, same⟩
      right
      have single := (List.getElem?_eq_some_iff.mp last).1
      rw [List.length_singleton] at single
      have atMost : session ≤ sessions.length :=
        Nat.sub_eq_zero_iff_le.mp (Nat.lt_one_iff.mp single)
      have isLast : session = sessions.length := Nat.le_antisymm atMost (Nat.not_lt.mp outside)
      subst isLast
      simp only [Nat.sub_self, List.getElem?_cons_zero, Option.some.injEq, Session.mk.injEq,
        and_true] at last
      subst last
      exact ⟨rfl, same⟩
    · rintro (⟨other, held, _⟩ | ⟨rfl, same⟩)
      · cases missing.symm.trans held
      · exact ⟨lease, by simp, same⟩

/-- A session that starts with a connection that was not out is apart from the others. -/
theorem start (held : HeldApart sessions out) (notOut : lease.connection ∉ out)
    (stillOut : ∀ connection ∈ out, connection ∈ later) (isOut : lease.connection ∈ later) :
    HeldApart (sessions ++ [{ lease : Session }]) later := by
  constructor
  · intro session connection holds
    rcases holds_append.mp holds with before | ⟨_, rfl⟩
    · exact stillOut connection (held.isOut session connection before)
    · exact isOut
  · intro session other connection holds otherHolds
    rcases holds_append.mp holds with before | ⟨isLast, rfl⟩
    · rcases holds_append.mp otherHolds with otherBefore | ⟨_, rfl⟩
      · exact held.unique session other connection before otherBefore
      · exact absurd (held.isOut session _ before) notOut
    · rcases holds_append.mp otherHolds with otherBefore | ⟨otherLast, _⟩
      · exact absurd (held.isOut other _ otherBefore) notOut
      · rw [isLast, otherLast]

theorem holds_of_set {other : SessionId}
    (holds : Holds (sessions.set session { lease, released := true }) other connection) :
    session ≠ other ∧ Holds sessions other connection := by
  obtain ⟨known, held, same⟩ := holds
  rw [List.getElem?_set] at held
  split at held
  · split at held
    · cases held
    · cases held
  · rename_i different
    exact ⟨different, known, held, same⟩

/-- The other sessions still hold their connections after a release. -/
theorem release (held : HeldApart sessions out)
    (isHeld : sessions[session]? = some { lease : Session })
    (stillOut : ∀ connection ∈ out, connection ≠ lease.connection → connection ∈ later) :
    HeldApart (sessions.set session { lease, released := true }) later := by
  constructor
  · intro other connection holds
    obtain ⟨different, otherHolds⟩ := holds_of_set holds
    apply stillOut connection (held.isOut other connection otherHolds)
    rintro rfl
    exact different (held.unique session other _ ⟨lease, isHeld, rfl⟩ otherHolds)
  · intro first second connection firstHolds secondHolds
    exact held.unique first second connection (holds_of_set firstHolds).2
      (holds_of_set secondHolds).2

end HeldApart

/-! ## Uses of an engine -/

/-- A verb, or a statement for the client. -/
inductive EngineUse where
  | verb (verb : EngineVerb)
  | serve (call : StoreCall)

namespace EngineUse

/-- Carries a use out and keeps the sessions after it. -/
def program (settings : EngineSettings) (use : EngineUse) (sessions : List Session) :
    Program engineInterface (List Session) :=
  match use with
  | verb given => (given.perform settings sessions).bind fun ended => .done ended.2
  | serve call => (Engine.serve settings call sessions).bind fun ended => .done ended.2

/-- The session whose connection a use is to act on.  A savepoint with an improper name is
none. -/
def session? : EngineUse → Option SessionId
  | verb (.commit session) => some session
  | verb (.rollback session) => some session
  | verb (.savepoint _ session name) => if Engine.isSavepointName name then some session else none
  | verb (.query _ _ session) => session
  | verb (.execute _ _ session) => session
  | verb (.insert _ _ _ session) => session
  | serve (.run _ session) => session
  | serve (.insert _ _ session) => session
  | _ => none

end EngineUse

/-- An adapter that keeps sessions apart. -/
def keepingApart : Surroundings engineInterface Ledger where
  permits _ _ := True
  replies seen
    | .adapter call, reply, later => call.Effect seen reply later
    | .ambient _, _, later => later = seen

namespace EngineAction

open Action

variable {settings : EngineSettings} {sessions : List Session} {seen : Ledger}
  {session : SessionId} {sql : String} {parameters : List Value}

/-- The sessions are the same, and nothing was done on connections that were out. -/
def Aside (sessions : List Session) (seen : Ledger) (after : List Session) (later : Ledger) :
    Prop :=
  after = sessions ∧ seen.Spares later

/-- The sessions are the same, and something was done on the connection of one of them. -/
def Within (sessions : List Session) (seen : Ledger) (session : SessionId)
    (after : List Session) (later : Ledger) : Prop :=
  after = sessions ∧
    match sessions[session]? with
    | some found => seen.ActsOn found.lease.connection later
    | none => later = seen

theorem keeps_ambient {goal : List Session → Ledger → Prop} (call : AmbientCall) :
    keepingApart.Keeps goal (.ambient call) := by
  intro own later met
  refine ⟨trivial, ?_⟩
  rintro reply _ rfl
  exact met

theorem keeps_outside {call : EngineCall} (outside : call.IsOutside) :
    keepingApart.Keeps (Aside sessions seen) call := by
  rintro own later ⟨same, spared⟩
  refine ⟨trivial, ?_⟩
  intro reply last replied
  refine ⟨same, ?_⟩
  cases call with
  | ambient call =>
      cases replied
      exact spared
  | adapter call =>
      cases call with
      | openPool => exact spared.trans replied
      | closePool => exact spared.trans replied
      | execute sql parameters lease =>
          cases lease with
          | none => exact spared.trans replied
          | some lease => exact outside.elim
      | begin isolation => exact outside.elim
      | commit lease => exact outside.elim
      | rollback lease => exact outside.elim
      | release lease => exact outside.elim

theorem reaches_adapter_within {call : AdapterCall} {found : Session}
    (isFound : sessions[session]? = some found)
    (acts : ∀ reply later, call.Effect seen reply later →
      seen.ActsOn found.lease.connection later) :
    (adapter call).Reaches keepingApart sessions seen (Within sessions seen session) := by
  unfold adapter Reaches
  rw [ensures_perform]
  refine ⟨trivial, ?_⟩
  intro reply later effect
  have within : Within sessions seen session sessions later := by
    refine ⟨rfl, ?_⟩
    rw [isFound]
    exact acts reply later effect
  cases reply with
  | ok result => exact within
  | error failure => exact within

theorem within_of_missing (missing : sessions[session]? = none) :
    Within sessions seen session sessions seen := by
  refine ⟨rfl, ?_⟩
  rw [missing]

theorem reaches_commit :
    (Engine.commit settings session).Reaches keepingApart sessions seen
      (Within sessions seen session) := by
  unfold Engine.commit
  cases isFound : sessions[session]? with
  | none => exact reaches_sessionAt_bind_none isFound (within_of_missing isFound)
  | some found =>
      rw [reaches_sessionAt_bind isFound, reaches_guarded]
      exact reaches_adapter_within isFound fun reply later effect => effect

theorem reaches_rollback :
    (Engine.rollback settings session).Reaches keepingApart sessions seen
      (Within sessions seen session) := by
  unfold Engine.rollback
  cases isFound : sessions[session]? with
  | none => exact reaches_sessionAt_bind_none isFound (within_of_missing isFound)
  | some found =>
      rw [reaches_sessionAt_bind isFound, reaches_guarded]
      exact reaches_adapter_within isFound fun reply later effect => effect

theorem reaches_execute_within :
    (Engine.execute settings sql parameters (some session)).Reaches keepingApart sessions seen
      (Within sessions seen session) := by
  cases isFound : sessions[session]? with
  | none =>
      unfold Engine.execute Engine.leaseOf
      dsimp only
      rw [bind_assoc]
      exact reaches_sessionAt_bind_none isFound (within_of_missing isFound)
  | some found =>
      apply reaches_execute (keeps_ambient .elapsed) isFound
      exact reaches_adapter_within isFound fun reply later effect => effect

/-- A session that starts holds a connection that was not out, and one that does not start
holds none. -/
theorem ensures_startSession_apart {isolation : Option String} :
    (Engine.startSession settings isolation).Ensures keepingApart sessions seen
      (fun _ after later => seen.Spares later ∧ ∃ lease, after = sessions ++ [{ lease : Session }] ∧
        lease.connection ∉ seen.out ∧ lease.connection ∈ later.out)
      fun _ after later => after = sessions ∧ seen.Spares later := by
  unfold Engine.startSession
  rw [ensures_bind, ensures_ofStoreError]
  cases IsolationLevel.read? isolation with
  | error error => exact ⟨rfl, Ledger.Extends.refl⟩
  | ok level =>
      change Ensures keepingApart _ sessions seen _ _
      rw [ensures_bind]
      unfold EngineSettings.guarded adapter
      rw [ensures_recover, ensures_perform]
      refine ⟨trivial, ?_⟩
      intro reply later effect
      cases reply with
      | ok lease =>
          obtain ⟨notOut, isOut, spared⟩ := effect
          exact ⟨spared, lease, rfl, notOut, isOut⟩
      | error failure => exact ⟨rfl, effect⟩

/-- The first release of a session only brings its connection in. -/
theorem reaches_release_held {lease : Lease}
    (isHeld : sessions[session]? = some { lease : Session }) :
    (Engine.release settings session).Reaches keepingApart sessions seen fun after later =>
      after = sessions.set session { lease, released := true } ∧
        seen.ReleasesOnly lease.connection later := by
  unfold Engine.release
  rw [reaches_sessionAt_bind isHeld]
  simp only [Bool.false_eq_true, if_false]
  unfold Reaches
  rw [ensures_bind, ensures_modify]
  change Reaches keepingApart (settings.guarded "release" none (adapter (.release lease))) _ _ _
  rw [reaches_guarded]
  unfold adapter Reaches
  rw [ensures_perform]
  refine ⟨trivial, ?_⟩
  intro reply later effect
  cases reply with
  | ok _ => exact ⟨rfl, effect⟩
  | error failure => exact ⟨rfl, effect⟩

/-- Nothing is done for a session that holds no connection. -/
theorem reaches_release_again (released : ∀ lease, sessions[session]? ≠ some { lease : Session }) :
    (Engine.release settings session).Reaches keepingApart sessions seen
      fun after later => after = sessions ∧ later = seen := by
  unfold Engine.release
  cases isFound : sessions[session]? with
  | none => exact reaches_sessionAt_bind_none isFound ⟨rfl, rfl⟩
  | some found =>
      rw [reaches_sessionAt_bind isFound]
      obtain ⟨lease, flag⟩ := found
      cases flag with
      | false => exact absurd isFound (released lease)
      | true => exact silent_pure.keeps sessions seen ⟨rfl, rfl⟩

end EngineAction

namespace EngineUse

open Action EngineAction

/-- The acts of a use: on connections that were not out, or on that of its session. -/
def Acts (use : EngineUse) (sessions : List Session) (out acts : List ConnectionId) : Prop :=
  match use.session? with
  | none => ∀ connection ∈ acts, connection ∉ out
  | some session =>
      match sessions[session]? with
      | none => acts = []
      | some found => acts ≠ [] ∧ ∀ connection ∈ acts, connection = found.lease.connection

/-- What was done by a use, after which sessions still hold connections of their own. -/
structure Effect (use : EngineUse) (sessions : List Session) (seen : Ledger)
    (after : List Session) (later : Ledger) : Prop where
  apart : HeldApart after later.out
  acted : ∃ acts, later.acts = seen.acts ++ acts ∧ use.Acts sessions seen.out acts

variable {settings : EngineSettings} {use : EngineUse} {sessions after : List Session}
  {seen later : Ledger} {session : SessionId} {α : Type}

theorem Effect.of_aside (held : HeldApart sessions seen.out) (outside : use.session? = none)
    (aside : Aside sessions seen after later) : use.Effect sessions seen after later := by
  obtain ⟨rfl, stillOut, acts, isLater, notOut⟩ := aside
  refine ⟨held.mono stillOut, acts, isLater, ?_⟩
  unfold Acts
  rw [outside]
  exact notOut

theorem Effect.of_within (held : HeldApart sessions seen.out) (inside : use.session? = some session)
    (within : Within sessions seen session after later) : use.Effect sessions seen after later := by
  obtain ⟨rfl, acted⟩ := within
  cases isFound : after[session]? with
  | none =>
      simp only [isFound] at acted
      subst acted
      refine ⟨held, [], by simp, ?_⟩
      simp [Acts, inside, isFound]
  | some found =>
      simp only [isFound] at acted
      obtain ⟨⟨stillOut, acts, isLater, same⟩, grown⟩ := acted
      refine ⟨held.mono stillOut, acts, isLater, ?_⟩
      have nonempty : acts ≠ [] := by
        rintro rfl
        simp [isLater] at grown
      simp only [Acts, inside, isFound]
      exact ⟨nonempty, same⟩

theorem ensures_verb {verb : EngineVerb} {goal : List Session → Ledger → Prop}
    (reaches : (verb.perform settings).Reaches keepingApart sessions seen goal) :
    ((EngineUse.verb verb).program settings sessions).Ensures keepingApart seen goal := by
  unfold program
  rw [Program.ensures_bind]
  exact reaches.ensures

theorem ensures_serve {call : StoreCall} {goal : List Session → Ledger → Prop}
    (ensured : (Engine.serve settings call sessions).Ensures keepingApart seen
      fun ended later => goal ended.2 later) :
    ((EngineUse.serve call).program settings sessions).Ensures keepingApart seen goal := by
  unfold program
  rw [Program.ensures_bind]
  exact ensured

theorem reaches_showing {dialect : Dialect} {action : EngineAction Unit}
    {goal : List Session → Ledger → Prop}
    (reaches : action.Reaches keepingApart sessions seen goal) :
    (EngineVerb.showing dialect session action).Reaches keepingApart sessions seen goal := by
  apply reaches.bind
  intro _
  exact silent_sessionAt.keeps.bind fun _ => silent_pure.keeps

/-- A verb that asks for nothing in a session acts on connections that no session holds. -/
theorem ensures_outside_verb {verb : EngineVerb} (held : HeldApart sessions seen.out)
    (outside : (EngineUse.verb verb).session? = none)
    (keeps : (verb.perform settings).Keeps keepingApart (Aside sessions seen)) :
    ((EngineUse.verb verb).program settings sessions).Ensures keepingApart seen
      ((EngineUse.verb verb).Effect sessions seen) := by
  apply ensures_verb
  apply Reaches.imp (keeps sessions seen ⟨rfl, Ledger.Extends.refl⟩)
  intro after later aside
  exact .of_aside held outside aside

theorem ensures_inside_verb {verb : EngineVerb} (held : HeldApart sessions seen.out)
    (inside : (EngineUse.verb verb).session? = some session)
    (reaches : (verb.perform settings).Reaches keepingApart sessions seen
      (Within sessions seen session)) :
    ((EngineUse.verb verb).program settings sessions).Ensures keepingApart seen
      ((EngineUse.verb verb).Effect sessions seen) := by
  apply ensures_verb
  apply Reaches.imp reaches
  intro after later within
  exact .of_within held inside within

theorem ensures_startSession_verb {isolation : Option String} (held : HeldApart sessions seen.out) :
    ((EngineUse.verb (.startSession isolation)).program settings sessions).Ensures keepingApart seen
      ((EngineUse.verb (.startSession isolation)).Effect sessions seen) := by
  apply ensures_verb
  unfold EngineVerb.perform Reaches
  dsimp only
  rw [ensures_bind]
  apply Ensures.imp ensures_startSession_apart
  · rintro session after later ⟨⟨stillOut, acts, isLater, notOut⟩, lease, rfl, isNew, isOut⟩
    have effect : (EngineUse.verb (.startSession isolation)).Effect sessions seen
        (sessions ++ [{ lease : Session }]) later :=
      ⟨held.start isNew stillOut isOut, acts, isLater, notOut⟩
    exact reaches_showing (silent_pure.keeps _ _ effect)
  · intro failure after later aside
    exact .of_aside held rfl aside

theorem ensures_release_verb (held : HeldApart sessions seen.out) :
    ((EngineUse.verb (.release session)).program settings sessions).Ensures keepingApart seen
      ((EngineUse.verb (.release session)).Effect sessions seen) := by
  apply ensures_verb
  apply reaches_showing
  by_cases isHeld : ∃ lease, sessions[session]? = some { lease : Session }
  · obtain ⟨lease, isHeld⟩ := isHeld
    apply Reaches.imp (reaches_release_held isHeld)
    rintro _ later ⟨rfl, sameActs, stillOut⟩
    refine ⟨held.release isHeld stillOut, [], ?_, ?_⟩
    · rw [sameActs, List.append_nil]
    · simp [Acts, session?]
  · apply Reaches.imp (reaches_release_again fun lease same => isHeld ⟨lease, same⟩)
    rintro _ _ ⟨rfl, rfl⟩
    exact .of_aside held rfl ⟨rfl, Ledger.Extends.refl⟩

theorem ensures_performed (held : HeldApart sessions seen.out) (verb : EngineVerb) :
    ((EngineUse.verb verb).program settings sessions).Ensures keepingApart seen
      ((EngineUse.verb verb).Effect sessions seen) := by
  have outside (call : EngineCall) (isOutside : call.IsOutside) :
      keepingApart.Keeps (Aside sessions seen) call := keeps_outside isOutside
  have clock {goal : List Session → Ledger → Prop} : keepingApart.Keeps goal (.ambient .elapsed) :=
    keeps_ambient .elapsed
  cases verb with
  | connect => exact ensures_outside_verb held rfl (keeps_connect outside).answering
  | disconnect => exact ensures_outside_verb held rfl (keeps_disconnect outside).answering
  | healthCheck => exact ensures_outside_verb held rfl (keeps_isHealthy outside).answering
  | startSession isolation => exact ensures_startSession_verb held
  | commit session => exact ensures_inside_verb held rfl (reaches_showing reaches_commit)
  | rollback session => exact ensures_inside_verb held rfl (reaches_showing reaches_rollback)
  | release session => exact ensures_release_verb held
  | savepoint action session name =>
      by_cases proper : Engine.isSavepointName name = true
      · have inside :
            (EngineUse.verb (.savepoint action session name)).session? = some session := by
          simp [session?, proper]
        apply ensures_inside_verb held inside
        apply Reaches.answering
        unfold Engine.savepoint
        rw [if_pos proper]
        exact (reaches_execute_within.bind fun _ => silent_pure.keeps).bind
          fun _ => silent_pure.keeps
      · refine ensures_outside_verb held (by simp [session?, proper]) (Keeps.answering ?_)
        unfold Engine.savepoint
        rw [if_neg proper]
        exact silent_throw.keeps
  | query sql parameters session =>
      cases session with
      | none => exact ensures_outside_verb held rfl (keeps_query_outside outside).answering
      | some session =>
          exact ensures_inside_verb held rfl
            (reaches_execute_within.bind fun _ => silent_pure.keeps).answering
  | execute sql parameters session =>
      cases session with
      | none =>
          exact ensures_outside_verb held rfl
            (keeps_execute clock (outside (.adapter (.execute ..)) trivial)).answering
      | some session => exact ensures_inside_verb held rfl reaches_execute_within.answering
  | insert sql parameters count session =>
      cases session with
      | none =>
          exact ensures_outside_verb held rfl
            (keeps_insert clock (outside (.adapter (.execute ..)) trivial)).answering
      | some session =>
          exact ensures_inside_verb held rfl
            (reaches_execute_within.bind fun _ => silent_ofFault.keeps).answering
  | tableExists table =>
      exact ensures_outside_verb held rfl (keeps_tableExists_outside outside).answering
  | createTable table =>
      exact ensures_outside_verb held rfl (keeps_direct_outside outside).answering
  | dropTable table => exact ensures_outside_verb held rfl (keeps_direct_outside outside).answering
  | listTables => exact ensures_outside_verb held rfl (keeps_listTables outside).answering

theorem ensures_outside_serve {call : StoreCall} (held : HeldApart sessions seen.out)
    (outside : (EngineUse.serve call).session? = none)
    (keeps : (Engine.serve settings call sessions).Ensures keepingApart seen
      fun ended later => Aside sessions seen ended.2 later) :
    ((EngineUse.serve call).program settings sessions).Ensures keepingApart seen
      ((EngineUse.serve call).Effect sessions seen) := by
  apply ensures_serve
  apply Program.Ensures.imp keeps
  intro ended later aside
  exact .of_aside held outside aside

theorem ensures_inside_serve {call : StoreCall} (held : HeldApart sessions seen.out)
    (inside : (EngineUse.serve call).session? = some session)
    (reaches : (Engine.serve settings call sessions).Ensures keepingApart seen
      fun ended later => Within sessions seen session ended.2 later) :
    ((EngineUse.serve call).program settings sessions).Ensures keepingApart seen
      ((EngineUse.serve call).Effect sessions seen) := by
  apply ensures_serve
  apply Program.Ensures.imp reaches
  intro ended later within
  exact .of_within held inside within

theorem ensures_ambient {call : AmbientCall} {goal : List Session → Ledger → Prop}
    (met : goal sessions seen) :
    (Engine.ambient call sessions).Ensures keepingApart seen
      fun ended later => goal ended.2 later := by
  refine ⟨trivial, ?_⟩
  rintro reply _ rfl
  exact met

theorem ensures_served (held : HeldApart sessions seen.out) (call : StoreCall) :
    ((EngineUse.serve call).program settings sessions).Ensures keepingApart seen
      ((EngineUse.serve call).Effect sessions seen) := by
  have outside (call : EngineCall) (isOutside : call.IsOutside) :
      keepingApart.Keeps (Aside sessions seen) call := keeps_outside isOutside
  have unchanged : Aside sessions seen sessions seen := ⟨rfl, Ledger.Extends.refl⟩
  have aside {α : Type} {action : EngineAction α}
      (keeps : action.Keeps keepingApart (Aside sessions seen)) :
      Program.Ensures keepingApart (action sessions) seen
        fun ended later => Aside sessions seen ended.2 later :=
    (keeps sessions seen unchanged).ensures
  cases call with
  | tableExists collection =>
      exact ensures_outside_serve held rfl (aside (keeps_tableExists_outside outside))
  | createTable collection =>
      exact ensures_outside_serve held rfl (aside (keeps_direct_outside outside))
  | dropTable collection =>
      exact ensures_outside_serve held rfl (aside (keeps_direct_outside outside))
  | listTables => exact ensures_outside_serve held rfl (aside (keeps_listTables outside))
  | direct sql => exact ensures_outside_serve held rfl (aside (keeps_direct_outside outside))
  | run request session =>
      cases session with
      | none => exact ensures_outside_serve held rfl (aside (keeps_query_outside outside))
      | some session =>
          exact ensures_inside_serve held rfl
            (reaches_execute_within.bind fun _ => silent_pure.keeps).ensures
  | insert request count session =>
      cases session with
      | none =>
          exact ensures_outside_serve held rfl
            (aside (keeps_insert (keeps_ambient .elapsed)
              (outside (.adapter (.execute ..)) trivial)))
      | some session =>
          exact ensures_inside_serve held rfl
            (reaches_execute_within.bind fun _ => silent_ofFault.keeps).ensures
  | createIndex collection keys options =>
      exact ensures_outside_serve held rfl (aside (keeps_createIndex outside))
  | dropIndex collection name =>
      exact ensures_outside_serve held rfl (aside (keeps_direct_outside outside))
  | listIndexes collection =>
      exact ensures_outside_serve held rfl (aside (keeps_listIndexes outside))
  | seconds => exact ensures_outside_serve held rfl (ensures_ambient unchanged)
  | randomBytes count => exact ensures_outside_serve held rfl (ensures_ambient unchanged)

/-- Every use acts where it should, and sessions hold connections of their own after it. -/
theorem ensures_program (held : HeldApart sessions seen.out) (use : EngineUse) :
    (use.program settings sessions).Ensures keepingApart seen (use.Effect sessions seen) := by
  cases use with
  | verb given => exact ensures_performed held given
  | serve call => exact ensures_served held call

end EngineUse

/-! ## Histories on a pool -/

section Histories

variable {ρ : Type}

/-- The connections that were acted on, one for each act. -/
def actsOf (exchanges : List (Exchange poolInterface)) : List ConnectionId :=
  exchanges.filterMap fun exchange => exchange.call.actsOn?

/-- What an engine has come to: its sessions, and the pool with the exchanges of the last
use. -/
structure EngineHistory (ρ : Type) where
  sessions : List Session
  pool : PoolState ρ

variable (answers : PoolAnswers ρ) (ambient : (call : AmbientCall) → StateM ρ call.Reply)
  (adapt : (call : AdapterCall) → PoolAction call.Result) (settings : EngineSettings)

/-- A history that has not begun, without a pool. -/
def EngineHistory.start (state : ρ) : EngineHistory ρ :=
  { sessions := [], pool := { inUse := none, state, exchanges := [] } }

def EngineHistory.next (before : EngineHistory ρ) (use : EngineUse) : EngineHistory ρ :=
  let ended := (use.program settings before.sessions).course (onPool answers ambient adapt)
    { before.pool with exchanges := [] }
  { sessions := ended.1, pool := ended.2 }

def EngineHistory.after (before : EngineHistory ρ) (uses : List EngineUse) : EngineHistory ρ :=
  uses.foldl (EngineHistory.next answers ambient adapt settings) before

/-- A use acts only on connections that its own session holds and no other one does. -/
def EngineHistory.ActsExclusively (reached : EngineHistory ρ) (use : EngineUse) : Prop :=
  ∀ connection ∈ actsOf (reached.next answers ambient adapt settings use).pool.exchanges,
    ∀ session, Holds reached.sessions session connection ↔ use.session? = some session

variable {answers ambient adapt settings} {holds : ρ → List ConnectionId → Prop}

/-- The ledger of a pool: what it takes to be out, and what it was asked to do. -/
def PoolState.Books (holds : ρ → List ConnectionId → Prop) (pool : PoolState ρ) (seen : Ledger) :
    Prop :=
  holds pool.state seen.out ∧ seen.acts = actsOf pool.exchanges

theorem covers_bookkeeping (lends : lendingApart.Covers answers holds) :
    bookkeeping.Covers (recorded answers) fun reached seen =>
      holds reached.1 seen.out ∧ seen.acts = actsOf reached.2 := by
  rintro ⟨state, exchanges⟩ seen call ⟨isHeld, isDone⟩ _
  obtain ⟨_, ⟨apart, rfl⟩, stillHeld⟩ := lends state seen.out call isHeld trivial
  refine ⟨seen.after call (answers call state).1, ⟨apart, rfl⟩, stillHeld, ?_⟩
  unfold Ledger.after actsOf recorded
  rw [List.filterMap_append, isDone]
  cases acted : call.actsOn? <;> simp [acted, actsOf]

theorem covers_keepingApart (lends : lendingApart.Covers answers holds)
    (still : ∀ call state out, holds state out → holds (ambient call state).2 out)
    (apart : KeepsApart adapt) :
    keepingApart.Covers (onPool answers ambient adapt) (PoolState.Books holds) := by
  rintro ⟨inUse, state, exchanges⟩ seen call ⟨isHeld, isDone⟩ _
  cases call with
  | ambient call => exact ⟨seen, rfl, still call state seen.out isHeld, isDone⟩
  | adapter call =>
      obtain ⟨later, ended, stillHeld, stillDone⟩ := Program.Ensures.course
        (apart inUse seen call) (covers_bookkeeping lends)
        (show holds (state, exchanges).1 seen.out ∧ _ from ⟨isHeld, isDone⟩)
      refine ⟨later, ?_⟩
      change Action.Ends _ _ (Action.run (recorded answers) (adapt call) inUse
        (state, exchanges)).1 later at ended
      unfold PoolState.Books onPool
      dsimp only
      change call.Effect seen (Action.run (recorded answers) (adapt call) inUse
        (state, exchanges)).1.1 later ∧ _
      change holds (Action.run (recorded answers) (adapt call) inUse
        (state, exchanges)).2.1 later.out at stillHeld
      change later.acts = actsOf (Action.run (recorded answers) (adapt call) inUse
        (state, exchanges)).2.2 at stillDone
      generalize Action.run (recorded answers) (adapt call) inUse (state, exchanges) = run
        at ended stillHeld stillDone ⊢
      obtain ⟨⟨outcome, after⟩, reached⟩ := run
      cases outcome with
      | ok result => exact ⟨ended, stillHeld, stillDone⟩
      | error failure => exact ⟨ended, stillHeld, stillDone⟩

/-- Sessions hold connections of their own, which are out of the pool. -/
def EngineHistory.Apart (holds : ρ → List ConnectionId → Prop) (reached : EngineHistory ρ)
    (out : List ConnectionId) : Prop :=
  holds reached.pool.state out ∧ HeldApart reached.sessions out

theorem EngineHistory.exists_next (lends : lendingApart.Covers answers holds)
    (still : ∀ call state out, holds state out → holds (ambient call state).2 out)
    (keepsApart : KeepsApart adapt) {reached : EngineHistory ρ} {out : List ConnectionId}
    (apart : reached.Apart holds out) (use : EngineUse) :
    (∃ later, (reached.next answers ambient adapt settings use).Apart holds later) ∧
      use.Acts reached.sessions out
        (actsOf (reached.next answers ambient adapt settings use).pool.exchanges) := by
  obtain ⟨isHeld, heldApart⟩ := apart
  have covers : keepingApart.Covers (onPool answers ambient adapt) (PoolState.Books holds) :=
    covers_keepingApart lends still keepsApart
  have ensured : (use.program settings reached.sessions).Ensures keepingApart { out, acts := [] }
      (use.Effect reached.sessions { out, acts := [] }) := EngineUse.ensures_program heldApart use
  have begins : PoolState.Books holds { reached.pool with exchanges := [] } { out, acts := [] } :=
    ⟨isHeld, rfl⟩
  obtain ⟨later, ⟨stillApart, acts, isLater, acted⟩, stillHeld, isDone⟩ :=
    Program.Ensures.course ensured covers begins
  refine ⟨⟨later.out, stillHeld, stillApart⟩, ?_⟩
  have same : actsOf (reached.next answers ambient adapt settings use).pool.exchanges = acts :=
    isDone.symm.trans isLater
  rw [same]
  exact acted

theorem EngineHistory.exists_after (lends : lendingApart.Covers answers holds)
    (still : ∀ call state out, holds state out → holds (ambient call state).2 out)
    (keepsApart : KeepsApart adapt) (uses : List EngineUse) {before : EngineHistory ρ}
    {out : List ConnectionId} (apart : before.Apart holds out) :
    ∃ later, (before.after answers ambient adapt settings uses).Apart holds later := by
  induction uses generalizing before out with
  | nil => exact ⟨out, apart⟩
  | cons use uses ih =>
      obtain ⟨⟨middle, stillApart⟩, _⟩ :=
        EngineHistory.exists_next lends still keepsApart apart use
      exact ih stillApart

/-- A use in a session acts exclusively if and only if the session was not released. -/
theorem EngineHistory.Apart.actsExclusively_iff (lends : lendingApart.Covers answers holds)
    (still : ∀ call state out, holds state out → holds (ambient call state).2 out)
    (keepsApart : KeepsApart adapt) {reached : EngineHistory ρ} {out : List ConnectionId}
    (apart : reached.Apart holds out) (use : EngineUse) :
    reached.ActsExclusively answers ambient adapt settings use ↔
      ∀ session, use.session? = some session → ¬Released reached.sessions session := by
  have acted : use.Acts reached.sessions out
      (actsOf (reached.next answers ambient adapt settings use).pool.exchanges) :=
    (EngineHistory.exists_next lends still keepsApart apart use).2
  unfold ActsExclusively
  generalize actsOf (reached.next answers ambient adapt settings use).pool.exchanges = acts
    at acted ⊢
  obtain ⟨_, heldApart⟩ := apart
  unfold EngineUse.Acts at acted
  cases isSession : use.session? with
  | none =>
      simp only [isSession] at acted
      simp only [reduceCtorEq, iff_false, false_implies, implies_true, iff_true]
      intro connection isActed session holds
      exact acted connection isActed (heldApart.isOut session connection holds)
  | some session =>
      simp only [isSession] at acted
      simp only [Option.some.injEq, forall_eq']
      cases isFound : reached.sessions[session]? with
      | none =>
          simp only [isFound] at acted
          subst acted
          have notReleased : ¬Released reached.sessions session := by
            rintro ⟨lease, found⟩
            cases isFound.symm.trans found
          simp [notReleased]
      | some found =>
          simp only [isFound] at acted
          obtain ⟨nonempty, same⟩ := acted
          obtain ⟨lease, flag⟩ := found
          cases flag with
          | false =>
              have notReleased : ¬Released reached.sessions session := by
                rintro ⟨other, found⟩
                cases isFound.symm.trans found
              have isHeld : Holds reached.sessions session lease.connection := ⟨lease, isFound, rfl⟩
              refine iff_of_true ?_ notReleased
              intro connection isActed other
              cases same connection isActed
              constructor
              · intro otherHolds
                exact heldApart.unique session other _ isHeld otherHolds
              · rintro rfl
                exact isHeld
          | true =>
              refine iff_of_false ?_ fun notReleased => notReleased ⟨lease, isFound⟩
              intro exclusive
              obtain ⟨connection, isActed⟩ := List.exists_mem_of_ne_nil acts nonempty
              obtain ⟨other, held, _⟩ := (exclusive connection isActed session).mpr rfl
              cases isFound.symm.trans held

/-- After any history, on a pool that lends no connection that is out: a use acts only on
connections that its own session holds and no other one does, if and only if it is not in a
session that was released. -/
theorem actsExclusively_iff_not_released (settings : EngineSettings) (config : ConnectionConfig)
    (dialect : Dialect) (lends : lendingApart.Covers answers holds)
    (still : ∀ call state out, holds state out → holds (ambient call state).2 out) {state : ρ}
    (fresh : holds state []) (uses : List EngineUse) (use : EngineUse) :
    let adapt := nativeAdapter config dialect
    let reached := (EngineHistory.start state).after answers ambient adapt settings uses
    reached.ActsExclusively answers ambient adapt settings use ↔
      ∀ session, use.session? = some session → ¬Released reached.sessions session := by
  intro adapt reached
  have keepsApart : KeepsApart adapt := keepsApart_nativeAdapter config dialect
  have begins : (EngineHistory.start state).Apart holds [] := ⟨fresh, HeldApart.none⟩
  obtain ⟨out, apart⟩ : ∃ out, reached.Apart holds out :=
    EngineHistory.exists_after lends still keepsApart uses begins
  exact apart.actsExclusively_iff lends still keepsApart use

end Histories

/-- A pool with one connection, which knows whether it is out. -/
def singlePool : PoolAnswers (List ConnectionId)
  | .checkOut _ => lend
  | .borrow _ => lend
  | .checkIn _ connection => fun out => (.ok (), out.erase connection)
  | .giveBack _ connection _ => fun out => (.ok (), out.erase connection)
  | .create _ => pure (.ok 0)
  | .isClosed _ => pure false
  | .execute .. => pure (.ok { hasRows := false, rowCount := .int 0, lastRowId := .null })
  | .fetchAll _ => pure (.ok [])
  | .openWithin .. => pure (.ok ())
  | .close _ => pure (.ok ())
  | .awaitClosed _ => pure (.ok ())
  | .begin _ => pure (.ok ())
  | .commit _ => pure (.ok ())
  | .rollback _ => pure (.ok ())
  | .setIsolation .. => pure (.ok ())
where
  /-- Lends the connection 7, unless it is out. -/
  lend (out : List ConnectionId) : Except Failure ConnectionId × List ConnectionId :=
    if 7 ∈ out then (.error (.engine { kind := .timeout, text := "exhausted" }), out)
    else (.ok 7, 7 :: out)

theorem singlePool_lendsApart : lendingApart.Covers singlePool fun state out => state = out := by
  rintro out _ call rfl _
  have lends {outcome : Except Failure ConnectionId} {later : List ConnectionId}
      (ended : singlePool.lend out = (outcome, later)) :
      (outcome = .ok 7 ∧ 7 ∉ out ∧ later = 7 :: out) ∨
        (∃ failure, outcome = .error failure) ∧ later = out := by
    unfold singlePool.lend at ended
    split at ended
    · cases ended
      exact .inr ⟨⟨_, rfl⟩, rfl⟩
    · rename_i notOut
      cases ended
      exact .inl ⟨rfl, notOut, rfl⟩
  cases call with
  | checkOut pool | borrow pool =>
      unfold singlePool
      dsimp only
      rcases ended : singlePool.lend out with ⟨outcome, later⟩
      rcases lends ended with ⟨rfl, notOut, rfl⟩ | ⟨⟨failure, rfl⟩, rfl⟩
      · refine ⟨7 :: out, ⟨?_, rfl⟩, rfl⟩
        rintro connection taken
        cases taken
        exact notOut
      · exact ⟨later, ⟨by rintro _ ⟨⟩, rfl⟩, rfl⟩
  | _ => exact ⟨_, ⟨by rintro _ ⟨⟩, rfl⟩, rfl⟩

/-- Surroundings in which no time passes. -/
def timeless {ρ : Type} : (call : AmbientCall) → StateM ρ call.Reply
  | .seconds => pure (.ok 0)
  | .randomBytes count => pure (List.replicate count 0)
  | .pause _ => pure (.ok ())
  | .elapsed => pure 0

theorem timeless_snd {ρ : Type} (call : AmbientCall) (state : ρ) :
    (timeless call state).2 = state := by
  cases call <;> rfl

/-- Settings of a MySQL engine that does not profile statements. -/
def timelessSettings : EngineSettings :=
  { Transaction.plainSettings with
    dialect := .mysql, label := "MySQL", connectCode := "MYSQL_CONNECT"
    queryCode := "MYSQL_QUERY", rowIds := .counted }

/-- A session is released, and another one starts on its connection. -/
def reusedConnection : EngineHistory (List ConnectionId) :=
  (EngineHistory.start []).after singlePool timeless
    (nativeAdapter { user := "app", database := "app" } .mysql) timelessSettings
    [.verb .connect, .verb (.startSession none), .verb (.release 0), .verb (.startSession none)]

/-- A commit in the session that holds the connection acts exclusively. -/
theorem actsExclusively_reusedConnection :
    (lendingApart.Covers singlePool fun state out => state = out) ∧
      reusedConnection.ActsExclusively singlePool timeless
        (nativeAdapter { user := "app", database := "app" } .mysql) timelessSettings
        (.verb (.commit 1)) := by
  refine ⟨singlePool_lendsApart, ?_⟩
  refine (actsExclusively_iff_not_released timelessSettings
    { user := "app", database := "app" } .mysql singlePool_lendsApart ?_ rfl
    [.verb .connect, .verb (.startSession none), .verb (.release 0), .verb (.startSession none)]
    (.verb (.commit 1))).mpr ?_
  · rintro call state out rfl
    exact timeless_snd call state
  · rintro session named ⟨lease, released⟩
    cases named
    cases released

/-- A commit in the session that was released acts on the connection of the other one. -/
theorem released_session_acts :
    Released reusedConnection.sessions 0 ∧ Holds reusedConnection.sessions 1 7 ∧
      7 ∈ actsOf (reusedConnection.next singlePool timeless
        (nativeAdapter { user := "app", database := "app" } .mysql) timelessSettings
        (.verb (.commit 0))).pool.exchanges :=
  ⟨⟨{ connection := 7, isolation := none }, rfl⟩,
    ⟨{ connection := 7, isolation := none }, rfl, rfl⟩, List.mem_singleton.mpr rfl⟩

end DocStore
