import DocStore.Proofs.ExclusiveSessions

/-!
# Invariants of an engine

An invariant speaks of the sessions and of what is known of the adapter.  If the calls keep
it, beginning a session together with the session that starts and the first release of a
session together with the session that ends, then every use of the engine keeps it, and so
does every history.
-/

namespace DocStore

variable {ν : Type}

/-- The calls that statements and sessions make keep a goal. -/
structure Surroundings.Maintains (around : Surroundings engineInterface ν)
    (goal : List Session → ν → Prop) : Prop where
  ambient : ∀ call, around.Keeps goal (.ambient call)
  execute : ∀ sql parameters lease,
    around.Keeps goal (.adapter (.execute sql parameters lease))
  commit : ∀ lease, around.Keeps goal (.adapter (.commit lease))
  rollback : ∀ lease, around.Keeps goal (.adapter (.rollback lease))
  begin : ∀ isolation sessions seen, goal sessions seen →
    around.permits seen (.adapter (.begin isolation)) ∧
      (∀ (lease : Lease) later,
        around.replies seen (.adapter (.begin isolation)) (.ok lease) later →
          goal (sessions ++ [{ lease : Session }]) later) ∧
      ∀ failure later, around.replies seen (.adapter (.begin isolation)) (.error failure) later →
        goal sessions later
  release : ∀ (session : SessionId) lease sessions seen,
    sessions[session]? = some { lease : Session } → goal sessions seen →
    around.permits seen (.adapter (.release lease)) ∧
      ∀ reply later, around.replies seen (.adapter (.release lease)) reply later →
        goal (sessions.set session { lease, released := true }) later

namespace Surroundings.Maintains

open Action EngineAction

variable {around : Surroundings engineInterface ν} {goal : List Session → ν → Prop}
  {settings : EngineSettings} {session : SessionId} {sql : String} {parameters : List Value}

theorem silent_leaseOf (session : Option SessionId) : Silent (Engine.leaseOf session) := by
  cases session with
  | none => exact silent_pure
  | some session => exact silent_sessionAt.bind fun found => silent_pure

theorem keeps_guarded {α : Type} {activity : String} {text : Option String}
    {action : EngineAction α} (keeps : action.Keeps around goal) :
    (settings.guarded activity text action).Keeps around goal := by
  intro sessions seen met
  rw [reaches_guarded]
  exact keeps sessions seen met

theorem keeps_showing {dialect : Dialect} {action : EngineAction Unit}
    (keeps : action.Keeps around goal) :
    (EngineVerb.showing dialect session action).Keeps around goal := by
  apply keeps.bind
  intro _
  exact (silent_sessionAt.bind fun found => silent_pure).keeps

variable (maintains : around.Maintains goal)
include maintains

theorem keeps_execute {session : Option SessionId} :
    (Engine.execute settings sql parameters session).Keeps around goal := by
  apply (silent_leaseOf session).keeps.bind
  intro lease
  apply keeps_guarded
  intro sessions seen met
  apply reaches_profiled (maintains.ambient .elapsed)
  exact keeps_perform (maintains.execute sql parameters lease) sessions seen met

theorem keeps_query {session : Option SessionId} :
    (Engine.query settings sql parameters session).Keeps around goal :=
  maintains.keeps_execute.bind fun _ => silent_pure.keeps

theorem keeps_insert {count : Value} {session : Option SessionId} :
    (Engine.insert settings sql parameters count session).Keeps around goal :=
  maintains.keeps_execute.bind fun _ => silent_ofFault.keeps

theorem keeps_direct : (Engine.perform settings sql).Keeps around goal :=
  maintains.keeps_query.bind fun _ => silent_pure.keeps

theorem keeps_tableExists {table : String} :
    (Engine.tableExists settings table).Keeps around goal := by
  apply maintains.keeps_query.bind
  intro rows
  cases rows with
  | nil => exact silent_pure.keeps
  | cons row rows => exact (silent_ofFault.bind fun _ => silent_pure).keeps

theorem keeps_listTables : (Engine.listTables settings).Keeps around goal :=
  maintains.keeps_query.bind fun _ => silent_ofFault.keeps

theorem keeps_createIndex {table : String} {keys : Members} {options : IndexOptions} :
    (Engine.createIndex settings table keys options).Keeps around goal := by
  apply silent_ofFault.keeps.bind
  intro fields
  apply silent_ofFault.keeps.bind
  intro directions
  exact maintains.keeps_direct.bind fun _ => silent_pure.keeps

theorem keeps_isHealthy : (Engine.isHealthy settings).Keeps around goal := by
  apply Keeps.bind (keeps_perform (maintains.execute "SELECT 1" [] none)).attempt
  intro outcome
  cases outcome with
  | ok _ => exact silent_pure.keeps
  | error failure =>
      dsimp only
      split
      · exact (silent_note.bind fun _ => silent_pure).keeps
      · exact silent_throw.keeps

theorem keeps_startSession {isolation : Option String} :
    (Engine.startSession settings isolation).Keeps around goal := by
  intro sessions seen met
  unfold Engine.startSession Reaches
  rw [ensures_bind, ensures_ofStoreError]
  cases IsolationLevel.read? isolation with
  | error error => exact met
  | ok level =>
      obtain ⟨permitted, starts, stays⟩ := maintains.begin level sessions seen met
      change Ensures around _ sessions seen _ _
      rw [ensures_bind]
      unfold EngineSettings.guarded adapter
      rw [ensures_recover, ensures_perform]
      refine ⟨permitted, ?_⟩
      intro reply later replied
      cases reply with
      | ok lease => exact starts lease later replied
      | error failure => exact stays failure later replied

theorem keeps_release : (Engine.release settings session).Keeps around goal := by
  intro sessions seen met
  unfold Engine.release
  cases isFound : sessions[session]? with
  | none => exact reaches_sessionAt_bind_none isFound met
  | some found =>
      rw [reaches_sessionAt_bind isFound]
      obtain ⟨lease, released⟩ := found
      cases released with
      | true => exact silent_pure.keeps sessions seen met
      | false =>
          obtain ⟨permitted, ends⟩ := maintains.release session lease sessions seen isFound met
          simp only [Bool.false_eq_true, if_false]
          unfold Reaches
          rw [ensures_bind, ensures_modify]
          change Reaches around (settings.guarded "release" none (adapter (.release lease))) _ _ _
          rw [reaches_guarded]
          unfold adapter Reaches
          rw [ensures_perform]
          refine ⟨permitted, ?_⟩
          intro reply later replied
          cases reply with
          | ok _ => exact ends _ later replied
          | error failure => exact ends _ later replied

/-- Every verb keeps the goal, if connecting and disconnecting do. -/
theorem keeps_verb {verb : EngineVerb}
    (connects : verb = .connect → (Engine.connect settings).Keeps around goal)
    (disconnects : verb = .disconnect → (Engine.disconnect settings).Keeps around goal) :
    (verb.perform settings).Keeps around goal := by
  cases verb with
  | connect => exact (connects rfl).answering
  | disconnect => exact (disconnects rfl).answering
  | healthCheck => exact maintains.keeps_isHealthy.answering
  | startSession isolation =>
      exact maintains.keeps_startSession.bind fun _ => keeps_showing silent_pure.keeps
  | commit session =>
      apply keeps_showing
      apply silent_sessionAt.keeps.bind
      intro found
      exact keeps_guarded (keeps_perform (maintains.commit found.lease))
  | rollback session =>
      apply keeps_showing
      apply silent_sessionAt.keeps.bind
      intro found
      exact keeps_guarded (keeps_perform (maintains.rollback found.lease))
  | release session => exact keeps_showing maintains.keeps_release
  | savepoint action session name =>
      apply Keeps.answering
      unfold Engine.savepoint
      split
      · exact maintains.keeps_query.bind fun _ => silent_pure.keeps
      · exact silent_throw.keeps
  | query sql parameters session => exact maintains.keeps_query.answering
  | execute sql parameters session => exact maintains.keeps_execute.answering
  | insert sql parameters count session => exact maintains.keeps_insert.answering
  | tableExists table => exact maintains.keeps_tableExists.answering
  | createTable table => exact maintains.keeps_direct.answering
  | dropTable table => exact maintains.keeps_direct.answering
  | listTables => exact maintains.keeps_listTables.answering

theorem ensures_ambient {call : AmbientCall} {sessions : List Session} {seen : ν}
    (met : goal sessions seen) :
    (Engine.ambient call sessions).Ensures around seen fun ended later => goal ended.2 later := by
  obtain ⟨permitted, replied⟩ := maintains.ambient call sessions seen met
  exact ⟨permitted, replied⟩

theorem ensures_served (call : StoreCall) {sessions : List Session} {seen : ν}
    (met : goal sessions seen) :
    (Engine.serve settings call sessions).Ensures around seen
      fun ended later => goal ended.2 later := by
  have served {α : Type} {action : EngineAction α} (keeps : action.Keeps around goal) :
      Program.Ensures around (action sessions) seen fun ended later => goal ended.2 later :=
    (keeps sessions seen met).ensures
  cases call with
  | tableExists collection => exact served maintains.keeps_tableExists
  | createTable collection => exact served maintains.keeps_direct
  | dropTable collection => exact served maintains.keeps_direct
  | listTables => exact served maintains.keeps_listTables
  | direct sql => exact served maintains.keeps_direct
  | run request session => exact served maintains.keeps_query
  | insert request count session => exact served maintains.keeps_insert
  | createIndex collection keys options => exact served maintains.keeps_createIndex
  | dropIndex collection name => exact served maintains.keeps_direct
  | listIndexes collection =>
      exact served (maintains.keeps_query.bind fun _ => silent_ofOutcome.keeps)
  | seconds => exact maintains.ensures_ambient met
  | randomBytes count => exact maintains.ensures_ambient met

theorem ensures_program {use : EngineUse}
    (connects : use = .verb .connect → (Engine.connect settings).Keeps around goal)
    (disconnects : use = .verb .disconnect → (Engine.disconnect settings).Keeps around goal)
    {sessions : List Session} {seen : ν} (met : goal sessions seen) :
    (use.program settings sessions).Ensures around seen goal := by
  unfold EngineUse.program
  cases use with
  | verb given =>
      dsimp only
      rw [Program.ensures_bind]
      have keeps : (given.perform settings).Keeps around goal := by
        apply maintains.keeps_verb
        · rintro rfl
          exact connects rfl
        · rintro rfl
          exact disconnects rfl
      exact (keeps sessions seen met).ensures
  | serve call =>
      dsimp only
      rw [Program.ensures_bind]
      exact maintains.ensures_served call met

end Surroundings.Maintains

/-! ## Histories -/

section

variable {ρ : Type} {answers : PoolAnswers ρ} {ambient : (call : AmbientCall) → StateM ρ call.Reply}
  {adapt : (call : AdapterCall) → PoolAction call.Result} {settings : EngineSettings}
  {around : Surroundings engineInterface ν} {goal : List Session → ν → Prop}
  {agrees : PoolState ρ → ν → Prop}

/-- What is known of the pool agrees with it and meets a goal together with the sessions. -/
def EngineHistory.Meets (agrees : PoolState ρ → ν → Prop) (goal : List Session → ν → Prop)
    (reached : EngineHistory ρ) : Prop :=
  ∃ seen, agrees reached.pool seen ∧ goal reached.sessions seen

theorem EngineHistory.Meets.next (covers : around.Covers (onPool answers ambient adapt) agrees)
    (forgets : ∀ pool seen, agrees pool seen → agrees { pool with exchanges := [] } seen)
    {before : EngineHistory ρ} (met : before.Meets agrees goal) {use : EngineUse}
    (ensured : ∀ sessions seen, goal sessions seen →
      (use.program settings sessions).Ensures around seen goal) :
    (before.next answers ambient adapt settings use).Meets agrees goal := by
  obtain ⟨seen, agreed, holds⟩ := met
  obtain ⟨later, holdsLater, agreesLater⟩ := Program.Ensures.course
    (ensured before.sessions seen holds) covers (forgets before.pool seen agreed)
  exact ⟨later, agreesLater, holdsLater⟩

theorem EngineHistory.Meets.after (covers : around.Covers (onPool answers ambient adapt) agrees)
    (forgets : ∀ pool seen, agrees pool seen → agrees { pool with exchanges := [] } seen)
    (ensured : ∀ (use : EngineUse) sessions seen, goal sessions seen →
      (use.program settings sessions).Ensures around seen goal)
    (uses : List EngineUse) {before : EngineHistory ρ} (met : before.Meets agrees goal) :
    (before.after answers ambient adapt settings uses).Meets agrees goal := by
  induction uses generalizing before with
  | nil => exact met
  | cons use uses ih => exact ih (met.next covers forgets (ensured use))

end

end DocStore
