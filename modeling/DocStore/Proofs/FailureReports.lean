import DocStore.Engine.Verb
import DocStore.Proofs.ConnectionLedger
import DocStore.Result

/-!
# How failures of the engine's layer are told

Every operation on an engine asks its adapter for one thing at most, but for connecting.
What the native calls of the adapter raise leaves it as it is, the last failure if there
are several, and the operation wraps what comes from the engine's own layer into an error
of the library, with the statement that was to run.

Closing the pool is the exception: what it raises leaves the engine unwrapped.
-/

namespace DocStore

def Failure.isEngine : Failure → Bool
  | engine _ => true
  | _ => false

def failure? {α : Type} : Except Failure α → Option Failure
  | .ok _ => none
  | .error failure => some failure

/-! ## What native calls raise -/

/-- The failure that a call raised, if it raised one. -/
def PoolCall.raised? : (call : PoolCall) → call.Reply → Option Failure
  | isClosed _, _ => none
  | create _, reply => failure? reply
  | checkOut _, reply => failure? reply
  | borrow _, reply => failure? reply
  | execute .., reply => failure? reply
  | fetchAll _, reply => failure? reply
  | openWithin .., reply => failure? reply
  | close _, reply => failure? reply
  | awaitClosed _, reply => failure? reply
  | checkIn .., reply => failure? reply
  | giveBack .., reply => failure? reply
  | begin _, reply => failure? reply
  | commit _, reply => failure? reply
  | rollback _, reply => failure? reply
  | setIsolation .., reply => failure? reply

/-- The last failure after an exchange. -/
def raisedAfter (last : Option Failure) (exchange : Exchange poolInterface) : Option Failure :=
  (exchange.call.raised? exchange.reply).or last

/-- The failure that was raised last in some exchanges, if any was raised. -/
def lastRaised (exchanges : List (Exchange poolInterface)) : Option Failure :=
  exchanges.foldl raisedAfter none

/-- A pool that answers as it likes, with the failure that it raised last. -/
def attending : Surroundings poolInterface (Option Failure) where
  permits _ _ := True
  replies last call reply later := later = raisedAfter last { call, reply }

namespace PoolAction

open Action

variable {α β : Type} {own : Option PoolId} {last : Option Failure} {pool : PoolId}
  {connection : ConnectionId}

/-- An action that returns raised nothing, and one that fails does so with what was raised
last. -/
def TellsFrom (own : Option PoolId) (action : PoolAction α) : Prop :=
  ∀ last, action.Ensures attending own last (fun _ _ later => later = last)
    fun failure _ later => later = some failure

def Tells (action : PoolAction α) : Prop :=
  ∀ own, action.TellsFrom own

theorem TellsFrom.bind {action : PoolAction α} {next : α → PoolAction β}
    (first : action.TellsFrom own) (second : ∀ result, (next result).Tells) :
    (action >>= next).TellsFrom own := by
  intro last
  rw [ensures_bind]
  apply Ensures.imp (first last)
  · rintro result after _ rfl
    exact second result after _
  · intro failure after later told
    exact told

theorem Tells.bind {action : PoolAction α} {next : α → PoolAction β}
    (first : action.Tells) (second : ∀ result, (next result).Tells) : (action >>= next).Tells :=
  fun own => (first own).bind second

theorem tells_pure {result : α} : Tells (pure result : PoolAction α) := fun _ _ => rfl

theorem tells_set {next : Option PoolId} : Tells (set next : PoolAction PUnit) := fun _ _ => rfl

theorem tells_perform {call : PoolCall} {read : call.Reply → Except Failure α}
    (reads : ∀ reply, failure? (read reply) = call.raised? reply) :
    Tells (Action.perform call read) := by
  intro own last
  rw [ensures_perform]
  refine ⟨trivial, ?_⟩
  rintro reply _ rfl
  have raised := reads reply
  unfold raisedAfter
  dsimp only
  rw [← raised]
  cases read reply with
  | ok result => rfl
  | error failure => rfl

/-- A clean-up after a failure: its own failure, if it fails, takes the place of the one
before it. -/
theorem Tells.rethrow {cleanUp : PoolAction Unit} (cleaned : cleanUp.Tells) {failure : Failure} :
    (do
      cleanUp
      throw failure : PoolAction α).Ensures attending own (some failure)
      (fun _ _ later => later = last) fun failure _ later => later = some failure := by
  rw [ensures_bind]
  apply Ensures.imp (cleaned own _)
  · rintro _ _ _ rfl
    rfl
  · intro other after later told
    exact told

theorem Tells.always {action : PoolAction α} {cleanUp : PoolAction Unit} (tells : action.Tells)
    (cleaned : cleanUp.Tells) : (always action cleanUp).Tells := by
  intro own last
  unfold PoolAction.always
  rw [ensures_bind, ensures_attempt]
  apply Ensures.imp (tells own last)
  · rintro result after _ rfl
    exact ((cleaned after).bind fun _ => tells_pure) _
  · rintro failure after _ rfl
    exact cleaned.rethrow

theorem Tells.onFailure {action : PoolAction α} {cleanUp : PoolAction Unit} (tells : action.Tells)
    (cleaned : cleanUp.Tells) : (onFailure action cleanUp).Tells := by
  intro own last
  unfold PoolAction.onFailure
  rw [ensures_recover]
  apply Ensures.imp (tells own last)
  · intro result after later told
    exact told
  · rintro failure after _ rfl
    dsimp only
    split
    · exact cleaned.rethrow
    · exact rfl

theorem tells_runOn {sql : String} {parameters : List Value} :
    Tells (runOn connection sql parameters) := by
  apply Tells.bind (tells_perform fun _ => rfl)
  intro cursor
  dsimp only
  split
  · exact (tells_perform fun _ => rfl).bind fun rows => tells_pure
  · exact tells_pure.bind fun rows => tells_pure

theorem tells_required {label : String} {next : PoolId → PoolAction α}
    (tells : (next pool).Tells) : (required label >>= next).TellsFrom (some pool) :=
  tells (some pool)

end PoolAction

open PoolAction in
theorem MySql.tells_adapt (config : ConnectionConfig) (pool : PoolId) {call : AdapterCall}
    (notOpening : call ≠ .openPool) : (MySql.adapt config call).TellsFrom (some pool) := by
  have executes {connection : ConnectionId} {sql : String} {parameters : List Value} :
      (MySql.executeOn connection sql parameters).Tells := tells_runOn.bind fun _ => tells_pure
  cases call with
  | openPool => exact absurd rfl notOpening
  | closePool =>
      change ((PoolAction.close pool >>= fun _ => PoolAction.awaitClosed pool >>= fun _ =>
        set (none : Option PoolId)) : PoolAction Unit).TellsFrom (some pool)
      apply TellsFrom.bind (tells_perform (fun _ => rfl) _)
      intro _
      exact (tells_perform fun _ => rfl).bind fun _ => tells_set
  | execute sql parameters lease =>
      cases lease with
      | some lease => exact executes _
      | none =>
          apply tells_required
          apply Tells.bind (tells_perform fun _ => rfl)
          intro connection
          exact executes.always (tells_perform fun _ => rfl)
  | begin isolation =>
      apply tells_required
      apply Tells.bind (tells_perform fun _ => rfl)
      intro connection
      have begins : (MySql.beginOn connection isolation).Tells := by
        cases isolation with
        | none => exact tells_perform fun _ => rfl
        | some level => exact (tells_perform fun _ => rfl).bind fun _ => tells_perform fun _ => rfl
      exact (begins.onFailure (tells_perform fun _ => rfl)).bind fun _ => tells_pure
  | commit lease => exact tells_perform (fun _ => rfl) _
  | rollback lease => exact tells_perform (fun _ => rfl) _
  | release lease =>
      apply tells_required
      exact tells_perform fun _ => rfl

namespace Postgres

open PoolAction

theorem tells_withBorrowed {α : Type} {pool : PoolId} {body : ConnectionId → PoolAction α}
    (tells : ∀ connection, (body connection).Tells) : (withBorrowed pool body).Tells := by
  apply Tells.bind (tells_perform fun _ => rfl)
  intro connection own last
  rw [Action.ensures_bind, Action.ensures_attempt]
  apply Action.Ensures.imp (tells connection own last)
  · rintro result after _ rfl
    exact (TellsFrom.bind (tells_perform (fun _ => rfl) after) fun _ => tells_pure) _
  · rintro failure after _ rfl
    exact (tells_perform fun _ => rfl).rethrow

theorem tells_adapt (config : ConnectionConfig) (pool : PoolId) {call : AdapterCall}
    (notOpening : call ≠ .openPool) : (adapt config call).TellsFrom (some pool) := by
  have executes {connection : ConnectionId} {sql : String} {parameters : List Value} :
      (executeOn connection sql parameters).Tells := tells_runOn.bind fun _ => tells_pure
  cases call with
  | openPool => exact absurd rfl notOpening
  | closePool =>
      change ((PoolAction.close pool >>= fun _ => set (none : Option PoolId)) :
        PoolAction Unit).TellsFrom (some pool)
      exact TellsFrom.bind (tells_perform (fun _ => rfl) _) fun _ => tells_set
  | execute sql parameters lease =>
      cases lease with
      | some lease => exact executes _
      | none =>
          apply tells_required
          exact tells_withBorrowed fun connection => executes
  | begin isolation =>
      apply tells_required
      apply Tells.bind (tells_perform fun _ => rfl)
      intro connection
      have applies : (applyIsolation connection isolation).Tells := by
        cases isolation with
        | none => exact tells_pure
        | some level => exact tells_perform fun _ => rfl
      exact (applies.onFailure (tells_perform fun _ => rfl)).bind fun _ => tells_pure
  | commit lease => exact tells_perform (fun _ => rfl) _
  | rollback lease => exact tells_perform (fun _ => rfl) _
  | release lease =>
      apply tells_required
      have resets : (resetIsolation lease).Tells := by
        unfold resetIsolation
        cases lease.isolation with
        | none => exact tells_pure
        | some level =>
            apply Tells.bind (tells_perform fun _ => rfl)
            intro closed
            cases closed with
            | true => exact tells_pure
            | false => exact tells_perform fun _ => rfl
      exact resets.always (tells_perform fun _ => rfl)

end Postgres

theorem tells_nativeAdapter (config : ConnectionConfig) (dialect : Dialect) (pool : PoolId)
    {call : AdapterCall} (notOpening : call ≠ .openPool) :
    (nativeAdapter config dialect call).TellsFrom (some pool) := by
  cases dialect with
  | mysql => exact MySql.tells_adapt config pool notOpening
  | postgres => exact Postgres.tells_adapt config pool notOpening

/-! ## What an operation asks and tells -/

/-- Whether the adapter was asked, and what it raised then. -/
inductive AdapterUse where
  | unused
  | used (raised : Option Failure)

def AdapterUse.raised? : AdapterUse → Option Failure
  | unused => none
  | used raised => raised

/-- An adapter that is asked once at most, and not for opening a pool. -/
def reporting : Surroundings engineInterface AdapterUse where
  permits
    | .unused, .adapter call => call ≠ .openPool
    | .used _, .adapter _ => False
    | _, .ambient _ => True
  replies seen
    | .adapter _, reply, later => later = .used (failure? reply)
    | .ambient _, _, later => later = seen

/-- A failure tells what the adapter raised, or is one of the library's own. -/
def Told (report : Failure → Failure) (failure : Failure) (seen : AdapterUse) : Prop :=
  match seen.raised? with
  | some raised => failure = report raised
  | none => failure.isEngine = false

namespace EngineAction

open Action

variable {settings : EngineSettings} {α β : Type} {report : Failure → Failure}
  {sql : String} {parameters : List Value}

/-- An action asks the adapter for nothing and fails with failures of the library's own. -/
def Careful (action : EngineAction α) : Prop :=
  ∀ sessions seen, action.Ensures reporting sessions seen (fun _ _ later => later = seen)
    fun failure _ later => later = seen ∧ failure.isEngine = false

def Reports (report : Failure → Failure) (action : EngineAction α) : Prop :=
  ∀ sessions, action.Ensures reporting sessions .unused (fun _ _ later => later.raised? = none)
    fun failure _ later => Told report failure later

theorem Careful.bind {action : EngineAction α} {next : α → EngineAction β}
    (first : Careful action) (second : ∀ result, Careful (next result)) :
    Careful (action >>= next) := by
  intro sessions seen
  rw [ensures_bind]
  apply Ensures.imp (first sessions seen)
  · rintro result after _ rfl
    exact second result after _
  · intro failure after later own
    exact own

theorem careful_pure {result : α} : Careful (pure result : EngineAction α) := fun _ _ => rfl

theorem careful_get : Careful (get : EngineAction (List Session)) := fun _ _ => rfl

theorem careful_set {sessions : List Session} : Careful (set sessions : EngineAction PUnit) :=
  fun _ _ => rfl

theorem careful_note {entry : LogEntry} : Careful (note entry : EngineAction Unit) :=
  fun _ _ => rfl

theorem careful_throw {failure : Failure} (own : failure.isEngine = false) :
    Careful (throw failure : EngineAction α) := fun _ _ => ⟨rfl, own⟩

theorem careful_ofFault {outcome : Except Fault α} :
    Careful (ofFault outcome : EngineAction α) := by
  cases outcome with
  | ok result => exact careful_pure
  | error fault => exact careful_throw rfl

theorem careful_ofStoreError {outcome : Except StoreError α} :
    Careful (ofStoreError outcome : EngineAction α) := by
  cases outcome with
  | ok result => exact careful_pure
  | error error => exact careful_throw rfl

theorem careful_elapsed : Careful elapsed := by
  intro sessions seen
  unfold elapsed
  rw [ensures_perform]
  refine ⟨by cases seen <;> trivial, ?_⟩
  rintro duration _ rfl
  rfl

theorem careful_sessionAt {session : SessionId} : Careful (Engine.sessionAt session) := by
  apply Careful.bind careful_get
  intro sessions
  cases sessions[session]? with
  | none => exact careful_throw rfl
  | some found => exact careful_pure

theorem careful_leaseOf {session : Option SessionId} : Careful (Engine.leaseOf session) := by
  cases session with
  | none => exact careful_pure
  | some session => exact careful_sessionAt.bind fun found => careful_pure

theorem told_of_isEngine {failure : Failure} {seen : AdapterUse} (own : failure.isEngine = false)
    (nothing : seen.raised? = none) : Told report failure seen := by
  unfold Told
  rw [nothing]
  exact own

/-- Where the adapter raised nothing so far, it raised nothing after a careful action. -/
theorem Careful.ensures {action : EngineAction α} (careful : Careful action)
    {sessions : List Session} {seen : AdapterUse} (nothing : seen.raised? = none) :
    action.Ensures reporting sessions seen (fun _ _ later => later.raised? = none)
      fun failure _ later => Told report failure later := by
  apply Ensures.imp (careful sessions seen)
  · rintro result after _ rfl
    exact nothing
  · rintro failure after _ ⟨rfl, own⟩
    exact told_of_isEngine own nothing

theorem Careful.reports {action : EngineAction α} (careful : Careful action) :
    Reports report action := fun _ => careful.ensures rfl

theorem Careful.bind_reports {action : EngineAction α} {next : α → EngineAction β}
    (first : Careful action) (second : ∀ result, Reports report (next result)) :
    Reports report (action >>= next) := by
  intro sessions
  rw [ensures_bind]
  apply Ensures.imp (first sessions .unused)
  · rintro result after _ rfl
    exact second result after
  · rintro failure after _ ⟨rfl, own⟩
    exact told_of_isEngine own rfl

theorem Reports.bind {action : EngineAction α} {next : α → EngineAction β}
    (first : Reports report action) (second : ∀ result, Careful (next result)) :
    Reports report (action >>= next) := by
  intro sessions
  rw [ensures_bind]
  apply Ensures.imp (first sessions)
  · intro result after later nothing
    exact (second result).ensures nothing
  · intro failure after later told
    exact told

theorem Reports.answering {toValue : α → Value} {action : EngineAction α}
    (reports : Reports report action) : Reports report (answering toValue action) :=
  reports.bind fun _ => careful_pure

theorem reports_adapter {call : AdapterCall} (notOpening : call ≠ .openPool) :
    Reports id (adapter call) := by
  intro sessions
  unfold adapter
  rw [ensures_perform]
  refine ⟨notOpening, ?_⟩
  rintro reply _ rfl
  cases reply with
  | ok result => rfl
  | error failure => rfl

theorem Reports.guarded {activity : String} {text : Option String} {action : EngineAction α}
    (reports : Reports id action) :
    Reports (settings.wrap activity text) (settings.guarded activity text action) := by
  intro sessions
  unfold EngineSettings.guarded
  rw [ensures_recover]
  apply Ensures.imp (reports sessions)
  · intro result after later nothing
    exact nothing
  · intro failure after later told
    rw [ensures_throw]
    unfold Told at told ⊢
    cases raised : later.raised? with
    | some other =>
        rw [raised] at told
        exact congrArg (settings.wrap activity text) told
    | none =>
        rw [raised] at told
        cases failure with
        | engine native => cases told
        | _ => rfl

theorem Reports.profiled {action : EngineAction Execution} (reports : Reports id action) :
    Reports id (Engine.profiled settings sql parameters action) := by
  unfold Engine.profiled
  split
  · exact reports
  · intro sessions
    rw [ensures_bind, ensures_attempt]
    apply Ensures.imp (reports sessions)
    · intro execution after later nothing
      -- what is left times the statement, which the adapter has carried out
      refine Careful.ensures ?_ nothing
      apply Careful.bind careful_elapsed
      intro duration
      dsimp only
      split
      · exact careful_note.bind fun _ => careful_pure
      · exact careful_pure
    · intro failure after later told
      dsimp only
      split
      · rw [ensures_bind, ensures_note]
        exact told
      · exact told

theorem reports_execute {session : Option SessionId} :
    Reports (settings.wrap "query" (some sql))
      (Engine.execute settings sql parameters session) := by
  apply careful_leaseOf.bind_reports
  intro lease
  have asked : Reports id (adapter (.execute sql parameters lease)) := reports_adapter nofun
  exact asked.profiled.guarded

theorem reports_query {session : Option SessionId} :
    Reports (settings.wrap "query" (some sql)) (Engine.query settings sql parameters session) :=
  reports_execute.bind fun _ => careful_pure

theorem reports_direct :
    Reports (settings.wrap "query" (some sql)) (Engine.perform settings sql) :=
  reports_query.bind fun _ => careful_pure

end EngineAction

/-! ## The descriptions of indexes -/

/-- An outcome is no failure of the engine's layer. -/
def IsMild {α : Type} (outcome : Except Failure α) : Prop :=
  ∀ failure, outcome = .error failure → failure.isEngine = false

namespace IsMild

variable {α β : Type}

theorem pure {result : α} : IsMild (Pure.pure result) := nofun

theorem bind {outcome : Except Failure α} {next : α → Except Failure β} (first : IsMild outcome)
    (second : ∀ result, IsMild (next result)) : IsMild (outcome >>= next) := by
  cases outcome with
  | ok result => exact second result
  | error failure =>
      rintro _ ⟨⟩
      exact first failure rfl

theorem lift {outcome : Except Fault α} :
    IsMild (MonadLift.monadLift outcome : Except Failure α) := by
  cases outcome with
  | ok result => exact nofun
  | error fault =>
      rintro _ ⟨⟩
      rfl

theorem indexName {scalars : ScalarReader} {value : Value} :
    IsMild (Catalog.indexName scalars value) := by
  unfold Catalog.indexName
  cases (Check.text scalars [.key "name"] value).report "IndexDescription" with
  | ok name => exact nofun
  | error report =>
      rintro _ ⟨⟩
      rfl

theorem mapM {step : α → Except Failure β} (each : ∀ item, IsMild (step item))
    (items : List α) : IsMild (items.mapM step) := by
  induction items with
  | nil => exact pure
  | cons item items ih =>
      rw [List.mapM_cons]
      exact (each item).bind fun result => ih.bind fun results => pure

theorem foldlM {step : β → α → Except Failure β} (each : ∀ state item, IsMild (step state item))
    (items : List α) (start : β) : IsMild (items.foldlM step start) := by
  induction items generalizing start with
  | nil => exact pure
  | cons item items ih =>
      rw [List.foldlM_cons]
      exact (each start item).bind fun state => ih state

theorem indexes (scalars : ScalarReader) (dialect : Dialect) (rows : List Value) :
    IsMild (Catalog.indexes scalars dialect rows) := by
  cases dialect with
  | postgres =>
      refine mapM (fun row => ?_) rows
      refine lift.bind fun definition => lift.bind fun definition => lift.bind fun name => ?_
      exact indexName.bind fun name => pure
  | mysql =>
      refine (foldlM (fun descriptions row => ?_) rows []).bind fun descriptions => pure
      refine lift.bind fun given => lift.bind fun nonUnique => indexName.bind fun name => ?_
      refine lift.bind fun label => lift.bind fun collation => lift.bind fun expression => ?_
      exact lift.bind fun expression => lift.bind fun column => lift.bind fun field => pure

end IsMild

/-! ## Operations -/

/-- What can be asked of an engine: a verb, or something about indexes. -/
inductive EngineOperation where
  | verb (verb : EngineVerb)
  | createIndex (table : String) (keys : Members) (options : IndexOptions)
  | dropIndex (table name : String)
  | listIndexes (table : String)

namespace EngineOperation

open Action (answering silently)

/-- Carries an operation out. -/
def perform (settings : EngineSettings) : EngineOperation → EngineAction Value
  | verb given => given.perform settings
  | createIndex table keys options =>
      answering Value.text (Engine.createIndex settings table keys options)
  | dropIndex table name => silently (Engine.dropIndex settings table name)
  | listIndexes table =>
      answering (fun found => .list (found.map IndexDescription.toValue))
        (Engine.listIndexes settings table)

/-- The statement that creates an index, if its keys can be read. -/
def creation? (dialect : Dialect) (table : String) (keys : Members) (options : IndexOptions) :
    Option Statement :=
  match keys.keys.mapM fun key => key.toValue.asText, keys.mapM Statement.readIndexKey with
  | .ok fields, .ok directions =>
      some (Statement.createIndex dialect table (Engine.indexName options fields) directions
        options.unique)
  | _, _ => none

/-- The text of the statement that an operation runs, if it runs one. -/
def sql? (dialect : Dialect) : EngineOperation → Option String
  | verb (.savepoint action _ name) => some (Statement.savepoint dialect action name).sql
  | verb (.query sql _ _) => some sql
  | verb (.execute sql _ _) => some sql
  | verb (.insert sql _ _ _) => some sql
  | verb (.tableExists table) => some (Statement.tableExists dialect table).sql
  | verb (.createTable table) => some (Statement.createTable dialect table).sql
  | verb (.dropTable table) => some (Statement.dropTable dialect table).sql
  | verb .listTables => some (Statement.listTables dialect).sql
  | createIndex table keys options => (creation? dialect table keys options).map Statement.sql
  | dropIndex table name => some (Statement.dropIndex dialect table name).sql
  | listIndexes table => some (Statement.listIndexes dialect (.text table)).sql
  | verb _ => none

/-- The word for an operation in the errors that it raises. -/
def activity : EngineOperation → String
  | verb (.startSession _) => "begin"
  | verb (.commit _) => "commit"
  | verb (.rollback _) => "rollback"
  | verb (.release _) => "release"
  | verb .disconnect => "disconnect"
  | _ => "query"

/-- What an operation should come to if a failure was raised last: one of the engine's own
layer is told as an error of the library, with the statement, and any other one as it is.
The health check reports ordinary failures instead. -/
def told (settings : EngineSettings) (operation : EngineOperation) (raised : Failure) :
    Except Failure Value :=
  match operation with
  | verb .healthCheck => if raised.isOrdinary then .ok (.bool false) else .error raised
  | operation =>
      match raised with
      | .engine failure =>
          if failure.kind.isNative then
            .error (.store (.query (settings.label ++ " " ++ operation.activity ++ " failed")
              settings.queryCode (some (.engine failure)) (operation.sql? settings.dialect)))
          else .error (.engine failure)
      | raised => .error raised

/-- An operation surfaces what was raised last during it; if nothing was, it does not fail
with a failure of the engine's layer. -/
def Surfaces (settings : EngineSettings) (operation : EngineOperation) (raised : Option Failure)
    (outcome : Except Failure Value) : Prop :=
  match raised with
  | some failure => outcome = operation.told settings failure
  | none => (operation = verb .healthCheck → outcome = .ok (.bool true)) ∧
      ∀ failure, outcome ≠ .error (.engine failure)

open EngineAction

variable {settings : EngineSettings} {operation : EngineOperation}

theorem careful_ofOutcome {α : Type} {outcome : Except Failure α} (mild : IsMild outcome) :
    Careful (Action.ofOutcome outcome) := by
  cases outcome with
  | ok result => exact careful_pure
  | error failure => exact careful_throw (mild failure rfl)

theorem reports_startSession {isolation : Option String} :
    Reports (settings.wrap "begin" none) (Engine.startSession settings isolation) := by
  apply careful_ofStoreError.bind_reports
  intro level
  have asked : Reports id (adapter (.begin level)) := reports_adapter nofun
  apply asked.guarded.bind
  intro lease
  apply careful_note.bind
  intro _
  apply careful_get.bind
  intro sessions
  exact careful_set.bind fun _ => careful_pure

theorem reports_release {session : SessionId} :
    Reports (settings.wrap "release" none) (Engine.release settings session) := by
  apply careful_sessionAt.bind_reports
  intro found
  have asked : Reports id (adapter (.release found.lease)) := reports_adapter nofun
  split
  · exact careful_pure.reports
  · exact Careful.bind_reports (fun _ _ => rfl) fun _ => asked.guarded

theorem reports_savepoint {action : SavepointAction} {session : SessionId} {name : String} :
    Reports (settings.wrap "query" (some (Statement.savepoint settings.dialect action name).sql))
      (Engine.savepoint settings action session name) := by
  unfold Engine.savepoint
  split
  · exact reports_query.bind fun _ => careful_pure
  · exact (careful_throw rfl).reports

theorem reports_tableExists {table : String} :
    Reports (settings.wrap "query" (some (Statement.tableExists settings.dialect table).sql))
      (Engine.tableExists settings table) := by
  apply reports_query.bind
  intro rows
  cases rows with
  | nil => exact careful_pure
  | cons row rows => exact careful_ofFault.bind fun found => careful_pure

theorem reports_createIndex {table : String} {keys : Members} {options : IndexOptions} :
    Reports (settings.wrap "query"
        ((creation? settings.dialect table keys options).map Statement.sql))
      (Engine.createIndex settings table keys options) := by
  unfold Engine.createIndex creation?
  cases keys.keys.mapM fun key => key.toValue.asText with
  | error fault => exact (careful_throw rfl).reports
  | ok fields =>
      cases keys.mapM Statement.readIndexKey with
      | error fault => exact (careful_throw rfl).reports
      | ok directions => exact reports_direct.bind fun _ => careful_pure

theorem reports_showing {report : Failure → Failure} {dialect : Dialect} {session : SessionId}
    {action : EngineAction Unit} (reports : Reports report action) :
    Reports report (EngineVerb.showing dialect session action) := by
  apply reports.bind
  intro _
  exact careful_sessionAt.bind fun found => careful_pure

/-- How an operation other than the health check tells what was raised. -/
def report (settings : EngineSettings) (operation : EngineOperation) : Failure → Failure :=
  match operation with
  | verb .disconnect => id
  | operation => settings.wrap operation.activity (operation.sql? settings.dialect)

theorem reports_perform (notConnect : operation ≠ verb .connect)
    (notHealthCheck : operation ≠ verb .healthCheck) :
    Reports (operation.report settings) (operation.perform settings) := by
  cases operation with
  | verb given =>
      cases given with
      | connect => exact absurd rfl notConnect
      | healthCheck => exact absurd rfl notHealthCheck
      | disconnect =>
          have asked : Reports id (adapter .closePool) := reports_adapter nofun
          exact (asked.bind fun _ => careful_note).answering
      | startSession isolation =>
          apply reports_startSession.bind
          intro session
          exact careful_pure.bind fun _ => careful_sessionAt.bind fun found => careful_pure
      | commit session =>
          apply reports_showing
          apply careful_sessionAt.bind_reports
          intro found
          have asked : Reports id (adapter (.commit found.lease)) := reports_adapter nofun
          exact asked.guarded
      | rollback session =>
          apply reports_showing
          apply careful_sessionAt.bind_reports
          intro found
          have asked : Reports id (adapter (.rollback found.lease)) := reports_adapter nofun
          exact asked.guarded
      | release session => exact reports_showing reports_release
      | savepoint action session name => exact reports_savepoint.answering
      | query sql parameters session => exact reports_query.answering
      | execute sql parameters session => exact reports_execute.answering
      | insert sql parameters count session =>
          exact (reports_execute.bind fun _ => careful_ofFault).answering
      | tableExists table => exact reports_tableExists.answering
      | createTable table => exact reports_direct.answering
      | dropTable table => exact reports_direct.answering
      | listTables => exact (reports_query.bind fun _ => careful_ofFault).answering
  | createIndex table keys options => exact reports_createIndex.answering
  | dropIndex table name => exact reports_direct.answering
  | listIndexes table =>
      apply Reports.answering
      exact reports_query.bind fun rows =>
        careful_ofOutcome (IsMild.indexes settings.scalars settings.dialect rows)

/-- The health check answers whether something was raised; only what no ordinary handler
takes passes. -/
theorem ensures_healthCheck (sessions : List Session) :
    ((verb .healthCheck).perform settings).Ensures reporting sessions .unused
      (fun answer _ later =>
        (verb .healthCheck).Surfaces settings later.raised? (.ok answer))
      fun failure _ later =>
        (verb .healthCheck).Surfaces settings later.raised? (.error failure) := by
  change Action.Ensures reporting (answering Value.bool (Engine.isHealthy settings)) ..
  unfold answering Engine.isHealthy adapter
  rw [Action.ensures_bind, Action.ensures_bind, Action.ensures_attempt, Action.ensures_perform]
  refine ⟨nofun, ?_⟩
  rintro reply _ rfl
  cases reply with
  | ok execution => exact ⟨fun _ => rfl, nofun⟩
  | error failure =>
      change Action.Ensures _ (if failure.isOrdinary = true then _ else _) _ _ _ _
      cases isOrdinary : failure.isOrdinary with
      | true => exact (if_pos isOrdinary).symm
      | false => exact (if_neg (Bool.eq_false_iff.mp isOrdinary)).symm

theorem told_eq_error (notHealthCheck : operation ≠ verb .healthCheck) (raised : Failure) :
    operation.told settings raised =
      .error (settings.wrap operation.activity (operation.sql? settings.dialect) raised) := by
  have unfolded : operation.told settings raised =
      match raised with
      | .engine failure =>
          if failure.kind.isNative then
            .error (.store (settings.queryError operation.activity
              (operation.sql? settings.dialect) failure))
          else .error (.engine failure)
      | raised => .error raised := by
    cases operation with
    | verb given =>
        cases given with
        | healthCheck => exact absurd rfl notHealthCheck
        | _ => rfl
    | _ => rfl
  rw [unfolded]
  cases raised with
  | engine failure =>
      dsimp only [EngineSettings.wrap]
      split <;> rfl
  | _ => rfl

theorem report_eq_wrap (notDisconnect : operation ≠ verb .disconnect) :
    operation.report settings =
      settings.wrap operation.activity (operation.sql? settings.dialect) := by
  cases operation with
  | verb given =>
      cases given with
      | disconnect => exact absurd rfl notDisconnect
      | _ => rfl
  | _ => rfl

theorem report_disconnect (settings : EngineSettings) (raised : Failure) :
    (verb .disconnect).report settings raised = raised := rfl

theorem wrap_eq_self_iff {activity : String} {sql : Option String} {raised : Failure} :
    raised = settings.wrap activity sql raised ↔
      ∀ failure, raised = .engine failure → failure.kind.isNative = false := by
  cases raised with
  | engine failure =>
      unfold EngineSettings.wrap
      cases native : failure.kind.isNative <;> simp [native]
  | _ => simp [EngineSettings.wrap]

/-- The failures that an operation tells are those that should surface, but for the failures
of the engine's own layer that closing the pool raises. -/
theorem surfaces_iff_of_ends (notHealthCheck : operation ≠ verb .healthCheck)
    {ended : Except Failure Value × List Session} {seen : AdapterUse}
    (ends : Action.Ends (fun _ _ later => later.raised? = none)
      (fun failure _ later => Told (operation.report settings) failure later) ended seen) :
    operation.Surfaces settings seen.raised? ended.1 ↔
      (operation = verb .disconnect → ∀ failure, seen.raised? = some (.engine failure) →
        failure.kind.isNative = false) := by
  obtain ⟨outcome, after⟩ := ended
  cases outcome with
  | ok result =>
      have nothing : seen.raised? = none := ends
      rw [nothing]
      exact iff_of_true ⟨fun same => absurd same notHealthCheck, nofun⟩ nofun
  | error failure =>
      have told : Told (operation.report settings) failure seen := ends
      unfold Told at told
      cases isRaised : seen.raised? with
      | none =>
          rw [isRaised] at told
          refine iff_of_true ⟨fun same => absurd same notHealthCheck, ?_⟩ nofun
          rintro native ⟨⟩
          cases told
      | some raised =>
          rw [isRaised] at told
          cases told
          unfold Surfaces
          dsimp only
          rw [told_eq_error notHealthCheck, Except.error.injEq]
          by_cases disconnects : operation = verb .disconnect
          · subst disconnects
            rw [report_disconnect, wrap_eq_self_iff]
            simp only [forall_const, Option.some.injEq]
          · rw [report_eq_wrap disconnects]
            exact iff_of_true rfl fun same => absurd same disconnects

end EngineOperation

/-! ## Operations on a pool -/

section

variable {ρ : Type} {answers : PoolAnswers ρ} {ambient : (call : AmbientCall) → StateM ρ call.Reply}

theorem covers_attending :
    attending.Covers (recorded answers) fun reached last => lastRaised reached.2 = last := by
  rintro ⟨state, exchanges⟩ _ call rfl _
  refine ⟨_, rfl, ?_⟩
  exact List.foldl_append

/-- A pool is in use and was not asked yet, or it shows what it raised. -/
def PoolState.Shows (pool : PoolId) (reached : PoolState ρ) : AdapterUse → Prop
  | .unused => reached.inUse = some pool ∧ reached.exchanges = []
  | .used raised => lastRaised reached.exchanges = raised

theorem PoolState.Shows.lastRaised_eq {pool : PoolId} {reached : PoolState ρ} {seen : AdapterUse}
    (shows : reached.Shows pool seen) : lastRaised reached.exchanges = seen.raised? := by
  cases seen with
  | unused =>
      rw [shows.2]
      rfl
  | used raised => exact shows

theorem covers_reporting (config : ConnectionConfig) (dialect : Dialect) (pool : PoolId) :
    reporting.Covers (onPool answers ambient (nativeAdapter config dialect))
      (PoolState.Shows pool) := by
  rintro ⟨inUse, state, exchanges⟩ seen call shows permitted
  cases call with
  | ambient call =>
      refine ⟨seen, rfl, ?_⟩
      cases seen <;> exact shows
  | adapter call =>
      cases seen with
      | used raised => exact permitted.elim
      | unused =>
          obtain ⟨rfl, rfl⟩ := shows
          refine ⟨.used (failure? _), rfl, ?_⟩
          obtain ⟨later, ended, isLast⟩ := Program.Ensures.course
            (tells_nativeAdapter config dialect pool permitted none) covers_attending
            (show lastRaised (state, []).2 = none from rfl)
          unfold PoolState.Shows onPool
          change Action.Ends _ _ (Action.run (recorded answers) (nativeAdapter config dialect call)
            (some pool) (state, [])).1 later at ended
          change lastRaised (Action.run (recorded answers) (nativeAdapter config dialect call)
            (some pool) (state, [])).2.2 = later at isLast
          dsimp only
          rw [isLast]
          generalize Action.run (recorded answers) (nativeAdapter config dialect call) (some pool)
            (state, []) = run at ended ⊢
          obtain ⟨⟨outcome, own⟩, reached⟩ := run
          cases outcome with
          | ok result => exact ended
          | error failure => exact ended

/-- On a pool that is in use, whatever its native calls raise: an operation other than
connecting surfaces it as it should, unless it disconnects and what was raised comes from the
engine's own layer. -/
theorem surfaces_iff (settings : EngineSettings) (config : ConnectionConfig) (dialect : Dialect)
    (answers : PoolAnswers ρ) (ambient : (call : AmbientCall) → StateM ρ call.Reply)
    (pool : PoolId) (state : ρ) (sessions : List Session) (operation : EngineOperation)
    (notConnect : operation ≠ .verb .connect) :
    let ended := Action.run (onPool answers ambient (nativeAdapter config dialect))
      (operation.perform settings) sessions { inUse := some pool, state, exchanges := [] }
    let raised := lastRaised ended.2.exchanges
    operation.Surfaces settings raised ended.1.1 ↔
      (operation = .verb .disconnect → ∀ failure, raised = some (.engine failure) →
        failure.kind.isNative = false) := by
  intro ended raised
  have covers : reporting.Covers (onPool answers ambient (nativeAdapter config dialect))
      (PoolState.Shows pool) := covers_reporting config dialect pool
  have starts : PoolState.Shows pool ({ inUse := some pool, state, exchanges := [] } : PoolState ρ)
      .unused := ⟨rfl, rfl⟩
  by_cases isHealthCheck : operation = .verb .healthCheck
  · subst isHealthCheck
    obtain ⟨later, isEnd, shows⟩ := Program.Ensures.course
      (EngineOperation.ensures_healthCheck sessions) covers starts
    change Action.Ends _ _ ended.1 later at isEnd
    have isRaised : raised = later.raised? := PoolState.Shows.lastRaised_eq shows
    refine iff_of_true ?_ nofun
    rw [isRaised]
    revert isEnd
    obtain ⟨⟨outcome, after⟩, reached⟩ := ended
    cases outcome with
    | ok answer => exact fun surfaces => surfaces
    | error failure => exact fun surfaces => surfaces
  · obtain ⟨later, isEnd, shows⟩ := Program.Ensures.course
      (EngineOperation.reports_perform notConnect isHealthCheck sessions) covers starts
    change Action.Ends _ _ ended.1 later at isEnd
    have isRaised : raised = later.raised? := PoolState.Shows.lastRaised_eq shows
    rw [isRaised]
    exact EngineOperation.surfaces_iff_of_ends isHealthCheck isEnd

end

/-- A commit that fails on a connection of the pool is told as an error of the library. -/
theorem surfaces_commit :
    let ambient := fun call => Transaction.scripted (.ok ()) (.ok ()) (.ok ()) (.ambient call)
    let ended := Action.run
      (onPool faultyPool ambient (nativeAdapter { user := "app", database := "app" } .postgres))
      ((EngineOperation.verb (.commit 0)).perform Transaction.plainSettings)
      [{ lease := { connection := 7, isolation := none } }]
      { inUse := some 0, state := (), exchanges := [] }
    lastRaised ended.2.exchanges = some (.engine { kind := .engine, text := "lost" }) ∧
      (EngineOperation.verb (.commit 0)).Surfaces Transaction.plainSettings
        (lastRaised ended.2.exchanges) ended.1.1 :=
  ⟨rfl, (surfaces_iff Transaction.plainSettings { user := "app", database := "app" } .postgres
    faultyPool (fun call => Transaction.scripted (.ok ()) (.ok ()) (.ok ()) (.ambient call)) 0 ()
    [{ lease := { connection := 7, isolation := none } }] (.verb (.commit 0)) nofun).mpr nofun⟩

/-- A pool that cannot be closed. -/
def unclosablePool : PoolAnswers Unit
  | .close _ => pure (.error (.engine { kind := .engine, text := "lost" }))
  | call => faultyPool call

/-- What closing the pool raises leaves disconnecting as it is. -/
theorem disconnect_raises_engine_failure :
    let ambient := fun call => Transaction.scripted (.ok ()) (.ok ()) (.ok ()) (.ambient call)
    let ended := Action.run
      (onPool unclosablePool ambient
        (nativeAdapter { user := "app", database := "app" } .postgres))
      ((EngineOperation.verb .disconnect).perform Transaction.plainSettings) []
      { inUse := some 0, state := (), exchanges := [] }
    ended.1.1 = .error (.engine { kind := .engine, text := "lost" }) ∧
      ¬ (EngineOperation.verb .disconnect).Surfaces Transaction.plainSettings
        (lastRaised ended.2.exchanges) ended.1.1 :=
  ⟨rfl, nofun⟩

end DocStore
