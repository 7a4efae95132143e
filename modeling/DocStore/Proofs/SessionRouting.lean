import DocStore.Client.Service
import DocStore.Proofs.ClientStatements
import DocStore.Proofs.ExclusiveSessions
import DocStore.Proofs.Run

/-!
# Verbs in a session

The client runs on an engine and the engine on a pool.  A verb in a session runs its
statements on the connection of that session, but for the lookup and the creation of the
table: these know no session and run on a connection that is taken out for them.

So a verb in a session takes another connection whenever it looks its table up, which it
does first of all; an insertion does so when its documents are prepared.  Without a pool the
lookup fails before it takes a connection.
-/

namespace DocStore

namespace PoolCall

/-- A call that takes a connection out. -/
def Takes : PoolCall → Prop
  | checkOut _ => True
  | borrow _ => True
  | _ => False

/-- A call acts on no connection but a given one and takes no other one out. -/
def StaysOn (connection : ConnectionId) (call : PoolCall) : Prop :=
  (∀ other, call.actsOn? = some other → other = connection) ∧ ¬call.Takes

/-- A statement runs on a connection, unless its text is one of some texts. -/
def RunsOn (connection : ConnectionId) (texts : List String) : PoolCall → Prop
  | execute other sql _ => other = connection ∨ sql ∈ texts
  | _ => True

end PoolCall

/-! ## What lasts -/

section Lasting

variable {below : Interface} {σ ρ α β : Type}
  {answers : (call : below.Call) → StateM ρ (below.Reply call)} {lasting : ρ → Prop}

variable (below answers lasting) in
/-- A property of the layer below that no answer ends. -/
def Lasts : Prop := ∀ call state, lasting state → lasting (answers call state).2

theorem Lasts.course (lasts : Lasts below answers lasting) (program : Program below α) {state : ρ}
    (start : lasting state) : lasting (program.course answers state).2 := by
  induction program generalizing state with
  | done result => exact start
  | note entry rest ih => exact ih start
  | ask call rest ih => exact ih _ (lasts call state start)

/-- What lasts after a first step lasts after what follows. -/
theorem Lasts.run_bind (lasts : Lasts below answers lasting) {action : Action below σ α}
    {next : α → Action below σ β} {own : σ} {state : ρ}
    (first : lasting (Action.run answers action own state).2) :
    lasting (Action.run answers (action >>= next) own state).2 := by
  rw [Action.run_bind]
  generalize Action.run answers action own state = run at first ⊢
  obtain ⟨⟨outcome, after⟩, reached⟩ := run
  cases outcome with
  | ok value => exact lasts.course (next value after) first
  | error failure => exact first

theorem snd_run_attempt (action : Action below σ α) (own : σ) (state : ρ) :
    (Action.run answers (Action.attempt action) own state).2 =
      (Action.run answers action own state).2 := by
  rw [Action.run_attempt]

end Lasting

/-! ## Taking a connection out -/

/-- A connection was asked for. -/
def TakesOut (exchanges : List (Exchange poolInterface)) : Prop :=
  ∃ exchange ∈ exchanges, exchange.call.Takes

section

variable {ρ : Type} {answers : PoolAnswers ρ} {ambient : (call : AmbientCall) → StateM ρ call.Reply}
  {adapt : (call : AdapterCall) → PoolAction call.Result} {settings : EngineSettings}

theorem lasts_recorded :
    Lasts poolInterface (recorded answers) fun reached => TakesOut reached.2 := by
  rintro call ⟨state, exchanges⟩ ⟨exchange, member, takes⟩
  exact ⟨exchange, List.mem_append_left _ member, takes⟩

theorem lasts_onPool :
    Lasts engineInterface (onPool answers ambient adapt) fun pool => TakesOut pool.exchanges := by
  rintro call pool taken
  cases call with
  | ambient call => exact taken
  | adapter call =>
      have start : TakesOut (pool.state, pool.exchanges).2 := taken
      exact Lasts.course lasts_recorded (adapt call pool.inUse) start

/-- The client on an engine on a pool. -/
def onEngine (answers : PoolAnswers ρ) (ambient : (call : AmbientCall) → StateM ρ call.Reply)
    (adapt : (call : AdapterCall) → PoolAction call.Result) (settings : EngineSettings) :
    ClientAction.Answers (List Session × PoolState ρ) :=
  fun call (sessions, pool) =>
    let ended := (Engine.serve settings call sessions).course (onPool answers ambient adapt) pool
    (ended.1.1, ended.1.2, ended.2)

/-- A statement outside of sessions asks the pool in use for a connection. -/
theorem takesOut_adapt (config : ConnectionConfig) (dialect : Dialect) {sql : String}
    {parameters : List Value} {pool : PoolId} {state : ρ}
    {exchanges : List (Exchange poolInterface)} :
    TakesOut (Action.run (recorded answers)
      (nativeAdapter config dialect (.execute sql parameters none)) (some pool)
      (state, exchanges)).2.2 := by
  have asked (call : PoolCall) {read : call.Reply → Except Failure ConnectionId} {α : Type}
      {next : ConnectionId → PoolAction α} (takes : call.Takes) :
      TakesOut (Action.run (recorded answers) (Action.perform call read >>= next) (some pool)
        (state, exchanges)).2.2 := by
    apply lasts_recorded.run_bind
    exact ⟨_, List.mem_append_right _ (List.mem_singleton.mpr rfl), takes⟩
  cases dialect with
  | mysql => exact asked (.checkOut pool) trivial
  | postgres => exact asked (.borrow pool) trivial

/-- The lookup of a table takes a connection out, if there is a pool. -/
theorem takesOut_tableExists (config : ConnectionConfig) (dialect : Dialect) {table : String}
    {sessions : List Session} {pool : PoolState ρ} (connected : pool.inUse.isSome = true) :
    TakesOut (Action.run (onPool answers ambient (nativeAdapter config dialect))
      (Engine.tableExists settings table) sessions pool).2.exchanges := by
  obtain ⟨inUse, state, exchanges⟩ := pool
  obtain ⟨pool, rfl⟩ := Option.isSome_iff_exists.mp connected
  have lasts : Lasts engineInterface (onPool answers ambient (nativeAdapter config dialect))
      fun pool => TakesOut pool.exchanges := lasts_onPool
  unfold Engine.tableExists Engine.run Engine.query Engine.execute Engine.leaseOf
  dsimp only
  rw [pure_bind]
  apply lasts.run_bind
  apply lasts.run_bind
  unfold EngineSettings.guarded Action.recover
  apply lasts.run_bind
  rw [snd_run_attempt]
  have asked : TakesOut (Action.run (onPool answers ambient (nativeAdapter config dialect))
      (EngineAction.adapter (.execute (Statement.tableExists settings.dialect table).sql
        (Statement.tableExists settings.dialect table).params none)) sessions
      { inUse := some pool, state, exchanges }).2.exchanges :=
    takesOut_adapt config dialect
  unfold Engine.profiled
  split
  · exact asked
  · apply lasts.run_bind
    rw [snd_run_attempt]
    exact asked

theorem lasts_onEngine :
    Lasts storeInterface (onEngine answers ambient adapt settings)
      fun reached => TakesOut reached.2.exchanges := by
  rintro call ⟨sessions, pool⟩ taken
  exact Lasts.course lasts_onPool (Engine.serve settings call sessions) taken

/-- Preparing documents asks the pool for nothing. -/
theorem unchanged_of_prepares {α : Type} {action : ClientAction α}
    (asks : action.Asks StoreCall.Prepares) (schemas : SchemaCatalog) (sessions : List Session)
    (pool : PoolState ρ) :
    let reached := (ClientAction.run (onEngine answers ambient adapt settings) action schemas
      (sessions, pool)).2
    reached.2.inUse = pool.inUse ∧ reached.2.exchanges = pool.exchanges := by
  have covers : (Surroundings.only StoreCall.Prepares : Surroundings storeInterface Unit).Covers
      (onEngine answers ambient adapt settings) fun reached _ =>
        reached.2.inUse = pool.inUse ∧ reached.2.exchanges = pool.exchanges := by
    rintro ⟨sessions, pool⟩ seen call unchanged prepares
    cases prepares with
    | seconds => exact ⟨(), trivial, unchanged⟩
    | randomBytes count => exact ⟨(), trivial, unchanged⟩
  obtain ⟨_, _, unchanged⟩ := Program.Ensures.course (asks schemas schemas () rfl) covers
    (show (sessions, pool).2.inUse = pool.inUse ∧ _ from ⟨rfl, rfl⟩)
  exact unchanged

end

/-! ## Verbs that look a table up -/

namespace ClientVerb

/-- A verb in a session looks its table up: an insertion once its documents are prepared, any
other verb in any case. -/
def LooksUp {σ : Type} (answers : ClientAction.Answers σ) (schemas : SchemaCatalog) (state : σ) :
    ClientVerb → Prop
  | insertOne collection document _ =>
      ∃ prepared, (ClientAction.run answers (Client.prepare collection document) schemas
        state).1.1 = .ok prepared
  | insertMany collection documents _ =>
      documents.isTruthy = true ∧ ∃ items, documents.walk = .ok items ∧
        ∃ prepared, (ClientAction.run answers (Client.prepareAll collection items) schemas
          state).1.1 = .ok prepared
  | _ => True

end ClientVerb

namespace ClientAction

variable {ρ α β : Type} {store : Answers (List Session × PoolState ρ)} {schemas : SchemaCatalog}
  {state : List Session × PoolState ρ} {action : ClientAction α} {next : α → ClientAction β}

/-- An action of the client takes a connection out, whatever else it does. -/
def Consults (store : Answers (List Session × PoolState ρ)) (action : ClientAction α)
    (schemas : SchemaCatalog) (state : List Session × PoolState ρ) : Prop :=
  TakesOut (run store action schemas state).2.2.exchanges

theorem consults_bind_of_ok {value : α} {after : SchemaCatalog}
    {reached : List Session × PoolState ρ}
    (ran : run store action schemas state = ((.ok value, after), reached))
    (second : (next value).Consults store after reached) :
    (action >>= next).Consults store schemas state := by
  unfold Consults
  rw [run_bind, ran]
  exact second

section

variable (lasts : Lasts storeInterface store fun reached =>
  TakesOut reached.2.exchanges)
include lasts

theorem Consults.bind (first : action.Consults store schemas state) :
    (action >>= next).Consults store schemas state :=
  lasts.run_bind first

variable (connected : state.2.inUse.isSome = true)
  (looks : ∀ schemas collection state, state.2.inUse.isSome = true →
    (tableExists collection).Consults store schemas state)
include connected looks

open Client

variable {compile : ClientSettings} {collection : String} {session : Option SessionId}

theorem consults_find {filter : Value} {options : FindOptions} :
    (find compile collection filter options session).Consults store schemas state :=
  (looks schemas collection state connected).bind lasts

theorem consults_matching {filter : Value} {limit : Option Nat} :
    (matching compile collection filter limit session).Consults store schemas state :=
  (looks schemas collection state connected).bind lasts

theorem consults_insertPrepared {documents : List Members} :
    (insertPrepared compile collection documents session).Consults store schemas state := by
  apply Consults.bind lasts
  exact (looks schemas collection state connected).bind lasts

end

end ClientAction

section

variable {ρ : Type} {answers : PoolAnswers ρ} {ambient : (call : AmbientCall) → StateM ρ call.Reply}
  {settings : EngineSettings} {config : ConnectionConfig} {dialect : Dialect}
  {sessions : List Session} {pool : PoolState ρ} {session : SessionId} {collection : String}

open ClientAction Client

/-- The pool is still open after documents were prepared. -/
theorem consults_after_preparing {α β : Type} {action : ClientAction α}
    {next : α → ClientAction β} {value : α} {schemas : SchemaCatalog}
    (connected : pool.inUse.isSome = true) (asks : action.Asks StoreCall.Prepares)
    (prepared : (ClientAction.run (onEngine answers ambient (nativeAdapter config dialect)
      settings) action schemas (sessions, pool)).1.1 = .ok value)
    (second : ∀ after state, state.2.inUse.isSome = true → (next value).Consults
      (onEngine answers ambient (nativeAdapter config dialect) settings) after state) :
    (action >>= next).Consults
      (onEngine answers ambient (nativeAdapter config dialect) settings) schemas
      (sessions, pool) := by
  have sameInUse : (ClientAction.run (onEngine answers ambient (nativeAdapter config dialect)
      settings) action schemas (sessions, pool)).2.2.inUse = pool.inUse :=
    (unchanged_of_prepares asks schemas sessions pool).1
  rcases ran : ClientAction.run (onEngine answers ambient (nativeAdapter config dialect) settings)
    action schemas (sessions, pool) with ⟨⟨outcome, after⟩, state⟩
  rw [ran] at prepared sameInUse
  cases prepared
  apply consults_bind_of_ok ran
  apply second
  rw [sameInUse]
  exact connected

/-- A verb in a session that looks its table up takes a connection out. -/
theorem consults_perform {verb : ClientVerb}
    (inSession : verb.session? = some (session, collection)) {compile : ClientSettings}
    {schemas : SchemaCatalog} (connected : pool.inUse.isSome = true)
    (looksUp : verb.LooksUp (onEngine answers ambient (nativeAdapter config dialect) settings)
      schemas (sessions, pool)) :
    (verb.perform compile).Consults
      (onEngine answers ambient (nativeAdapter config dialect) settings) schemas
      (sessions, pool) := by
  have lasts : Lasts storeInterface
      (onEngine answers ambient (nativeAdapter config dialect) settings)
      fun reached => TakesOut reached.2.exchanges := lasts_onEngine
  have looks (schemas : SchemaCatalog) (collection : String)
      (state : List Session × PoolState ρ) (connected : state.2.inUse.isSome = true) :
      (tableExists collection).Consults
        (onEngine answers ambient (nativeAdapter config dialect) settings) schemas state :=
    takesOut_tableExists config dialect connected
  cases verb with
  | insertOne collection document given =>
      obtain ⟨prepared, isPrepared⟩ := looksUp
      apply Consults.bind lasts
      apply consults_after_preparing connected (asks_prepare fun _ prepares => prepares) isPrepared
      intro after state connected
      exact (consults_insertPrepared lasts connected looks).bind lasts
  | insertMany collection documents given =>
      obtain ⟨truthy, items, walked, prepared, isPrepared⟩ := looksUp
      apply Consults.bind lasts
      unfold insertMany
      simp only [truthy, Bool.not_true, Bool.false_eq_true, if_false, walked]
      apply consults_after_preparing connected
        (asks_prepareAll (fun _ prepares => prepares) items) isPrepared
      intro after state connected
      exact (consults_insertPrepared lasts connected looks).bind lasts
  | find collection filter options given =>
      exact (consults_find lasts connected looks).bind lasts
  | findOne collection filter options given =>
      exact ((consults_find lasts connected looks).bind lasts).bind lasts
  | findPage collection filter options given =>
      exact ((consults_find lasts connected looks).bind lasts).bind lasts
  | countDocuments collection filter given =>
      exact ((looks schemas collection _ connected).bind lasts).bind lasts
  | aggregate collection pipeline given =>
      exact ((looks schemas collection _ connected).bind lasts).bind lasts
  | updateOne collection filter change options given =>
      exact ((consults_matching lasts connected looks).bind lasts).bind lasts
  | updateMany collection filter change options given =>
      exact ((consults_matching lasts connected looks).bind lasts).bind lasts
  | deleteOne collection filter given =>
      exact ((consults_matching lasts connected looks).bind lasts).bind lasts
  | deleteMany collection filter given =>
      exact ((consults_matching lasts connected looks).bind lasts).bind lasts
  | _ => cases inSession

end

/-! ## Where statements run -/

/-- A statement in the session of a connection, or one of some texts outside of sessions. -/
def EngineCall.Routed (connection : ConnectionId) (texts : List String) : EngineCall → Prop
  | adapter (.execute _ _ (some lease)) => lease.connection = connection
  | adapter (.execute sql _ none) => sql ∈ texts
  | ambient _ => True
  | _ => False

/-- The statements that look the table of a collection up and create it. -/
def Engine.lookups (settings : EngineSettings) (collection : String) : List String :=
  [ (Statement.tableExists settings.dialect collection).sql,
    (Statement.createTable settings.dialect collection).sql ]

section

open Action EngineAction

variable {settings : EngineSettings} {sessions : List Session} {session : SessionId}
  {found : Session} {collection : String}

theorem Engine.ensures_serve_routed {call : StoreCall} (served : call.Serves collection session)
    (isFound : sessions[session]? = some found) :
    (Engine.serve settings call sessions).Ensures
      (.only (EngineCall.Routed found.lease.connection (Engine.lookups settings collection))) ()
      fun ended _ => ended.2 = sessions := by
  have kept (call : EngineCall)
      (routed : call.Routed found.lease.connection (Engine.lookups settings collection)) :
      (Surroundings.only (EngineCall.Routed found.lease.connection
        (Engine.lookups settings collection)) : Surroundings engineInterface Unit).Keeps
          (fun (own : List Session) _ => own = sessions) call := by
    intro own seen same
    exact ⟨routed, fun _ _ _ => same⟩
  have executes {sql : String} {parameters : List Value} :
      (Engine.execute settings sql parameters (some session)).Reaches
        (.only (EngineCall.Routed found.lease.connection (Engine.lookups settings collection)))
        sessions () fun own _ => own = sessions := by
    apply reaches_execute (kept (.ambient .elapsed) trivial) isFound
    exact keeps_perform (kept (.adapter (.execute sql parameters (some found.lease))) rfl)
      sessions () rfl
  cases served with
  | tableExists =>
      exact (keeps_tableExists (kept (.ambient .elapsed) trivial)
        (kept (.adapter (.execute _ _ none)) List.mem_cons_self) sessions () rfl).ensures
  | createTable =>
      exact (keeps_direct (kept (.ambient .elapsed) trivial)
        (kept (.adapter (.execute _ _ none)) (List.mem_cons_of_mem _ List.mem_cons_self))
        sessions () rfl).ensures
  | run request => exact (executes.bind fun _ => silent_pure.keeps).ensures
  | insert request count => exact (executes.bind fun _ => silent_ofFault.keeps).ensures
  | seconds => exact ⟨trivial, fun _ _ _ => rfl⟩
  | randomBytes count => exact ⟨trivial, fun _ _ _ => rfl⟩

end

section

open Action PoolAction

variable {asked : PoolCall → Prop} {sql : String} {parameters : List Value}

theorem asks_runOn {connection : ConnectionId}
    (statement : asked (.execute connection sql parameters))
    (fetching : asked (.fetchAll connection)) :
    Asks asked (runOn connection sql parameters) := by
  intro own own' seen same
  apply reaches_runOn (asks_perform statement own own' seen same)
  intro own _ same
  exact ⟨fetching, fun _ _ _ => same⟩

/-- A statement in a session asks for itself and its rows. -/
theorem asks_execute_some {config : ConnectionConfig} {dialect : Dialect} {lease : Lease}
    (statement : asked (.execute lease.connection sql parameters))
    (fetching : asked (.fetchAll lease.connection)) :
    Asks asked (nativeAdapter config dialect (.execute sql parameters (some lease))) := by
  have asks : Asks asked (runOn lease.connection sql parameters) := asks_runOn statement fetching
  cases dialect with
  | mysql => exact asks.bind fun _ => silent_pure.asks
  | postgres => exact asks.bind fun _ => silent_pure.asks

/-- A statement outside of sessions runs on a connection that is taken out for it. -/
theorem asks_execute_none {config : ConnectionConfig} {dialect : Dialect}
    (moves : ∀ call, PoolCall.Takes call ∨ (call.bringsIn?).isSome = true → asked call)
    (statement : ∀ connection, asked (.execute connection sql parameters))
    (fetching : ∀ connection, asked (.fetchAll connection)) :
    Asks asked (nativeAdapter config dialect (.execute sql parameters none)) := by
  have asks (connection : ConnectionId) : Asks asked (runOn connection sql parameters) :=
    asks_runOn (statement connection) (fetching connection)
  cases dialect with
  | mysql =>
      apply Asks.bind silent_required.asks
      intro pool
      apply Asks.bind (asks_perform (moves (.checkOut pool) (.inl trivial)))
      intro connection
      apply Asks.bind ((asks connection).bind fun _ => silent_pure.asks).attempt
      intro outcome
      apply Asks.bind (asks_perform (moves (.checkIn pool connection) (.inr rfl)))
      intro _
      exact silent_ofOutcome.asks
  | postgres =>
      apply Asks.bind silent_required.asks
      intro pool
      apply Asks.bind (asks_perform (moves (.borrow pool) (.inl trivial)))
      intro connection
      apply Asks.bind ((asks connection).bind fun _ => silent_pure.asks).attempt
      intro outcome
      cases outcome with
      | ok result =>
          apply Asks.bind (asks_perform (moves (.giveBack pool connection true) (.inr rfl)))
          intro _
          exact silent_pure.asks
      | error failure =>
          apply Asks.bind (asks_perform (moves (.giveBack pool connection false) (.inr rfl)))
          intro _
          exact silent_throw.asks

/-- Without a pool in use a statement outside of sessions asks for nothing. -/
theorem reaches_execute_disconnected {ν : Type} {around : Surroundings poolInterface ν} {seen : ν}
    {goal : Option PoolId → ν → Prop} (config : ConnectionConfig) (dialect : Dialect)
    (met : goal none seen) :
    (nativeAdapter config dialect (.execute sql parameters none)).Reaches around none seen
      goal := by
  cases dialect with
  | mysql => exact met
  | postgres => exact met

end

section

variable {ρ : Type} {answers : PoolAnswers ρ} {ambient : (call : AmbientCall) → StateM ρ call.Reply}
  {adapt : (call : AdapterCall) → PoolAction call.Result} {settings : EngineSettings}

/-- All exchanges with a pool were with calls of some kind. -/
def Within (asked : PoolCall → Prop) (exchanges : List (Exchange poolInterface)) : Prop :=
  ∀ exchange ∈ exchanges, asked exchange.call

theorem covers_recorded_only {asked : PoolCall → Prop} :
    (Surroundings.only asked : Surroundings poolInterface Unit).Covers (recorded answers)
      fun reached _ => Within asked reached.2 := by
  rintro ⟨state, exchanges⟩ _ call within isAsked
  refine ⟨(), trivial, ?_⟩
  intro exchange member
  rcases List.mem_append.mp member with before | last
  · exact within exchange before
  · cases List.mem_singleton.mp last
    exact isAsked

/-- What an adapter asks for is what its pool is asked for. -/
theorem covers_onPool_only {routed : EngineCall → Prop} {asked : PoolCall → Prop}
    {usable : Option PoolId → Prop}
    (asks : ∀ call own, routed (.adapter call) → usable own →
      (adapt call).Reaches (.only asked) own () fun after _ => usable after) :
    (Surroundings.only routed : Surroundings engineInterface Unit).Covers
      (onPool answers ambient adapt) fun pool _ =>
        usable pool.inUse ∧ Within asked pool.exchanges := by
  rintro ⟨inUse, state, exchanges⟩ _ call ⟨isUsable, within⟩ isRouted
  cases call with
  | ambient call => exact ⟨(), trivial, isUsable, within⟩
  | adapter call =>
      obtain ⟨_, stillUsable, stillWithin⟩ := Program.Ensures.course
        (asks call inUse isRouted isUsable).ensures covers_recorded_only
        (show Within asked (state, exchanges).2 from within)
      exact ⟨(), trivial, stillUsable, stillWithin⟩

theorem covers_onEngine_only {collection : String} {session : SessionId} {sessions : List Session}
    {found : Session} (isFound : sessions[session]? = some found) {proper : PoolState ρ → Prop}
    (covers : (Surroundings.only (EngineCall.Routed found.lease.connection
      (Engine.lookups settings collection)) : Surroundings engineInterface Unit).Covers
        (onPool answers ambient adapt) fun pool _ => proper pool) :
    (Surroundings.only (StoreCall.Serves collection session) :
      Surroundings storeInterface Unit).Covers (onEngine answers ambient adapt settings)
        fun reached _ => reached.1 = sessions ∧ proper reached.2 := by
  rintro ⟨_, pool⟩ _ call ⟨rfl, isProper⟩ served
  obtain ⟨_, same, stillProper⟩ := Program.Ensures.course
    (Engine.ensures_serve_routed served isFound) covers isProper
  exact ⟨(), trivial, same, stillProper⟩

/-- Documents that cannot be prepared end an action before it asks the pool. -/
theorem exchanges_of_not_prepared {α β : Type} {action : ClientAction α}
    {next : α → ClientAction β} {schemas : SchemaCatalog} {sessions : List Session}
    {pool : PoolState ρ} (asks : action.Asks StoreCall.Prepares)
    (fails : ∀ value, (ClientAction.run (onEngine answers ambient adapt settings) action schemas
      (sessions, pool)).1.1 ≠ .ok value) :
    (ClientAction.run (onEngine answers ambient adapt settings) (action >>= next) schemas
      (sessions, pool)).2.2.exchanges = pool.exchanges := by
  have unchanged : (ClientAction.run (onEngine answers ambient adapt settings) action schemas
      (sessions, pool)).2.2.exchanges = pool.exchanges :=
    (unchanged_of_prepares asks schemas sessions pool).2
  rw [ClientAction.run_bind]
  generalize ClientAction.run (onEngine answers ambient adapt settings) action schemas
    (sessions, pool) = run at fails unchanged ⊢
  obtain ⟨⟨outcome, after⟩, reached⟩ := run
  cases outcome with
  | ok value => exact absurd rfl (fails value)
  | error failure => exact unchanged

/-- A verb that looks no table up asks the pool for nothing. -/
theorem exchanges_of_not_looksUp {verb : ClientVerb} {session : SessionId} {collection : String}
    (inSession : verb.session? = some (session, collection)) {compile : ClientSettings}
    {schemas : SchemaCatalog} {sessions : List Session} {pool : PoolState ρ}
    (looksNot : ¬verb.LooksUp (onEngine answers ambient adapt settings) schemas (sessions, pool)) :
    (ClientAction.run (onEngine answers ambient adapt settings) (verb.perform compile) schemas
      (sessions, pool)).2.2.exchanges = pool.exchanges := by
  cases verb with
  | insertOne collection document given =>
      unfold ClientVerb.perform Action.answering Client.insertOne
      dsimp only
      rw [bind_assoc]
      apply exchanges_of_not_prepared (Client.asks_prepare fun _ prepares => prepares)
      intro prepared isPrepared
      exact looksNot ⟨prepared, isPrepared⟩
  | insertMany collection documents given =>
      unfold ClientVerb.perform Action.answering Client.insertMany
      dsimp only
      cases truthy : documents.isTruthy with
      | false => rfl
      | true =>
          simp only [Bool.not_true, Bool.false_eq_true, if_false]
          cases walked : documents.walk with
          | error fault => rfl
          | ok items =>
              change (ClientAction.run _ ((Client.prepareAll collection items >>= _) >>= _) schemas
                (sessions, pool)).2.2.exchanges = _
              rw [bind_assoc]
              apply exchanges_of_not_prepared
                (Client.asks_prepareAll (fun _ prepares => prepares) items)
              intro prepared isPrepared
              exact looksNot ⟨truthy, items, walked, prepared, isPrepared⟩
  | find collection filter options given => exact absurd trivial looksNot
  | findOne collection filter options given => exact absurd trivial looksNot
  | findPage collection filter options given => exact absurd trivial looksNot
  | countDocuments collection filter given => exact absurd trivial looksNot
  | aggregate collection pipeline given => exact absurd trivial looksNot
  | updateOne collection filter change options given => exact absurd trivial looksNot
  | updateMany collection filter change options given => exact absurd trivial looksNot
  | deleteOne collection filter given => exact absurd trivial looksNot
  | deleteMany collection filter given => exact absurd trivial looksNot
  | _ => cases inSession

/-- What the pool is asked for by a verb. -/
def ClientVerb.asked (store : ClientAction.Answers (List Session × PoolState ρ))
    (compile : ClientSettings) (verb : ClientVerb) (schemas : SchemaCatalog)
    (state : List Session × PoolState ρ) : List (Exchange poolInterface) :=
  (ClientAction.run store (verb.perform compile) schemas state).2.2.exchanges

/-- A verb in a session asks for nothing but what its adapter asks for in that session and
for the lookup of the table. -/
theorem ClientVerb.within_asked {verb : ClientVerb} {session : SessionId} {collection : String}
    (inSession : verb.session? = some (session, collection)) {compile : ClientSettings}
    {schemas : SchemaCatalog} {sessions : List Session} {found : Session}
    (isFound : sessions[session]? = some found) {pool : PoolState ρ}
    (unused : pool.exchanges = []) {asked : PoolCall → Prop} (usable : Option PoolId → Prop)
    (isUsable : usable pool.inUse)
    (asks : ∀ call own, EngineCall.Routed found.lease.connection
        (Engine.lookups settings collection) (.adapter call) → usable own →
      (adapt call).Reaches (.only asked) own () fun after _ => usable after) :
    Within asked (verb.asked (onEngine answers ambient adapt settings) compile schemas
      (sessions, pool)) := by
  have covers : (Surroundings.only (StoreCall.Serves collection session) :
      Surroundings storeInterface Unit).Covers (onEngine answers ambient adapt settings)
        fun reached _ => reached.1 = sessions ∧ usable reached.2.inUse ∧
          Within asked reached.2.exchanges :=
    covers_onEngine_only isFound (covers_onPool_only asks)
  have start : (sessions, pool).1 = sessions ∧ usable pool.inUse ∧ Within asked pool.exchanges := by
    refine ⟨rfl, isUsable, ?_⟩
    rw [unused]
    intro exchange member
    cases member
  obtain ⟨_, _, _, _, within⟩ := Program.Ensures.course
    (ClientVerb.asks_perform inSession compile schemas schemas () rfl).ensures covers
    start
  exact within

end

/-! ## Verbs on the connection of their session -/

section

open Action

variable {ρ : Type} {answers : PoolAnswers ρ} {ambient : (call : AmbientCall) → StateM ρ call.Reply}

theorem reaches_runsOn (config : ConnectionConfig) (dialect : Dialect) {call : AdapterCall}
    {own : Option PoolId} {connection : ConnectionId} {texts : List String}
    (routed : EngineCall.Routed connection texts (.adapter call)) :
    (nativeAdapter config dialect call).Reaches (.only (PoolCall.RunsOn connection texts)) own ()
      fun _ _ => True := by
  cases call with
  | execute sql parameters lease =>
      cases lease with
      | some lease =>
          have asks : Asks (PoolCall.RunsOn connection texts)
              (nativeAdapter config dialect (.execute sql parameters (some lease))) :=
            asks_execute_some (.inl routed) trivial
          exact (asks own own () rfl).imp fun _ _ _ => trivial
      | none =>
          have moves (call : PoolCall) (moving : call.Takes ∨ call.bringsIn?.isSome = true) :
              call.RunsOn connection texts := by
            cases call with
            | execute other text given => simp [PoolCall.Takes, PoolCall.bringsIn?] at moving
            | _ => trivial
          have asks : Asks (PoolCall.RunsOn connection texts)
              (nativeAdapter config dialect (.execute sql parameters none)) :=
            asks_execute_none moves (fun _ => .inr routed) fun _ => trivial
          exact (asks own own () rfl).imp fun _ _ _ => trivial
  | _ => exact routed.elim

theorem reaches_staysOn (config : ConnectionConfig) (dialect : Dialect) {call : AdapterCall}
    {connection : ConnectionId} {texts : List String}
    (routed : EngineCall.Routed connection texts (.adapter call)) :
    (nativeAdapter config dialect call).Reaches (.only (PoolCall.StaysOn connection)) none ()
      fun own _ => own = none := by
  cases call with
  | execute sql parameters lease =>
      cases lease with
      | some lease =>
          cases (show lease.connection = connection from routed)
          have statement : (PoolCall.execute lease.connection sql parameters).StaysOn
              lease.connection := ⟨by rintro _ ⟨⟩; rfl, id⟩
          have fetching : (PoolCall.fetchAll lease.connection).StaysOn lease.connection :=
            ⟨by rintro _ ⟨⟩; rfl, id⟩
          exact asks_execute_some statement fetching none none () rfl
      | none => exact reaches_execute_disconnected config dialect rfl
  | _ => exact routed.elim

/-- In a session every statement of a verb runs on the connection of the session, but for the
lookup and the creation of the table; and the verb acts on no other connection and takes none
out, unless it looks its table up in the pool in use. -/
theorem verb_staysOn_session_iff (settings : EngineSettings) (compile : ClientSettings)
    (config : ConnectionConfig) (dialect : Dialect) {verb : ClientVerb} {session : SessionId}
    {collection : String} (inSession : verb.session? = some (session, collection))
    {sessions : List Session} {found : Session} (isFound : sessions[session]? = some found)
    (schemas : SchemaCatalog) (inUse : Option PoolId) (state : ρ) :
    let store := onEngine answers ambient (nativeAdapter config dialect) settings
    let pool : PoolState ρ := { inUse, state, exchanges := [] }
    let asked := verb.asked store compile schemas (sessions, pool)
    (∀ exchange ∈ asked, exchange.call.RunsOn found.lease.connection
        (Engine.lookups settings collection)) ∧
      ((∀ exchange ∈ asked, exchange.call.StaysOn found.lease.connection) ↔
        ¬(inUse.isSome = true ∧ verb.LooksUp store schemas (sessions, pool))) := by
  intro store pool asked
  constructor
  · exact ClientVerb.within_asked inSession isFound rfl (fun _ => True) trivial
      fun call own routed _ => reaches_runsOn config dialect routed
  · constructor
    · rintro stays ⟨connected, looksUp⟩
      obtain ⟨exchange, member, takes⟩ : TakesOut asked :=
        consults_perform inSession connected looksUp
      exact (stays exchange member).2 takes
    · intro looksNot
      cases inUse with
      | none =>
          refine ClientVerb.within_asked inSession isFound rfl (fun own => own = none) rfl ?_
          rintro call _ routed rfl
          exact reaches_staysOn config dialect routed
      | some inUse =>
          have none : asked = [] := exchanges_of_not_looksUp inSession fun looksUp =>
            looksNot ⟨rfl, looksUp⟩
          rw [none]
          intro exchange member
          cases member

end

/-- A MySQL client on a pool with one connection. -/
def singleStore : ClientAction.Answers (List Session × PoolState (List ConnectionId)) :=
  onEngine singlePool timeless (nativeAdapter { user := "app", database := "app" } .mysql)
    timelessSettings

/-- A session that holds the connection. -/
def lentSession : Session := { lease := { connection := 7, isolation := none } }

def lentPool : PoolState (List ConnectionId) :=
  { inUse := some 0, state := [7], exchanges := [] }

theorem verb_staysOn_session_deleteOne :
    let verb := ClientVerb.deleteOne "users" .null (some 0)
    let asked := verb.asked singleStore { dialect := .mysql, strict := false } []
      ([lentSession], lentPool)
    verb.session? = some (0, "users") ∧ [lentSession][0]? = some lentSession ∧
      (∀ exchange ∈ asked, exchange.call.RunsOn 7 (Engine.lookups timelessSettings "users")) ∧
      ((∀ exchange ∈ asked, exchange.call.StaysOn 7) ↔
        ¬((some 0 : Option PoolId).isSome = true ∧
          verb.LooksUp singleStore [] ([lentSession], lentPool))) := by
  intro verb asked
  have inSession : verb.session? = some (0, "users") := rfl
  have isFound : [lentSession][0]? = some lentSession := rfl
  exact ⟨inSession, isFound, verb_staysOn_session_iff timelessSettings
    { dialect := .mysql, strict := false } { user := "app", database := "app" } .mysql inSession
    isFound [] (some 0) [7]⟩

/-- A verb in the session that holds the only connection asks for another one, and fails. -/
theorem find_takes_secondConnection :
    let asked := (ClientVerb.find "users" .null {} (some 0)).asked singleStore
      { dialect := .mysql, strict := false } [] ([lentSession], lentPool)
    asked =
        [{ call := .checkOut 0
           reply := .error (.engine { kind := .timeout, text := "exhausted" }) }] ∧
      ¬∀ exchange ∈ asked, exchange.call.StaysOn 7 :=
  ⟨rfl, fun stays => (stays _ (List.mem_singleton.mpr rfl)).2 trivial⟩

end DocStore
