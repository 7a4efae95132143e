import DocStore.Proofs.TransactionEnd
import DocStore.Transaction.Scope

/-!
# Trees of scopes

A tree of scopes has statements and failures as its leaves.  Its scopes are nested to any
depth, and a failure that leaves a scope is caught by the scope around it or ends that
scope too.  What a tree asks of the adapter is told by a relation on trees: the exchanges
of a scope are those of its body between those that begin and end the scope.
-/

namespace DocStore

/-! ## Generated names of savepoints

A generated name is a plain name: two letters, an underscore and two digits in base
sixteen for each random byte.
-/

namespace Savepoint

theorem isNamePart_digitChar {digit : Nat} (small : digit < 16) :
    Sql.isNamePart digit.digitChar = true := by
  have all : ∀ digit < 16, Sql.isNamePart (Nat.digitChar digit) = true := by decide
  exact all digit small

theorem isNamePart_of_mem_bytesText {bytes : List UInt8} {character : Char}
    (member : character ∈ ObjectId.bytesText bytes) : Sql.isNamePart character = true := by
  obtain ⟨byte, _, isDigit⟩ := List.mem_flatMap.mp member
  have small : byte.toNat < 256 := byte.toNat_lt
  rw [ObjectId.hexDigits_byte] at isDigit
  rcases List.mem_cons.mp isDigit with rfl | isLow
  · exact isNamePart_digitChar (by omega)
  · rw [List.mem_singleton.mp isLow]
    exact isNamePart_digitChar (by omega)

/-- A text of name parts has no line feed to be passed over. -/
theorem nameBody_of_nameParts {characters : List Char}
    (parts : ∀ character ∈ characters, Sql.isNamePart character = true) :
    Sql.nameBody characters = characters := by
  unfold Sql.nameBody
  split
  · rename_i last
    have isPart := parts '\n' (List.mem_of_getLast? last)
    exact absurd isPart (by decide)
  · rfl

def generatedName (bytes : List UInt8) : String :=
  "sp_" ++ String.ofList (ObjectId.bytesText bytes)

theorem isSavepointName_generatedName {bytes : List UInt8} (enough : bytes.length = randomLength) :
    Engine.isSavepointName (generatedName bytes) = true := by
  have characters : (generatedName bytes).toList =
      's' :: 'p' :: '_' :: ObjectId.bytesText bytes := by
    simp [generatedName]
  have parts : ∀ character ∈ 's' :: 'p' :: '_' :: ObjectId.bytesText bytes,
      Sql.isNamePart character = true := by
    intro character member
    simp only [List.mem_cons] at member
    rcases member with rfl | rfl | rfl | isDigit
    · decide
    · decide
    · decide
    · exact isNamePart_of_mem_bytesText isDigit
  unfold Engine.isSavepointName Sql.isSimpleKey
  rw [characters, nameBody_of_nameParts parts]
  have rest := List.all_eq_true.mpr (List.forall_mem_cons.mp parts).2
  have short : ('s' :: 'p' :: '_' :: ObjectId.bytesText bytes).length ≤
      Engine.longestSavepointName := by
    simp [ObjectId.length_bytesText, enough, randomLength, Engine.longestSavepointName]
  have start : Sql.isNameStart 's' = true := by decide
  simp only [start, rest, short, Bool.and_self, decide_true]

end Savepoint

/-! ## Trees -/

mutual

/-- A scope, or a leaf of a tree of scopes. -/
inductive ScopeTree where
  | statement (sql : String) (parameters : List Value) (inSession : Bool)
  | raise (failure : Failure)
  | transaction (isolation : Option String) (body : ScopeBody)
  | savepoint (name : Option String) (body : ScopeBody)

/-- What a scope does, one after another.  The failure of a scope in it may be caught. -/
inductive ScopeBody where
  | done
  | step (caught : Bool) (scope : ScopeTree) (rest : ScopeBody)

end

mutual

/-- Carries a tree out.  Savepoints and statements are for the session of the innermost
transaction around them. -/
def ScopeTree.perform (settings : EngineSettings) (session : SessionId) :
    ScopeTree → EngineAction Unit
  | .statement sql parameters inSession => do
      let _ ← Engine.query settings sql parameters (if inSession then some session else none)
      pure ()
  | .raise failure => throw failure
  | .transaction isolation body =>
      Transaction.scope settings isolation fun session => body.perform settings session
  | .savepoint name body =>
      Savepoint.scope settings session name fun _ => body.perform settings session

def ScopeBody.perform (settings : EngineSettings) (session : SessionId) :
    ScopeBody → EngineAction Unit
  | .done => pure ()
  | .step true scope rest => do
      let _ ← Action.attempt (scope.perform settings session)
      rest.perform settings session
  | .step false scope rest => do
      scope.perform settings session
      rest.perform settings session

end

/-! ## Exchanges of scopes -/

def Exchange.isAdapter (exchange : Exchange engineInterface) : Bool :=
  match exchange.call with
  | .adapter _ => true
  | .ambient _ => false

def Transaction.begun (level : Option IsolationLevel) (lease : Lease) : Exchange engineInterface :=
  { call := .adapter (.begin level), reply := .ok lease }

def Engine.executed (sql : String) (parameters : List Value) (lease : Option Lease)
    (reply : Except Failure Execution) : Exchange engineInterface :=
  { call := .adapter (.execute sql parameters lease), reply }

/-- Something was done with a savepoint on a connection. -/
def Savepoint.executed (settings : EngineSettings) (action : SavepointAction) (lease : Lease)
    (name : String) (execution : Execution) : Exchange engineInterface :=
  Engine.executed (Statement.savepoint settings.dialect action name).sql [] (some lease)
    (.ok execution)

/-- The three texts with which savepoints are created, released and rolled back to. -/
theorem Savepoint.executed_eq (settings : EngineSettings) (lease : Lease) (name : String)
    (execution : Execution) :
    let quoted := Sql.identifierText settings.dialect name
    executed settings .create lease name execution =
        Engine.executed ("SAVEPOINT " ++ quoted) [] (some lease) (.ok execution) ∧
      executed settings .release lease name execution =
        Engine.executed ("RELEASE SAVEPOINT " ++ quoted) [] (some lease) (.ok execution) ∧
      executed settings .rollback lease name execution =
        Engine.executed ("ROLLBACK TO SAVEPOINT " ++ quoted) [] (some lease) (.ok execution) := by
  have texts (action : SavepointAction) : (Statement.savepoint settings.dialect action name).sql =
      action.words ++ Sql.identifierText settings.dialect name := by
    simp [Statement.savepoint, Statement.sql, Sql.Fragment.render, Sql.Fragment.renderWith,
      Sql.Piece.render]
  unfold executed
  simp only [texts]
  exact ⟨rfl, rfl, rfl⟩

/-- How the outcome of its action ends a transaction: it is committed or rolled back. -/
def Transaction.settled (lease : Lease) : Except Failure Unit → Exchange engineInterface
  | .ok _ => committed lease (.ok ())
  | .error _ => rolledBack lease (.ok ())

/-- How the outcome of its action ends a savepoint: it is released or rolled back to. -/
def Savepoint.ending : Except Failure Unit → SavepointAction
  | .ok _ => .release
  | .error _ => .rollback

/-- The name of a savepoint: the given one, or a generated one. -/
def Savepoint.Names (given : Option String) (name : String) : Prop :=
  (given = some name ∧ name.isEmpty = false) ∨
    ((∀ text, given = some text → text.isEmpty = true) ∧
      ∃ bytes, bytes.length = randomLength ∧ name = generatedName bytes)

mutual

/-- The outcome of a tree on a connection, and the exchanges with the adapter. -/
inductive ScopeTree.Emits (settings : EngineSettings) :
    Lease → ScopeTree → Except Failure Unit → List (Exchange engineInterface) → Prop where
  | statement {lease : Lease} {sql : String} {parameters : List Value} {inSession : Bool}
      (reply : Except Failure Execution) :
      ScopeTree.Emits settings lease (.statement sql parameters inSession)
        ((reply.mapError (settings.wrap "query" (some sql))).map fun _ => ())
        [Engine.executed sql parameters (if inSession then some lease else none) reply]
  | raise {lease : Lease} {failure : Failure} :
      ScopeTree.Emits settings lease (.raise failure) (.error failure) []
  | transaction {lease inner : Lease} {isolation : Option String}
      {level : Option IsolationLevel} {body : ScopeBody} {outcome : Except Failure Unit}
      {exchanges : List (Exchange engineInterface)}
      (reads : IsolationLevel.read? isolation = .ok level)
      (emits : ScopeBody.Emits settings inner body outcome exchanges) :
      ScopeTree.Emits settings lease (.transaction isolation body) outcome
        (Transaction.begun level inner :: exchanges ++
          [Transaction.settled inner outcome, Transaction.released inner (.ok ())])
  | savepoint {lease : Lease} {given : Option String} {name : String} {body : ScopeBody}
      {outcome : Except Failure Unit} {exchanges : List (Exchange engineInterface)}
      {created ended : Execution} (names : Savepoint.Names given name)
      (emits : ScopeBody.Emits settings lease body outcome exchanges) :
      ScopeTree.Emits settings lease (.savepoint given body) outcome
        (Savepoint.executed settings .create lease name created :: exchanges ++
          [Savepoint.executed settings (Savepoint.ending outcome) lease name ended])

inductive ScopeBody.Emits (settings : EngineSettings) :
    Lease → ScopeBody → Except Failure Unit → List (Exchange engineInterface) → Prop where
  | done {lease : Lease} : ScopeBody.Emits settings lease .done (.ok ()) []
  | passed {lease : Lease} {caught : Bool} {scope : ScopeTree} {rest : ScopeBody}
      {outcome : Except Failure Unit} {first later : List (Exchange engineInterface)}
      (emits : ScopeTree.Emits settings lease scope (.ok ()) first)
      (continues : ScopeBody.Emits settings lease rest outcome later) :
      ScopeBody.Emits settings lease (.step caught scope rest) outcome (first ++ later)
  | caught {lease : Lease} {scope : ScopeTree} {rest : ScopeBody} {failure : Failure}
      {outcome : Except Failure Unit} {first later : List (Exchange engineInterface)}
      (emits : ScopeTree.Emits settings lease scope (.error failure) first)
      (continues : ScopeBody.Emits settings lease rest outcome later) :
      ScopeBody.Emits settings lease (.step true scope rest) outcome (first ++ later)
  | left {lease : Lease} {scope : ScopeTree} {rest : ScopeBody} {failure : Failure}
      {first : List (Exchange engineInterface)}
      (emits : ScopeTree.Emits settings lease scope (.error failure) first) :
      ScopeBody.Emits settings lease (.step false scope rest) (.error failure) first

end

/-! ## Assumptions -/

/-- The statements that begin and end scopes succeed, and random bytes come in the number
asked for. -/
structure Complies {σ : Type} (settings : EngineSettings) (answers : EngineAnswers σ) :
    Prop where
  begins : ∀ level state, ∃ lease, (answers (.adapter (.begin level)) state).1 = .ok lease
  commits : ∀ lease state, (answers (.adapter (.commit lease)) state).1 = .ok ()
  rollsBack : ∀ lease state, (answers (.adapter (.rollback lease)) state).1 = .ok ()
  releases : ∀ lease state, (answers (.adapter (.release lease)) state).1 = .ok ()
  savepoints : ∀ action name lease state, ∃ execution,
    (answers (.adapter (.execute (Statement.savepoint settings.dialect action name).sql []
      (some lease))) state).1 = .ok execution
  randomBytes : ∀ count state, ∃ bytes : List UInt8,
    (answers (.ambient (.randomBytes count)) state).1 = bytes ∧ bytes.length = count

mutual

/-- The isolation levels of a tree are known, and the given names of its savepoints are
names for savepoints. -/
def ScopeTree.IsWellNamed : ScopeTree → Prop
  | .statement .. => True
  | .raise _ => True
  | .transaction isolation body =>
      (∃ level, IsolationLevel.read? isolation = .ok level) ∧ body.IsWellNamed
  | .savepoint given body =>
      (∀ name, given = some name → name.isEmpty = true ∨ Engine.isSavepointName name = true) ∧
        body.IsWellNamed

def ScopeBody.IsWellNamed : ScopeBody → Prop
  | .done => True
  | .step _ scope rest => scope.IsWellNamed ∧ rest.IsWellNamed

end

/-! ## Runs -/

section Run

open Action EngineAction

variable {σ α β : Type} {answers : EngineAnswers σ} {settings : EngineSettings}
  {sessions : List Session} {session : SessionId} {lease : Lease}

/-- An action only adds sessions, and its outcome and its exchanges with the adapter meet a
goal. -/
def Traces (answers : EngineAnswers σ) (action : EngineAction α) (sessions : List Session)
    (goal : Except Failure α → List (Exchange engineInterface) → Prop) : Prop :=
  ∀ state exchanges, ∃ outcome more reached later,
    run (recorded answers) action sessions (state, exchanges) =
      ((outcome, sessions ++ more), reached, exchanges ++ later) ∧
    goal outcome (later.filter Exchange.isAdapter)

namespace Traces

variable {action : EngineAction α}
  {goal other : Except Failure α → List (Exchange engineInterface) → Prop}

theorem ofOutcome {outcome : Except Failure α} (met : goal outcome []) :
    Traces answers (Action.ofOutcome outcome) sessions goal := by
  intro state exchanges
  exact ⟨outcome, [], state, [], by simp, met⟩

theorem imp (traces : Traces answers action sessions goal)
    (weaker : ∀ outcome exchanges, goal outcome exchanges → other outcome exchanges) :
    Traces answers action sessions other := by
  intro state exchanges
  obtain ⟨outcome, more, reached, later, ran, met⟩ := traces state exchanges
  exact ⟨outcome, more, reached, later, ran, weaker outcome _ met⟩

theorem bind {next : α → EngineAction β}
    {last : Except Failure β → List (Exchange engineInterface) → Prop}
    (first : Traces answers action sessions goal)
    (continues : ∀ value more exchanges, goal (.ok value) exchanges →
      Traces answers (next value) (sessions ++ more) fun outcome later =>
        last outcome (exchanges ++ later))
    (fails : ∀ failure exchanges, goal (.error failure) exchanges →
      last (.error failure) exchanges) :
    Traces answers (action >>= next) sessions last := by
  intro state exchanges
  obtain ⟨outcome, more, middle, early, ran, met⟩ := first state exchanges
  rw [run_bind, ran]
  cases outcome with
  | error failure => exact ⟨.error failure, more, middle, early, rfl, fails failure _ met⟩
  | ok value =>
      obtain ⟨outcome, others, reached, later, ranNext, metNext⟩ :=
        continues value more _ met middle (exchanges ++ early)
      refine ⟨outcome, more ++ others, reached, early ++ later, ?_, ?_⟩
      · simpa using ranNext
      · simpa using metNext

theorem attempt (traces : Traces answers action sessions goal) :
    Traces answers (Action.attempt action) sessions fun outcome exchanges =>
      ∃ attempted, outcome = .ok attempted ∧ goal attempted exchanges := by
  intro state exchanges
  obtain ⟨outcome, more, reached, later, ran, met⟩ := traces state exchanges
  refine ⟨.ok outcome, more, reached, later, ?_, outcome, rfl, met⟩
  rw [run_attempt, ran]

end Traces

/-! ### Statements -/

theorem run_leaseOf (held : sessions[session]? = some { lease }) (inSession : Bool)
    {reached : σ} :
    run answers (Engine.leaseOf (if inSession then some session else none)) sessions reached =
      ((.ok (if inSession then some lease else none), sessions), reached) := by
  cases inSession with
  | false => rfl
  | true =>
      change run answers (Engine.sessionAt session >>= fun found => pure (some found.lease)) _ _ = _
      rw [run_bind, run_sessionAt held]
      rfl

/-- Profiling asks for the time that a statement took, and changes nothing else. -/
theorem traces_profiled {action : EngineAction Execution} {sql : String}
    {parameters : List Value}
    {goal : Except Failure Execution → List (Exchange engineInterface) → Prop}
    (traces : Traces answers action sessions goal) :
    Traces answers (Engine.profiled settings sql parameters action) sessions goal := by
  intro state exchanges
  obtain ⟨outcome, more, middle, later, ran, met⟩ := traces state exchanges
  obtain ⟨reached, asked, profiled, isAsked⟩ := run_profiled settings sql parameters ran
  have silent : asked.filter Exchange.isAdapter = [] := by
    rcases isAsked with rfl | ⟨reply, rfl⟩ <;> rfl
  refine ⟨outcome, more, reached, later ++ asked, ?_, ?_⟩
  · rw [profiled, List.append_assoc]
  · rwa [List.filter_append, silent, List.append_nil]

theorem traces_adapter (call : AdapterCall) :
    Traces answers (adapter call) sessions fun outcome exchanges =>
      exchanges = [{ call := .adapter call, reply := outcome }] ∧
        ∃ state, (answers (.adapter call) state).1 = outcome := by
  intro state exchanges
  refine ⟨_, [], (answers (.adapter call) state).2,
    [{ call := .adapter call, reply := (answers (.adapter call) state).1 }], ?_, ?_, state, rfl⟩
  · rw [run_adapter, List.append_nil]
    rfl
  · rfl

theorem traces_guarded {activity : String} {sql : Option String} {action : EngineAction α}
    {goal : Except Failure α → List (Exchange engineInterface) → Prop}
    (traces : Traces answers action sessions goal) :
    Traces answers (settings.guarded activity sql action) sessions fun outcome exchanges =>
      ∃ native, outcome = native.mapError (settings.wrap activity sql) ∧ goal native exchanges := by
  intro state exchanges
  obtain ⟨native, more, reached, later, ran, met⟩ := traces state exchanges
  refine ⟨_, more, reached, later, ?_, native, rfl, met⟩
  rw [run_guarded, ran]

theorem traces_execute (held : sessions[session]? = some { lease }) (sql : String)
    (parameters : List Value) (inSession : Bool) :
    Traces answers
      (Engine.execute settings sql parameters (if inSession then some session else none)) sessions
      fun outcome exchanges => ∃ reply : Except Failure Execution,
        outcome = reply.mapError (settings.wrap "query" (some sql)) ∧
        exchanges =
          [Engine.executed sql parameters (if inSession then some lease else none) reply] ∧
        ∃ state, (answers (.adapter
          (.execute sql parameters (if inSession then some lease else none))) state).1 = reply := by
  intro state exchanges
  have guarded : Traces answers (settings.guarded "query" (some sql)
      (Engine.profiled settings sql parameters (adapter
        (.execute sql parameters (if inSession then some lease else none))))) sessions _ :=
    traces_guarded (traces_profiled (traces_adapter _))
  obtain ⟨outcome, more, reached, later, ran, met⟩ := guarded state exchanges
  refine ⟨outcome, more, reached, later, ?_, met⟩
  unfold Engine.execute
  rw [run_bind, run_leaseOf held]
  exact ran

theorem traces_query (held : sessions[session]? = some { lease }) (sql : String)
    (parameters : List Value) (inSession : Bool) :
    Traces answers
      (Engine.query settings sql parameters (if inSession then some session else none)) sessions
      fun outcome exchanges => ∃ reply : Except Failure Execution,
        outcome = (reply.mapError (settings.wrap "query" (some sql))).map Execution.rows ∧
        exchanges =
          [Engine.executed sql parameters (if inSession then some lease else none) reply] ∧
        ∃ state, (answers (.adapter
          (.execute sql parameters (if inSession then some lease else none))) state).1 = reply := by
  refine Traces.bind (traces_execute held sql parameters inSession) ?_ ?_
  · rintro execution more exchanges ⟨reply, isOutcome, isExchange, answered⟩
    apply Traces.ofOutcome
    refine ⟨reply, ?_, ?_, answered⟩
    · rw [← isOutcome]
      rfl
    · rw [isExchange, List.append_nil]
  · rintro failure exchanges ⟨reply, isOutcome, isExchange, answered⟩
    refine ⟨reply, ?_, isExchange, answered⟩
    rw [← isOutcome]
    rfl

theorem held_append (held : sessions[session]? = some { lease }) (more : List Session) :
    (sessions ++ more)[session]? = some { lease } := by
  have inside : session < sessions.length := (List.getElem?_eq_some_iff.mp held).1
  rw [List.getElem?_append_left inside, held]

/-! ### Savepoints -/

section Complying

variable (complies : Complies settings answers)

include complies

theorem traces_savepoint (held : sessions[session]? = some { lease }) {name : String}
    (valid : Engine.isSavepointName name = true) (action : SavepointAction) :
    Traces answers (Engine.savepoint settings action session name) sessions
      fun outcome exchanges => outcome = .ok () ∧
        ∃ execution, exchanges = [Savepoint.executed settings action lease name execution] := by
  unfold Engine.savepoint
  rw [if_pos valid]
  refine Traces.bind (traces_query held _ [] true) ?_ ?_
  · rintro rows more exchanges ⟨reply, isOutcome, isExchange, state, answered⟩
    obtain ⟨execution, succeeds⟩ := complies.savepoints action name lease state
    cases answered.symm.trans succeeds
    apply Traces.ofOutcome
    exact ⟨rfl, execution, by rw [isExchange]; rfl⟩
  · rintro failure exchanges ⟨reply, isOutcome, isExchange, state, answered⟩
    obtain ⟨execution, succeeds⟩ := complies.savepoints action name lease state
    cases answered.symm.trans succeeds
    cases isOutcome

theorem traces_generated :
    Traces answers Savepoint.chooseName.generated sessions fun outcome exchanges =>
      exchanges = [] ∧ ∃ bytes : List UInt8, bytes.length = Savepoint.randomLength ∧
        outcome = .ok (Savepoint.generatedName bytes) := by
  intro state exchanges
  obtain ⟨bytes, answered, enough⟩ := complies.randomBytes Savepoint.randomLength state
  let asked : Exchange engineInterface :=
    { call := .ambient (.randomBytes Savepoint.randomLength), reply := bytes }
  refine ⟨_, [], (answers (.ambient (.randomBytes Savepoint.randomLength)) state).2, [asked], ?_,
    rfl, bytes, enough, rfl⟩
  rw [List.append_nil, Savepoint.chooseName.generated, run_bind, randomBytes, run_perform]
  simp only [recorded, answered]
  rfl

theorem traces_chooseName {given : Option String}
    (valid : ∀ name, given = some name →
      name.isEmpty = true ∨ Engine.isSavepointName name = true) :
    Traces answers (Savepoint.chooseName given) sessions fun outcome exchanges =>
      exchanges = [] ∧ ∃ name, outcome = .ok name ∧ Savepoint.Names given name ∧
        Engine.isSavepointName name = true := by
  have generates (missing : ∀ text, given = some text → text.isEmpty = true) :
      Traces answers Savepoint.chooseName.generated sessions fun outcome exchanges =>
        exchanges = [] ∧ ∃ name, outcome = .ok name ∧ Savepoint.Names given name ∧
          Engine.isSavepointName name = true := by
    apply Traces.imp (traces_generated complies)
    rintro outcome exchanges ⟨silent, bytes, enough, isName⟩
    refine ⟨silent, _, isName, .inr ⟨missing, bytes, enough, rfl⟩, ?_⟩
    exact Savepoint.isSavepointName_generatedName enough
  cases given with
  | none => exact generates (by simp)
  | some name =>
      unfold Savepoint.chooseName
      dsimp only
      split
      · rename_i isEmpty
        exact generates fun text same => by rwa [← Option.some.inj same]
      · rename_i notEmpty
        have named : name.isEmpty = false := Bool.eq_false_iff.mpr notEmpty
        apply Traces.ofOutcome
        refine ⟨rfl, name, rfl, .inl ⟨rfl, named⟩, ?_⟩
        exact (valid name rfl).resolve_left notEmpty

theorem traces_leaveSavepoint (held : sessions[session]? = some { lease }) {name : String}
    (valid : Engine.isSavepointName name = true) (outcome : Except Failure Unit) :
    Traces answers (Savepoint.leave settings session name outcome) sessions
      fun ended exchanges => ended = outcome ∧ ∃ execution,
        exchanges =
          [Savepoint.executed settings (Savepoint.ending outcome) lease name execution] := by
  cases outcome with
  | ok result =>
      refine Traces.bind (traces_savepoint complies held valid .release) ?_ ?_
      · rintro _ more exchanges ⟨_, execution, isExchange⟩
        apply Traces.ofOutcome
        exact ⟨rfl, execution, by rw [isExchange]; rfl⟩
      · rintro failure exchanges ⟨isOk, _⟩
        cases isOk
  | error failure =>
      refine Traces.bind (traces_savepoint complies held valid .rollback) ?_ ?_
      · rintro _ more exchanges ⟨_, execution, isExchange⟩
        apply Traces.ofOutcome
        exact ⟨rfl, execution, by rw [isExchange]; rfl⟩
      · rintro failure exchanges ⟨isOk, _⟩
        cases isOk

/-- A savepoint is created, its body runs, and it is released or rolled back to. -/
theorem traces_savepointScope (held : sessions[session]? = some { lease })
    {given : Option String}
    (valid : ∀ name, given = some name →
      name.isEmpty = true ∨ Engine.isSavepointName name = true)
    {body : EngineAction Unit}
    {goal : Except Failure Unit → List (Exchange engineInterface) → Prop}
    (traces : ∀ more, Traces answers body (sessions ++ more) goal) :
    Traces answers (Savepoint.scope settings session given fun _ => body) sessions
      fun outcome exchanges => ∃ name created ended inner,
        Savepoint.Names given name ∧ goal outcome inner ∧
        exchanges = Savepoint.executed settings .create lease name created :: inner ++
          [Savepoint.executed settings (Savepoint.ending outcome) lease name ended] := by
  have entered : Traces answers (Savepoint.enter settings session given) sessions
      fun outcome exchanges => ∃ name created, outcome = .ok name ∧
        Savepoint.Names given name ∧ Engine.isSavepointName name = true ∧
        exchanges = [Savepoint.executed settings .create lease name created] := by
    refine Traces.bind (traces_chooseName complies valid) ?_ ?_
    · rintro name more exchanges ⟨rfl, _, same, names, isName⟩
      cases same
      refine Traces.bind (traces_savepoint complies (held_append held more) isName .create) ?_ ?_
      · rintro _ _ exchanges ⟨_, created, isExchange⟩
        apply Traces.ofOutcome
        exact ⟨name, created, rfl, names, isName, by rw [isExchange]; rfl⟩
      · rintro failure exchanges ⟨isOk, _⟩
        cases isOk
    · rintro failure exchanges ⟨_, _, isOk, _⟩
      cases isOk
  refine Traces.bind entered ?_ ?_
  · rintro name more exchanges ⟨_, created, same, names, isName, rfl⟩
    cases same
    refine Traces.bind (traces more).attempt ?_ ?_
    · rintro outcome others inner ⟨_, same, met⟩
      cases same
      -- sessions of the body come after the one that is held
      have held := held_append (held_append held more) others
      apply Traces.imp (traces_leaveSavepoint complies held isName outcome)
      rintro ended exchanges ⟨rfl, execution, rfl⟩
      exact ⟨name, created, execution, inner, names, met, rfl⟩
    · rintro failure exchanges ⟨_, same, _⟩
      cases same
  · rintro failure exchanges ⟨_, _, isOk, _⟩
    cases isOk

/-! ### Transactions -/

theorem run_startSession {isolation : Option String} {level : Option IsolationLevel}
    (reads : IsolationLevel.read? isolation = .ok level) (state : σ)
    (exchanges : List (Exchange engineInterface)) :
    ∃ inner reached,
      run (recorded answers) (Engine.startSession settings isolation) sessions (state, exchanges) =
        ((.ok sessions.length, sessions ++ [{ lease := inner }]), reached,
          exchanges ++ [Transaction.begun level inner]) := by
  obtain ⟨inner, begins⟩ := complies.begins level state
  refine ⟨inner, (answers (.adapter (.begin level)) state).2, ?_⟩
  have asked : run (recorded answers) (adapter (.begin level)) sessions (state, exchanges) =
      ((.ok inner, sessions), (answers (.adapter (.begin level)) state).2,
        exchanges ++ [Transaction.begun level inner]) := by
    rw [run_adapter]
    simp only [recorded, begins]
    rfl
  unfold Engine.startSession
  simp only [reads, Action.ofStoreError, run_bind, run_pure, run_guarded]
  rw [asked]
  rfl

theorem run_leave (held : sessions[session]? = some { lease }) (outcome : Except Failure Unit)
    (state : σ) (exchanges : List (Exchange engineInterface)) :
    ∃ reached,
      run (recorded answers) (Transaction.leave settings session outcome) sessions
        (state, exchanges) =
          ((outcome, sessions.set session { lease, released := true }), reached,
            exchanges ++
              [Transaction.settled lease outcome, Transaction.released lease (.ok ())]) := by
  cases outcome with
  | ok result =>
      let middle := (answers (.adapter (.commit lease)) state).2
      refine ⟨(answers (.adapter (.release lease)) middle).2, ?_⟩
      unfold Transaction.leave
      simp only [run_bind, run_attempt, run_commit held, run_release held, recorded,
        complies.commits, complies.releases, Except.mapError_ok, run_pure]
      simp [Transaction.settled, Transaction.committed, Transaction.released, middle]
  | error failure =>
      let middle := (answers (.adapter (.rollback lease)) state).2
      refine ⟨(answers (.adapter (.release lease)) middle).2, ?_⟩
      change run (recorded answers) (Transaction.abandon settings session failure) _ _ = _
      rw [Transaction.run_abandon held]
      simp only [recorded, complies.rollsBack, complies.releases]
      simp [Transaction.tolerated, Transaction.settled, Transaction.rolledBack,
        Transaction.released, middle]

/-- A transaction is begun, its body runs, it is committed or rolled back, and its
connection is given back. -/
theorem traces_transactionScope {isolation : Option String} {level : Option IsolationLevel}
    (reads : IsolationLevel.read? isolation = .ok level) {body : SessionId → EngineAction Unit}
    {goal : Lease → Except Failure Unit → List (Exchange engineInterface) → Prop}
    (traces : ∀ inner, Traces answers (body sessions.length) (sessions ++ [{ lease := inner }])
      (goal inner)) :
    Traces answers (Transaction.scope settings isolation body) sessions
      fun outcome exchanges => ∃ inner during, goal inner outcome during ∧
        exchanges = Transaction.begun level inner :: during ++
          [Transaction.settled inner outcome, Transaction.released inner (.ok ())] := by
  intro state exchanges
  obtain ⟨inner, opened, started⟩ := run_startSession complies reads state exchanges
  obtain ⟨outcome, more, left, during, ran, met⟩ :=
    traces inner opened (exchanges ++ [Transaction.begun level inner])
  have held : (sessions ++ [{ lease := inner }] ++ more)[sessions.length]? =
      some { lease := inner } := by
    simp
  obtain ⟨reached, ended⟩ := run_leave complies held outcome left
    (exchanges ++ [Transaction.begun level inner] ++ during)
  refine ⟨outcome, { lease := inner, released := true } :: more, reached,
    Transaction.begun level inner :: during ++
      [Transaction.settled inner outcome, Transaction.released inner (.ok ())], ?_,
    inner, _, met, ?_⟩
  · unfold Transaction.scope
    rw [run_bind, started]
    dsimp only
    rw [run_bind, run_attempt, ran]
    dsimp only
    rw [ended]
    simp
  · have isBegun : (Transaction.begun level inner).isAdapter = true := rfl
    have isSettled : (Transaction.settled inner outcome).isAdapter = true := by
      cases outcome <;> rfl
    have isReleased : (Transaction.released inner (.ok ())).isAdapter = true := rfl
    simp [isBegun, isSettled, isReleased]

end Complying

/-! ## All trees -/

theorem traces_raise (failure : Failure) :
    Traces answers ((ScopeTree.raise failure).perform settings session) sessions
      (ScopeTree.Emits settings lease (.raise failure)) := by
  have traces : Traces answers (Action.ofOutcome (.error failure) : EngineAction Unit) sessions
      (ScopeTree.Emits settings lease (.raise failure)) := Traces.ofOutcome .raise
  exact traces

theorem traces_statement (held : sessions[session]? = some { lease }) (sql : String)
    (parameters : List Value) (inSession : Bool) :
    Traces answers ((ScopeTree.statement sql parameters inSession).perform settings session)
      sessions (ScopeTree.Emits settings lease (.statement sql parameters inSession)) := by
  refine Traces.bind (traces_query held sql parameters inSession) ?_ ?_
  · rintro rows more exchanges ⟨reply, isOutcome, rfl, _⟩
    apply Traces.ofOutcome
    cases reply with
    | error failure => cases isOutcome
    | ok execution => exact .statement (.ok execution)
  · rintro failure exchanges ⟨reply, isOutcome, rfl, _⟩
    cases reply with
    | error native =>
        cases isOutcome
        exact .statement (.error native)
    | ok execution => cases isOutcome

mutual

theorem traces_scopeTree (complies : Complies settings answers) (tree : ScopeTree)
    (named : tree.IsWellNamed)
    {sessions : List Session} {session : SessionId} {lease : Lease}
    (held : sessions[session]? = some { lease }) :
    Traces answers (tree.perform settings session) sessions
      (ScopeTree.Emits settings lease tree) := by
  cases tree with
  | statement sql parameters inSession => exact traces_statement held sql parameters inSession
  | raise failure => exact traces_raise failure
  | transaction isolation body =>
      obtain ⟨⟨level, reads⟩, bodyNamed⟩ := named
      have traces (inner : Lease) :
          Traces answers (body.perform settings sessions.length) (sessions ++ [{ lease := inner }])
            (ScopeBody.Emits settings inner body) :=
        traces_scopeBody complies body bodyNamed (by simp)
      rw [ScopeTree.perform]
      apply Traces.imp (traces_transactionScope complies reads traces)
      rintro outcome exchanges ⟨inner, during, emits, rfl⟩
      exact .transaction reads emits
  | savepoint given body =>
      obtain ⟨valid, bodyNamed⟩ := named
      have traces (more : List Session) :
          Traces answers (body.perform settings session) (sessions ++ more)
            (ScopeBody.Emits settings lease body) :=
        traces_scopeBody complies body bodyNamed (held_append held more)
      rw [ScopeTree.perform]
      apply Traces.imp (traces_savepointScope complies held valid traces)
      rintro outcome exchanges ⟨name, created, ended, inner, names, emits, rfl⟩
      exact .savepoint names emits

theorem traces_scopeBody (complies : Complies settings answers) (body : ScopeBody)
    (named : body.IsWellNamed)
    {sessions : List Session} {session : SessionId} {lease : Lease}
    (held : sessions[session]? = some { lease }) :
    Traces answers (body.perform settings session) sessions
      (ScopeBody.Emits settings lease body) := by
  cases body with
  | done =>
      rw [ScopeBody.perform]
      intro state exchanges
      exact ⟨.ok (), [], state, [], by simp, .done⟩
  | step caught scope rest =>
      obtain ⟨scopeNamed, restNamed⟩ := named
      have first := traces_scopeTree complies scope scopeNamed held
      have continues (more : List Session) :
          Traces answers (rest.perform settings session) (sessions ++ more)
            (ScopeBody.Emits settings lease rest) :=
        traces_scopeBody complies rest restNamed (held_append held more)
      cases caught with
      | false =>
          rw [ScopeBody.perform]
          refine Traces.bind first ?_ ?_
          · intro _ more exchanges emits
            apply Traces.imp (continues more)
            intro outcome later emitsRest
            exact .passed emits emitsRest
          · intro failure exchanges emits
            exact .left emits
      | true =>
          rw [ScopeBody.perform]
          refine Traces.bind first.attempt ?_ ?_
          · rintro _ more exchanges ⟨attempted, same, emits⟩
            apply Traces.imp (continues more)
            intro outcome later emitsRest
            cases attempted with
            | ok _ => exact .passed emits emitsRest
            | error failure => exact .caught emits emitsRest
          · rintro failure exchanges ⟨_, same, _⟩
            cases same

end

/-- Transactions and savepoints are well nested: whatever the leaves come to and whichever
failures are caught, every scope asks for its beginning, then for what its body asks for,
and then for the one end that the outcome of its body calls for; that outcome leaves it. -/
theorem scopes_wellNested (complies : Complies settings answers) (isolation : Option String)
    (body : ScopeBody) (named : (ScopeTree.transaction isolation body).IsWellNamed)
    (sessions : List Session) (state : σ) :
    ∃ outcome more reached exchanges,
      run (recorded answers)
        (Transaction.scope settings isolation fun session => body.perform settings session)
        sessions (state, []) = ((outcome, sessions ++ more), reached, exchanges) ∧
      ∀ around, ScopeTree.Emits settings around (.transaction isolation body) outcome
        (exchanges.filter Exchange.isAdapter) := by
  obtain ⟨⟨level, reads⟩, bodyNamed⟩ := named
  have traces (inner : Lease) :
      Traces answers (body.perform settings sessions.length) (sessions ++ [{ lease := inner }])
        (ScopeBody.Emits settings inner body) :=
    traces_scopeBody complies body bodyNamed (by simp)
  have whole : Traces answers
      (Transaction.scope settings isolation fun session => body.perform settings session)
      sessions _ := traces_transactionScope complies reads traces
  obtain ⟨outcome, more, reached, exchanges, ran, inner, during, emits, isTrace⟩ :=
    whole state []
  refine ⟨outcome, more, reached, exchanges, ran, ?_⟩
  intro around
  rw [isTrace]
  exact .transaction reads emits

/-- In a transaction a savepoint is rolled back to and its failure is caught, and then a
cancellation ends a second savepoint and the transaction. -/
theorem scopes_wellNested_cancelled :
    let body : ScopeBody :=
      .step true (.savepoint (some "first") (.step false (.raise (.caller "oops")) .done))
        (.step false (.savepoint none (.step false (.statement "SELECT 1" [] true)
          (.step false (.raise .cancelled) .done))) .done)
    ∃ outcome more reached exchanges,
      run (recorded (Transaction.scripted (.ok ()) (.ok ()) (.ok ())))
        (Transaction.scope Transaction.plainSettings none fun session =>
          body.perform Transaction.plainSettings session) [] ((), []) =
        ((outcome, more), reached, exchanges) ∧
      ∀ around, ScopeTree.Emits Transaction.plainSettings around (.transaction none body) outcome
        (exchanges.filter Exchange.isAdapter) := by
  intro body
  refine scopes_wellNested ?_ none body ?_ [] ()
  · exact
      { begins := fun level _ => ⟨_, rfl⟩
        commits := fun _ _ => rfl
        rollsBack := fun _ _ => rfl
        releases := fun _ _ => rfl
        savepoints := fun _ _ _ _ => ⟨_, rfl⟩
        randomBytes := fun count _ => ⟨_, rfl, List.length_replicate⟩ }
  · refine ⟨⟨none, rfl⟩, ⟨?_, trivial, trivial⟩, ⟨?_, trivial, trivial, trivial⟩, trivial⟩
    · intro name same
      cases same
      right
      decide
    · intro name same
      cases same

end Run

end DocStore
