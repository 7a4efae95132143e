import DocStore.Proofs.Executions
import DocStore.Proofs.FieldPaths
import DocStore.Proofs.QuotedNames

/-!
# Names of unnamed indexes

An index that is given no name gets one from the paths of its fields.  The name has the words
of the paths, which stand between dots and underscores, and says neither where a path ends nor
which collection the index is on.  A schema has only one index of a name, and the engine
silently passes over the statement that would create another one.  So an unnamed index is
passed over if and only if an index with the same words was created before.
-/

namespace DocStore

open Sql

/-! ## Words -/

/-- The words of a field path stand between its dots and underscores. -/
def pathWords (path : String) : List (List Char) :=
  (cutAt '.' path.toList).flatMap (cutAt '_')

/-- The words of the fields of an index.  If there is no field, the only word is empty. -/
def indexWords : List String → List (List Char)
  | [] => [[]]
  | paths => paths.flatMap pathWords

/-- A path as it stands in a generated name. -/
def underscored (path : String) : List Char :=
  path.toList.map fun character => if character = '.' then '_' else character

/-- Dots count as underscores. -/
theorem cutAt_underscored (path : String) : cutAt '_' (underscored path) = pathWords path := by
  unfold underscored pathWords
  induction path.toList with
  | nil => rfl
  | cons character text ih =>
      rw [List.map_cons, cutAt]
      by_cases isDot : character = '.'
      · simp [isDot, cutAt, ih]
      · simp only [if_neg isDot, cutAt, ih]
        cases cut : cutAt '.' text with
        | nil => simp [cutAt_eq_splitOn] at cut
        | cons piece pieces =>
            by_cases isUnderscore : character = '_'
            · simp [isUnderscore, cutAt]
            · cases words : cutAt '_' piece with
              | nil => simp [cutAt_eq_splitOn] at words
              | cons word others => simp [isUnderscore, cutAt, words]

theorem cutAt_joined (paths : List String) :
    cutAt '_' (['_'].intercalate (paths.map underscored)) = indexWords paths := by
  cases paths with
  | nil => rfl
  | cons path paths =>
      calc cutAt '_' (['_'].intercalate ((path :: paths).map underscored))
          = ((path :: paths).map underscored).flatMap (cutAt '_') :=
            cutAt_intercalate '_' (by simp)
        _ = (path :: paths).flatMap pathWords := by
            simp only [List.flatMap_map, cutAt_underscored]

theorem toList_defaultIndexName (paths : List String) :
    (Engine.defaultIndexName paths).toList =
      "idx_".toList ++ ['_'].intercalate (paths.map underscored) := by
  rw [Engine.defaultIndexName, String.toList_append, String.toList_intercalate, List.map_map]
  congr 3
  funext path
  exact String.toList_ofList

/-- The generated names tell apart what has different words, and nothing else. -/
theorem defaultIndexName_eq_iff {left right : List String} :
    Engine.defaultIndexName left = Engine.defaultIndexName right ↔
      indexWords left = indexWords right := by
  rw [← String.toList_inj, toList_defaultIndexName, toList_defaultIndexName,
    List.append_cancel_left_eq, ← cutAt_joined, ← cutAt_joined, cutAt_inj]

/-! ## The name in a statement -/

theorem Sql.head?_flatMap_quotedCharacter (quote first : Char) (text : List Char) :
    ((first :: text).flatMap (quotedCharacter quote)).head? = some first := by
  rw [List.flatMap_cons, quotedCharacter]
  split <;> rfl

theorem Sql.quotedBody_inj {quote : Char} {left right : String} :
    quotedBody quote left = quotedBody quote right ↔ left = right := by
  refine ⟨fun same => String.toList_inj.mp ?_, congrArg _⟩
  unfold quotedBody at same
  generalize left.toList = lefts at same ⊢
  generalize right.toList = rights at same ⊢
  induction lefts generalizing rights with
  | nil =>
      cases rights with
      | nil => rfl
      | cons second rights =>
          have heads := congrArg List.head? same
          rw [head?_flatMap_quotedCharacter] at heads
          cases heads
  | cons first lefts ih =>
      have heads := congrArg List.head? same
      rw [head?_flatMap_quotedCharacter] at heads
      cases rights with
      | nil => cases heads
      | cons second rights =>
          obtain rfl : first = second := by
            rw [head?_flatMap_quotedCharacter] at heads
            exact Option.some.inj heads
          rw [List.flatMap_cons, List.flatMap_cons, List.append_cancel_left_eq] at same
          rw [ih rights same]

/-- A name after some words. -/
def Sql.nameAfter? : List String → List Lexeme → Option (List Char)
  | [], .quoted '"' name :: _ => some name
  | word :: words, .word content :: tokens =>
      if content = word.toList then nameAfter? words tokens else none
  | _, _ => none

/-- The name of the index that a statement text creates if there is no index of this name. -/
def Statement.createdName? (sql : String) : Option (List Char) :=
  ((format sql.toList []).bind (lex .postgres)).bind fun tokens =>
    (nameAfter? ["CREATE", "INDEX", "IF", "NOT", "EXISTS"] tokens).or
      (nameAfter? ["CREATE", "UNIQUE", "INDEX", "IF", "NOT", "EXISTS"] tokens)

theorem Statement.createdName?_createIndex (table name : String) (keys : List (String × Bool))
    (unique : Bool) :
    createdName? (createIndex .postgres table name keys unique).sql =
      some (quotedBody '"' name) := by
  have definition := IsDefinition.createIndex .postgres table name keys unique
  have tokens := definition.wellJoined.tokens?_eq
  have noParams : Fragment.params (createIndex .postgres table name keys unique).body = [] :=
    definition.params_eq_nil
  rw [Fragment.tokens?, noParams] at tokens
  refine (congrArg (Option.bind · _) tokens).trans ?_
  cases unique <;> rfl

/-! ## Calls -/

theorem Value.compare_int (left right : Int) :
    (Value.int left).compare (.int right) = .ok (left == right) := by
  simp [Value.compare, Value.compareBy, Value.compareScalars, Value.exactNumber?,
    Value.isSignaling, Exact.ofInt, Exact.equal]

theorem Statement.readIndexKey_text (path : String) (direction : Int) :
    readIndexKey (.text path, .int direction) = .ok (path, direction == -1) := by
  simp only [readIndexKey, Value.compare_int]
  rfl

/-- A call that creates an index without a name, on some paths with their directions. -/
structure UnnamedIndex where
  collection : String
  spec : List (String × Int)
  options : IndexOptions
  unnamed : options.name.getD "" = ""

namespace UnnamedIndex

section

variable (index : UnnamedIndex)

def paths : List String := index.spec.map Prod.fst

def words : List (List Char) := indexWords index.paths

def name : String := Engine.defaultIndexName index.paths

def keys : Members := index.spec.map fun (path, direction) => (.text path, .int direction)

/-- The paths, and whether they descend. -/
def directions : List (String × Bool) :=
  index.spec.map fun (path, direction) => (path, direction == -1)

def statement : Statement :=
  Statement.createIndex .postgres index.collection index.name index.directions
    index.options.unique

def create (engine : EngineSettings) : EngineAction String :=
  Engine.createIndex engine index.collection index.keys index.options

theorem indexName_eq : Engine.indexName index.options index.paths = index.name := by
  have unnamed := index.unnamed
  unfold Engine.indexName name
  cases named : index.options.name with
  | none => rfl
  | some given =>
      rw [named] at unnamed
      simp [show given = "" from unnamed]

theorem read_paths : index.keys.keys.mapM (fun key => key.toValue.asText) = .ok index.paths := by
  rw [keys, Members.keys, List.map_map, List.mapM_map, paths]
  exact Except.mapM_eq_ok_map fun _ _ => rfl

theorem read_directions : index.keys.mapM Statement.readIndexKey = .ok index.directions := by
  rw [keys, List.mapM_map]
  exact Except.mapM_eq_ok_map fun entry _ => Statement.readIndexKey_text entry.1 entry.2

theorem params_statement : index.statement.params = [] :=
  (Statement.IsDefinition.createIndex ..).params_eq_nil

/-- The name as it stands between quotes in the statement. -/
def quotedName : List Char := quotedBody '"' index.name

theorem createdName?_statement :
    Statement.createdName? index.statement.sql = some index.quotedName :=
  Statement.createdName?_createIndex ..

end

section

open Engine

variable {ρ : Type} (answers : EngineAnswers ρ) (sessions : List Session)
  (state : ρ × List (Exchange engineInterface)) (index : UnnamedIndex)

/-- The call executes one statement, and returns the generated name if that succeeds. -/
theorem run_create {engine : EngineSettings} (isPostgres : engine.dialect = .postgres) :
    ∃ reply reached,
      Action.run (recorded answers) (index.create engine) sessions state =
        (((reported engine index.statement.sql reply).map fun _ => index.name, sessions),
          reached) ∧
      executions reached.2 = executions state.2 ++ [Executed.of index.statement none reply] := by
  obtain ⟨reply, reached, ran, executed⟩ :=
    run_execute answers state engine (started_none sessions) index.statement.sql []
  refine ⟨reply, reached, ?_, by rw [executed, Executed.of, params_statement]; rfl⟩
  unfold create createIndex
  rw [read_paths, read_directions]
  change Action.run _ (perform engine _ >>=
    fun _ => pure (indexName index.options index.paths)) _ _ = _
  rw [indexName_eq, isPostgres, perform, query]
  change Action.run _ (((execute engine index.statement.sql [] none >>= _) >>= _) >>= _) _ _ = _
  rw [Action.run_bind, Action.run_bind, Action.run_bind, ran]
  cases reply <;> rfl

/-- Makes calls one after the other, whatever they come to. -/
def createEach (engine : EngineSettings) :
    List UnnamedIndex → EngineAction (List (Except Failure String))
  | [] => pure []
  | index :: indexes => do
      let outcome ← Action.attempt (index.create engine)
      let outcomes ← createEach engine indexes
      pure (outcome :: outcomes)

end

end UnnamedIndex

/-- A call, and what its statement came to. -/
structure IndexAttempt where
  index : UnnamedIndex
  reply : Except Failure Execution

namespace IndexAttempt

variable (attempt : IndexAttempt)

def Succeeds : Prop := ∃ execution, attempt.reply = .ok execution

def executed : Executed := .of attempt.index.statement none attempt.reply

/-- What the call comes to. -/
def outcome (engine : EngineSettings) : Except Failure String :=
  (reported engine attempt.index.statement.sql attempt.reply).map fun _ =>
    attempt.index.name

end IndexAttempt

theorem UnnamedIndex.run_createEach {ρ : Type} (answers : EngineAnswers ρ)
    (sessions : List Session) (state : ρ × List (Exchange engineInterface))
    {engine : EngineSettings} (isPostgres : engine.dialect = .postgres)
    (indexes : List UnnamedIndex) :
    ∃ (attempts : List IndexAttempt) (reached : ρ × List (Exchange engineInterface)),
      attempts.map IndexAttempt.index = indexes ∧
      Action.run (recorded answers) (createEach engine indexes) sessions state =
        ((.ok (attempts.map (IndexAttempt.outcome · engine)), sessions), reached) ∧
      executions reached.2 = executions state.2 ++ attempts.map IndexAttempt.executed := by
  induction indexes generalizing state with
  | nil => exact ⟨[], state, rfl, rfl, (List.append_nil _).symm⟩
  | cons index indexes ih =>
      obtain ⟨reply, middle, ran, executed⟩ := run_create answers sessions state index isPostgres
      obtain ⟨attempts, reached, areIndexes, othersRan, othersExecuted⟩ := ih middle
      refine ⟨{ index, reply } :: attempts, reached, by rw [List.map_cons, areIndexes], ?_, ?_⟩
      · rw [createEach, Action.run_bind, Action.run_attempt, ran]
        dsimp only
        rw [Action.run_bind, othersRan]
        rfl
      · rw [othersExecuted, executed, List.append_assoc]
        rfl

/-! ## The indexes of a schema -/

namespace Executed

/-- The name of the index that a statement creates if it succeeds and there is no index of this
name. -/
def createdName? (statement : Executed) : Option (List Char) :=
  match statement.reply with
  | .ok _ => Statement.createdName? statement.sql
  | .error _ => none

/-- The names of the indexes after a statement.  If there is an index of the name, the statement
changes nothing. -/
def addName (names : List (List Char)) (statement : Executed) : List (List Char) :=
  match statement.createdName? with
  | some name => names.insert name
  | none => names

/-- The engine accepts the statement, but there is an index of its name since the earlier
statements. -/
def IsPassedOver (earlier : List Executed) (statement : Executed) : Prop :=
  ∃ name ∈ earlier.foldl addName [], statement.createdName? = some name

theorem mem_foldl_addName {name : List Char} {names : List (List Char)}
    {executed : List Executed} :
    name ∈ executed.foldl addName names ↔
      name ∈ names ∨ ∃ statement ∈ executed, statement.createdName? = some name := by
  induction executed generalizing names with
  | nil => simp
  | cons statement executed ih =>
      have added : name ∈ addName names statement ↔
          name ∈ names ∨ statement.createdName? = some name := by
        unfold addName
        cases statement.createdName? with
        | none => simp
        | some created => simp [List.mem_insert_iff, or_comm, eq_comm]
      rw [List.foldl_cons, ih, added, or_assoc, List.exists_mem_cons_iff]

end Executed

theorem IndexAttempt.createdName?_executed {attempt : IndexAttempt} {name : List Char} :
    attempt.executed.createdName? = some name ↔
      attempt.Succeeds ∧ attempt.index.quotedName = name := by
  unfold Executed.createdName? executed Executed.of Succeeds
  rw [UnnamedIndex.createdName?_statement]
  cases attempt.reply <;> simp

theorem UnnamedIndex.name_eq_iff {first second : UnnamedIndex} :
    first.name = second.name ↔ first.words = second.words :=
  defaultIndexName_eq_iff

/-- Only an index with the same words is in the way of an unnamed index. -/
theorem IndexAttempt.isPassedOver_iff {before : List IndexAttempt} {attempt : IndexAttempt} :
    attempt.executed.IsPassedOver (before.map executed) ↔
      attempt.Succeeds ∧ ∃ earlier ∈ before,
        earlier.Succeeds ∧ earlier.index.words = attempt.index.words := by
  simp only [Executed.IsPassedOver, Executed.mem_foldl_addName, List.mem_map,
    exists_exists_and_eq_and, createdName?_executed, List.not_mem_nil, false_or]
  constructor
  · rintro ⟨_, ⟨earlier, isEarlier, took, rfl⟩, takes, same⟩
    exact ⟨takes, earlier, isEarlier, took,
      UnnamedIndex.name_eq_iff.mp (Sql.quotedBody_inj.mp same).symm⟩
  · rintro ⟨takes, earlier, isEarlier, took, same⟩
    have sameName := UnnamedIndex.name_eq_iff.mpr same
    exact ⟨_, ⟨earlier, isEarlier, took, congrArg (Sql.quotedBody '"') sameName⟩, takes, rfl⟩

/-- The names of two unnamed indexes are the same if and only if their words are, whatever their
collections are.  Of some calls for unnamed indexes, each one returns the generated name when its
statement succeeds, and the statement is passed over if and only if an earlier call with the same
words succeeded. -/
theorem unnamed_index_passedOver_iff {ρ : Type} (answers : EngineAnswers ρ)
    (sessions : List Session) (state : ρ × List (Exchange engineInterface))
    {engine : EngineSettings} (isPostgres : engine.dialect = .postgres)
    (indexes : List UnnamedIndex) :
    (∀ first second : UnnamedIndex, first.name = second.name ↔ first.words = second.words) ∧
    ∃ (attempts : List IndexAttempt) (reached : ρ × List (Exchange engineInterface)),
      attempts.map IndexAttempt.index = indexes ∧
      Action.run (recorded answers) (UnnamedIndex.createEach engine indexes) sessions state =
        ((.ok (attempts.map (IndexAttempt.outcome · engine)), sessions), reached) ∧
      executions reached.2 = executions state.2 ++ attempts.map IndexAttempt.executed ∧
      ∀ before attempt after, attempts = before ++ attempt :: after →
        (attempt.executed.IsPassedOver (before.map IndexAttempt.executed) ↔
          attempt.Succeeds ∧ ∃ earlier ∈ before,
            earlier.Succeeds ∧ earlier.index.words = attempt.index.words) := by
  obtain ⟨attempts, reached, areIndexes, ran, executed⟩ :=
    UnnamedIndex.run_createEach answers sessions state isPostgres indexes
  exact ⟨fun _ _ => UnnamedIndex.name_eq_iff, attempts, reached, areIndexes, ran, executed,
    fun _ _ _ _ => IndexAttempt.isPassedOver_iff⟩

namespace UnnamedIndex

/-- Indexes on fields of the users. -/
def ofUsers (path : String) : UnnamedIndex :=
  { collection := "users", spec := [(path, 1)], options := {}, unnamed := rfl }

def ofOrders (path : String) : UnnamedIndex := { ofUsers path with collection := "orders" }

/-- Two indexes with different words, neither of which is passed over. -/
theorem unnamed_index_created :
    ∃ (attempts : List IndexAttempt) (reached : Unit × List (Exchange engineInterface)),
      attempts.map IndexAttempt.index = [ofUsers "a.b", ofOrders "a.c"] ∧
      Action.run (recorded (Transaction.scripted (.ok ()) (.ok ()) (.ok ())))
          (createEach Transaction.plainSettings [ofUsers "a.b", ofOrders "a.c"]) [] ((), []) =
        ((.ok (attempts.map (IndexAttempt.outcome · Transaction.plainSettings)), []), reached) ∧
      executions reached.2 = attempts.map IndexAttempt.executed ∧
      ∀ before attempt after, attempts = before ++ attempt :: after →
        ¬attempt.executed.IsPassedOver (before.map IndexAttempt.executed) := by
  obtain ⟨-, attempts, reached, areIndexes, ran, executed, passedOver⟩ :=
    unnamed_index_passedOver_iff (Transaction.scripted (.ok ()) (.ok ()) (.ok ())) [] ((), [])
      (show Transaction.plainSettings.dialect = .postgres from rfl)
      [ofUsers "a.b", ofOrders "a.c"]
  refine ⟨attempts, reached, areIndexes, ran, executed, fun before attempt after divided => ?_⟩
  rw [passedOver before attempt after divided]
  rintro ⟨-, earlier, isEarlier, -, same⟩
  have distinct : ((attempts.map IndexAttempt.index).map words).Nodup := by
    rw [areIndexes]
    decide
  rw [divided, List.map_map, List.map_append, List.map_cons] at distinct
  exact (List.nodup_append.mp distinct).2.2 _ (List.mem_map_of_mem isEarlier) _
    List.mem_cons_self same

/-- Two indexes on different collections and on different paths have one name, and the engine
passes over the second one. -/
theorem unnamed_index_passedOver :
    let first : IndexAttempt := { index := ofUsers "a.b", reply := .ok {} }
    let second : IndexAttempt := { index := ofOrders "a_b", reply := .ok {} }
    first.index.collection ≠ second.index.collection ∧ first.index.paths ≠ second.index.paths ∧
    first.index.name = second.index.name ∧
    ∃ reached : Unit × List (Exchange engineInterface),
      Action.run (recorded (Transaction.scripted (.ok ()) (.ok ()) (.ok ())))
          (createEach Transaction.plainSettings [first.index, second.index]) [] ((), []) =
        ((.ok [.ok "idx_a_b", .ok "idx_a_b"], []), reached) ∧
      executions reached.2 = [first.executed, second.executed] ∧
      second.executed.IsPassedOver [first.executed] := by
  intro first second
  have passedOver : second.executed.IsPassedOver ([first].map IndexAttempt.executed) :=
    IndexAttempt.isPassedOver_iff.mpr
      ⟨⟨_, rfl⟩, first, List.mem_singleton_self first, ⟨_, rfl⟩, by decide⟩
  exact ⟨by decide, by decide, by decide, _, rfl, rfl, passedOver⟩

end UnnamedIndex

end DocStore
