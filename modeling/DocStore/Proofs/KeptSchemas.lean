import DocStore.Proofs.AcceptedWrites
import DocStore.Proofs.Executions
import DocStore.Proofs.SavepointEnd

/-!
# The schemas that a client keeps

A collection has the schema that the last successful call gave to it, and none after it was
dropped.  A call that fails leaves all schemas as they were, with one exception: a new
collection gets its schema before its table, and keeps it when the table cannot be created.
-/

namespace DocStore

open ClientAction

/-! ## Entries of a catalog -/

namespace SchemaCatalog

variable {library : SchemaLibrary} {catalog changed : SchemaCatalog}

theorem get?_unregister (catalog : SchemaCatalog) (removed collection : String) :
    (catalog.unregister removed).get? collection =
      if removed = collection then none else catalog.get? collection := by
  unfold unregister
  induction catalog with
  | nil => simp [get?]
  | cons entry catalog ih =>
      obtain ⟨name, validator⟩ := entry
      by_cases isRemoved : name = .text removed
      · subst isRemoved
        by_cases same : removed = collection <;> simp_all [get?, Key.same_text]
      · by_cases same : removed = collection <;> simp_all [get?, Key.same_text]

theorem register_eq_ok_iff {collection : Key} {schema : Value} :
    catalog.register library collection schema = .ok changed ↔
      library.review schema = [] ∧
        changed = (collection, library.validator schema) :: catalog.unregister collection := by
  unfold register
  rcases library.review schema with _ | ⟨_ | _, _⟩
  · simp only [Except.ok.injEq, true_and]
    exact eq_comm
  · simp
  · simp

theorem get?_register {registered : String} {schema : Value}
    (kept : catalog.register library registered schema = .ok changed) (collection : String) :
    changed.get? collection =
      if registered = collection then some (library.validator schema)
      else catalog.get? collection := by
  obtain ⟨_, rfl⟩ := register_eq_ok_iff.mp kept
  by_cases same : registered = collection
  · simp [get?, Key.same_text, same]
  · simp [get?, Key.same_text, same, get?_unregister]

end SchemaCatalog

/-! ## One call -/

namespace ClientVerb

/-- What a verb makes of the validator of a collection if it succeeds: it gives the collection
the validator of a schema, or takes it away. -/
def gives? (library : SchemaLibrary) (collection : String) :
    ClientVerb → Option (Option Validator)
  | createCollection name schema =>
      if name = collection ∧ schema.isNull = false then some (some (library.validator schema))
      else none
  | dropCollection name => if name = collection then some none else none
  | registerSchema name schema =>
      if name = collection then some (some (library.validator schema)) else none
  | registerInferredSchema name (.object sample) =>
      if name = collection then some (some (library.validator (.object (Schema.infer sample))))
      else none
  | _ => none

/-- A collection is created with a schema whose validator it does not have yet, and the engine
refuses its table. -/
def IsPremature {σ : Type} (library : SchemaLibrary) (answers : Answers σ)
    (schemas : SchemaCatalog) (state : σ) : ClientVerb → Prop
  | createCollection collection schema =>
      schema.isNull = false ∧ library.review schema = [] ∧
        schemas.get? collection ≠ some (library.validator schema) ∧
          ∃ failure, (answers (.createTable collection) state).1 = .error failure
  | _ => False

/-- How a call ends: its success is what the verb gives, and its failure changes no schema
unless the verb was premature. -/
def Ends {σ α : Type} (library : SchemaLibrary) (answers : Answers σ) (schemas : SchemaCatalog)
    (state : σ) (verb : ClientVerb) : Except Failure α × SchemaCatalog → Prop
  | (.ok _, after) => ¬verb.IsPremature library answers schemas state ∧
      ∀ collection : String, after.get? collection =
        (verb.gives? library collection).getD (schemas.get? collection)
  | (.error _, after) =>
      (∀ collection : String, after.get? collection = schemas.get? collection) ↔
        ¬verb.IsPremature library answers schemas state

variable {σ α : Type} {settings : ClientSettings} {answers : Answers σ}
  {schemas : SchemaCatalog} {state : σ}

/-- A failure before anything was changed. -/
theorem ends_unchanged {verb : ClientVerb} {failure : Failure}
    (mature : ¬verb.IsPremature settings.schemas answers schemas state) :
    verb.Ends settings.schemas answers schemas state
      ((.error failure, schemas) : Except Failure α × _) :=
  iff_of_true (fun _ => rfl) mature

theorem run_answering (action : ClientAction α) (toValue : α → Value) :
    run answers (Action.answering toValue action) schemas state =
      match run answers action schemas state with
      | ((outcome, after), reached) => ((outcome.map toValue, after), reached) := by
  unfold Action.answering
  rw [run_bind]
  rcases run answers action schemas state with ⟨⟨outcome, after⟩, reached⟩
  cases outcome <;> rfl

theorem ends_answering {verb : ClientVerb} {action : ClientAction α} {toValue : α → Value}
    (ends : verb.Ends settings.schemas answers schemas state (run answers action schemas state).1) :
    verb.Ends settings.schemas answers schemas state
      (run answers (Action.answering toValue action) schemas state).1 := by
  rw [run_answering]
  revert ends
  rcases run answers action schemas state with ⟨⟨outcome, after⟩, reached⟩
  cases outcome <;> exact id

/-- The outcome of keeping a schema. -/
theorem run_registerSchema (collection : String) (schema : Value) :
    run answers (Client.registerSchema settings collection schema) schemas state =
      match schemas.register settings.schemas collection schema with
      | .ok changed => ((.ok (), changed), state)
      | .error failure => ((.error failure, schemas), state) := by
  unfold Client.registerSchema
  rw [run_bind]
  change run answers
    (Action.ofOutcome (schemas.register settings.schemas collection schema) >>= _) schemas state = _
  rw [run_bind, run_ofOutcome]
  cases schemas.register settings.schemas collection schema <;> rfl

theorem ends_registerSchema (collection : String) (schema : Value) :
    (registerSchema collection schema).Ends settings.schemas answers schemas state
      (run answers (Client.registerSchema settings collection schema) schemas state).1 := by
  rw [run_registerSchema]
  cases kept : schemas.register settings.schemas collection schema with
  | error failure => exact ends_unchanged id
  | ok changed =>
      refine ⟨id, ?_⟩
      intro other
      rw [SchemaCatalog.get?_register kept]
      by_cases same : collection = other <;> simp [gives?, same]

theorem ends_registerInferredSchema (collection : String) (document : Value) :
    (registerInferredSchema collection document).Ends settings.schemas answers schemas state
      (run answers (Client.registerInferredSchema settings collection document) schemas
        state).1 := by
  have ran : run answers (Client.registerInferredSchema settings collection document) schemas
      state =
      match schemas.registerInferred settings.schemas collection document with
      | .ok (schema, changed) => ((.ok schema, changed), state)
      | .error failure => ((.error failure, schemas), state) := by
    unfold Client.registerInferredSchema
    rw [run_bind]
    change run answers
      (Action.ofOutcome (schemas.registerInferred settings.schemas collection document) >>= _)
      schemas state = _
    rw [run_bind, run_ofOutcome]
    cases schemas.registerInferred settings.schemas collection document <;> rfl
  rw [ran]
  cases document with
  | object sample =>
      unfold SchemaCatalog.registerInferred
      dsimp only [Value.asObject]
      cases kept : schemas.register settings.schemas collection (.object (Schema.infer sample)) with
      | error failure => exact ends_unchanged id
      | ok changed =>
          refine ⟨id, ?_⟩
          intro other
          rw [SchemaCatalog.get?_register kept]
          by_cases same : collection = other <;> simp [gives?, same]
  | _ => exact ends_unchanged id

/-- A schema is kept first, and then the table is created. -/
theorem run_createCollection (collection : String) (schema : Value) :
    run answers (Client.createCollection settings collection schema) schemas state =
      match if schema.isNull then .ok schemas
        else schemas.register settings.schemas collection schema with
      | .error failure => ((.error failure, schemas), state)
      | .ok changed =>
          match answers (.createTable collection) state with
          | (.error failure, later) => ((.error failure, changed), later)
          | (.ok _, later) => ((.ok { name := collection }, changed), later) := by
  have created (changed : SchemaCatalog) :
      run answers (do
        createTable collection
        report .info ("Created collection '" ++ collection ++ "'")
        pure ({ name := collection } : Collection)) changed state =
      match answers (.createTable collection) state with
      | (.error failure, later) => ((.error failure, changed), later)
      | (.ok _, later) => ((.ok { name := collection }, changed), later) := by
    unfold createTable
    rw [run_bind, run_perform]
    rcases answers (.createTable collection) state with ⟨outcome, later⟩
    cases outcome <;> rfl
  unfold Client.createCollection
  cases schema.isNull with
  | true => exact created schemas
  | false =>
      dsimp only [Bool.not_false, if_true]
      change run answers (Client.registerSchema settings collection schema >>= fun _ => _) schemas
        state = _
      rw [run_bind, run_registerSchema]
      cases schemas.register settings.schemas collection schema with
      | error failure => rfl
      | ok changed => exact created changed

theorem ends_createCollection (collection : String) (schema : Value) :
    (createCollection collection schema).Ends settings.schemas answers schemas state
      (run answers (Client.createCollection settings collection schema) schemas state).1 := by
  rw [run_createCollection]
  cases isNull : schema.isNull with
  | true =>
      have mature : ¬(createCollection collection schema).IsPremature settings.schemas answers
          schemas state := by
        rintro ⟨notNull, _⟩
        rw [isNull] at notNull
        cases notNull
      rcases answers (.createTable collection) state with ⟨_ | _, later⟩
      · exact ends_unchanged mature
      · refine ⟨mature, ?_⟩
        intro other
        simp [gives?, isNull]
  | false =>
      cases kept : schemas.register settings.schemas collection schema with
      | error failure =>
          refine ends_unchanged ?_
          rintro ⟨_, wellFormed, _⟩
          cases kept.symm.trans (SchemaCatalog.register_eq_ok_iff.mpr ⟨wellFormed, rfl⟩)
      | ok changed =>
          have wellFormed := (SchemaCatalog.register_eq_ok_iff.mp kept).1
          have entry := SchemaCatalog.get?_register kept
          rcases created : answers (.createTable collection) state with ⟨_ | _, later⟩
          · -- the schema stays, which changes nothing only if it was there before
            constructor
            · rintro same ⟨_, _, differs, _⟩
              exact differs ((same collection).symm.trans (by rw [entry, if_pos rfl]))
            · intro mature other
              rw [entry]
              by_cases own : collection = other
              · subst own
                rw [if_pos rfl]
                by_contra differs
                exact mature ⟨isNull, wellFormed, Ne.symm differs, _, congrArg Prod.fst created⟩
              · rw [if_neg own]
          · refine ⟨?_, ?_⟩
            · rintro ⟨_, _, _, failure, refused⟩
              rw [created] at refused
              cases refused
            · intro other
              rw [entry]
              by_cases own : collection = other <;> simp [gives?, own, isNull]

theorem ends_dropCollection (collection : String) :
    (dropCollection collection).Ends settings.schemas answers schemas state
      (run answers (Client.dropCollection collection) schemas state).1 := by
  have ran : run answers (Client.dropCollection collection) schemas state =
      match answers (.dropTable collection) state with
      | (.error failure, later) => ((.error failure, schemas), later)
      | (.ok _, later) => ((.ok (), schemas.unregister collection), later) := by
    unfold Client.dropCollection dropTable
    rw [run_bind, run_perform]
    rcases answers (.dropTable collection) state with ⟨outcome, later⟩
    cases outcome <;> rfl
  rw [ran]
  rcases answers (.dropTable collection) state with ⟨_ | _, later⟩
  · exact ends_unchanged id
  · refine ⟨id, ?_⟩
    intro other
    rw [SchemaCatalog.get?_unregister]
    by_cases same : collection = other <;> simp [gives?, same]

/-- A verb that does not concern schemas leaves them as they are, whatever it comes to. -/
theorem schemas_run_of_not_changesSchemas {verb : ClientVerb} (settings : ClientSettings)
    (keeps : ¬verb.ChangesSchemas) :
    (run answers (verb.perform settings) schemas state).1.2 = schemas := by
  let reads : String → Members → Prop := fun _ _ => True
  have ensured : (verb.perform settings).Ensures
      (storing settings reads (verb.MayAsk settings reads schemas) verb.AltersTables) schemas ()
      (fun _ own _ => ¬verb.ChangesSchemas → own = schemas)
      fun _ own _ => ¬verb.ChangesSchemas → own = schemas :=
    ensures_perform
  let agrees : σ → Unit → Prop := fun _ _ => True
  have covered : (storing settings reads (verb.MayAsk settings reads schemas)
      verb.AltersTables).Covers answers agrees := by
    intro state _ call _ _
    refine ⟨(), ?_, trivial⟩
    cases call with
    | run request session => exact fun _ _ _ _ _ _ _ _ _ _ => trivial
    | _ => trivial
  have start : agrees state () := trivial
  obtain ⟨_, ended, _⟩ := Program.Ensures.course ensured covered start
  exact Action.Ends.either ended keeps

/-- Every verb ends in this way. -/
theorem ends_perform (settings : ClientSettings) (verb : ClientVerb) :
    verb.Ends settings.schemas answers schemas state
      (run answers (verb.perform settings) schemas state).1 := by
  have unconcerned (keeps : ¬verb.ChangesSchemas)
      (gives : ∀ collection, verb.gives? settings.schemas collection = none)
      (mature : ¬verb.IsPremature settings.schemas answers schemas state) :
      verb.Ends settings.schemas answers schemas state
        (run answers (verb.perform settings) schemas state).1 := by
    have same : (run answers (verb.perform settings) schemas state).1.2 = schemas :=
      schemas_run_of_not_changesSchemas settings keeps
    revert same
    rcases run answers (verb.perform settings) schemas state with ⟨⟨_ | _, after⟩, reached⟩
    · rintro rfl
      exact ends_unchanged mature
    · rintro rfl
      refine ⟨mature, ?_⟩
      intro collection
      rw [gives]
      rfl
  cases verb with
  | createCollection collection schema => exact ends_answering (ends_createCollection _ _)
  | dropCollection collection => exact ends_answering (ends_dropCollection _)
  | registerSchema collection schema => exact ends_answering (ends_registerSchema _ _)
  | registerInferredSchema collection document =>
      exact ends_answering (ends_registerInferredSchema _ _)
  | _ => exact unconcerned id (fun _ => rfl) id

end ClientVerb

/-! ## Histories -/

/-- What a client did so far: its calls with their outcomes, the schemas that it keeps, and the
state of the engine. -/
structure ClientPast (σ : Type) where
  calls : List (ClientVerb × Except Failure Value)
  schemas : SchemaCatalog
  state : σ

namespace ClientPast

variable {σ : Type}

def start (schemas : SchemaCatalog) (state : σ) : ClientPast σ := { calls := [], schemas, state }

variable (settings : ClientSettings) (answers : Answers σ)

/-- What a verb comes to. -/
def outcome (past : ClientPast σ) (verb : ClientVerb) : Except Failure Value :=
  (run answers (verb.perform settings) past.schemas past.state).1.1

def next (past : ClientPast σ) (verb : ClientVerb) : ClientPast σ :=
  let ended := run answers (verb.perform settings) past.schemas past.state
  { calls := past.calls ++ [(verb, ended.1.1)], schemas := ended.1.2, state := ended.2 }

def after (past : ClientPast σ) (verbs : List ClientVerb) : ClientPast σ :=
  verbs.foldl (next settings answers) past

/-- What the last successful call that concerns the schema of a collection made of it. -/
def lastGiven? (library : SchemaLibrary) (past : ClientPast σ) (collection : String) :
    Option (Option Validator) :=
  past.calls.reverse.findSome? fun call =>
    match call.2 with
    | .ok _ => call.1.gives? library collection
    | .error _ => none

/-- If a verb fails, every collection has the schema that it had before. -/
def KeepsOnFailure (past : ClientPast σ) (verb : ClientVerb) : Prop :=
  ∀ failure, past.outcome settings answers verb = .error failure → ∀ collection : String,
    (past.next settings answers verb).schemas.get? collection = past.schemas.get? collection

/-- Every collection has the schema of its last successful call, or else the one that it had at
the start. -/
def FollowsSuccesses (library : SchemaLibrary) (initial : SchemaCatalog)
    (past : ClientPast σ) : Prop :=
  ∀ collection : String, past.schemas.get? collection =
    (past.lastGiven? library collection).getD (initial.get? collection)

variable {settings answers} {past : ClientPast σ} {verb : ClientVerb}

theorem after_append (past : ClientPast σ) (verbs : List ClientVerb) (verb : ClientVerb) :
    past.after settings answers (verbs ++ [verb]) =
      (past.after settings answers verbs).next settings answers verb := by
  unfold after
  rw [List.foldl_append]
  rfl

theorem lastGiven?_next (collection : String) :
    (past.next settings answers verb).lastGiven? settings.schemas collection =
      (match past.outcome settings answers verb with
        | .ok _ => verb.gives? settings.schemas collection
        | .error _ => none).or (past.lastGiven? settings.schemas collection) := by
  unfold lastGiven? next outcome
  dsimp only
  rw [List.reverse_append]
  change List.findSome? _ (_ :: _) = _
  rw [List.findSome?_cons]
  split <;> simp_all

theorem keepsOnFailure_iff :
    past.KeepsOnFailure settings answers verb ↔
      ¬verb.IsPremature settings.schemas answers past.schemas past.state := by
  have ends : verb.Ends settings.schemas answers past.schemas past.state
      (run answers (verb.perform settings) past.schemas past.state).1 := verb.ends_perform settings
  unfold KeepsOnFailure outcome next
  revert ends
  rcases run answers (verb.perform settings) past.schemas past.state with
    ⟨⟨failure | result, after⟩, reached⟩
  · intro ends
    exact ⟨fun keeps => ends.mp (keeps failure rfl), fun mature _ _ => ends.mpr mature⟩
  · rintro ⟨mature, _⟩
    exact iff_of_true nofun mature

/-- The schema of a collection whose table was refused stays. -/
theorem get?_next_of_isPremature {collection : String} {schema : Value}
    (premature : (ClientVerb.createCollection collection schema).IsPremature settings.schemas
      answers past.schemas past.state) :
    (past.next settings answers (.createCollection collection schema)).schemas.get? collection =
      some (settings.schemas.validator schema) := by
  obtain ⟨notNull, wellFormed, _, failure, refused⟩ := premature
  obtain ⟨changed, kept⟩ :
      ∃ changed, past.schemas.register settings.schemas collection schema = .ok changed :=
    ⟨_, SchemaCatalog.register_eq_ok_iff.mpr ⟨wellFormed, rfl⟩⟩
  change (run answers (Action.answering Collection.toValue
    (Client.createCollection settings collection schema)) past.schemas past.state).1.2.get? _ = _
  rw [ClientVerb.run_answering, ClientVerb.run_createCollection, notNull]
  dsimp only [Bool.false_eq_true, if_false]
  rw [kept]
  have entry := (SchemaCatalog.get?_register kept collection).trans (if_pos rfl)
  rcases answers (.createTable collection) past.state with ⟨_ | _, later⟩ <;> exact entry

/-- One more call goes on in this way if it is not premature. -/
theorem followsSuccesses_next_iff {initial : SchemaCatalog}
    (follows : past.FollowsSuccesses settings.schemas initial) :
    (past.next settings answers verb).FollowsSuccesses settings.schemas initial ↔
      ¬verb.IsPremature settings.schemas answers past.schemas past.state := by
  have ends : verb.Ends settings.schemas answers past.schemas past.state
      (run answers (verb.perform settings) past.schemas past.state).1 := verb.ends_perform settings
  unfold FollowsSuccesses
  simp only [lastGiven?_next]
  unfold outcome next
  revert ends
  rcases run answers (verb.perform settings) past.schemas past.state with
    ⟨⟨failure | result, after⟩, reached⟩
  · intro ends
    refine Iff.trans (forall_congr' fun collection => ?_) ends
    dsimp only
    rw [Option.none_or, ← follows]
  · rintro ⟨mature, given⟩
    refine iff_of_true ?_ mature
    intro collection
    dsimp only
    rw [given, follows]
    cases verb.gives? settings.schemas collection <;> rfl

end ClientPast

/-- In every history of a client, a call that fails changes no schema, and after every part of
it each collection has the schema of its last successful call.  Both hold exactly if the
engine refuses no table whose collection was to get a schema that it did not have. -/
theorem schemas_follow_successes_iff {σ : Type} (settings : ClientSettings)
    (answers : Answers σ) (schemas : SchemaCatalog) (state : σ) (verbs : List ClientVerb) :
    let reached := fun former => (ClientPast.start schemas state).after settings answers former
    let mature := ∀ former verb, former ++ [verb] <+: verbs →
      ¬verb.IsPremature settings.schemas answers (reached former).schemas (reached former).state
    ((∀ former verb, former ++ [verb] <+: verbs →
        (reached former).KeepsOnFailure settings answers verb) ↔ mature) ∧
      ((∀ former, former <+: verbs →
          (reached former).FollowsSuccesses settings.schemas schemas) ↔ mature) := by
  intro reached mature
  constructor
  · simp only [mature, ClientPast.keepsOnFailure_iff]
  · constructor
    · intro follows former verb isPart
      have before := follows former ((List.prefix_append former [verb]).trans isPart)
      have afterwards := follows (former ++ [verb]) isPart
      rw [show reached (former ++ [verb]) = _ from ClientPast.after_append ..] at afterwards
      exact (ClientPast.followsSuccesses_next_iff before).mp afterwards
    · intro isMature former
      induction former using List.reverseRecOn with
      | nil =>
          intro _ collection
          rfl
      | append_singleton former verb ih =>
          intro isPart
          have before := ih ((List.prefix_append former [verb]).trans isPart)
          rw [show reached (former ++ [verb]) = _ from ClientPast.after_append ..]
          exact (ClientPast.followsSuccesses_next_iff before).mpr (isMature former verb isPart)

/-- The table of a new collection is refused, and its schema stays. -/
theorem refused_collection_keeps_schema :
    let schema : Value := .object [("properties", .object [("email", .bool false)])]
    let answers := onAdapter (Savepoint.refusing (Statement.createTable .postgres "users").sql)
      Transaction.plainSettings
    let settings : ClientSettings := { dialect := .postgres, strict := true }
    let past := ClientPast.start [] ([], ())
    let verb := ClientVerb.createCollection "users" schema
    (∃ failure, past.outcome settings answers verb = .error failure) ∧
      (past.next settings answers verb).schemas.get? "users" =
        some (settings.schemas.validator schema) ∧
      ¬past.KeepsOnFailure settings answers verb := by
  intro schema answers settings past verb
  have wellFormed : settings.schemas.review schema = [] := by decide +kernel
  have premature : verb.IsPremature settings.schemas answers past.schemas past.state :=
    ⟨rfl, wellFormed, nofun, _, rfl⟩
  have loses : ¬past.KeepsOnFailure settings answers verb :=
    fun keeps => ClientPast.keepsOnFailure_iff.mp keeps premature
  refine ⟨?_, ClientPast.get?_next_of_isPremature premature, loses⟩
  by_contra succeeds
  exact loses fun failure failed => absurd ⟨failure, failed⟩ succeeds

end DocStore
