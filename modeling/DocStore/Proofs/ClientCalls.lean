import DocStore.Client.Verb
import DocStore.Proofs.Insertion
import DocStore.Proofs.Surroundings
import DocStore.Proofs.WrittenDocuments

/-!
# What the verbs of the client write

A verb writes documents that it was given and prepared, documents that it read and
revised, and documents that an update made from the equalities of a filter.  The
schema of the collection accepts each of them before the statement that writes it is
asked for, and the verbs that write leave the schemas as they are.
-/

namespace DocStore

namespace Client

/-- A document as an insertion prepares it: with its own id or a generated one. -/
inductive Prepares (document : Value) (prepared : Members) : Prop where
  | kept (taken : document.toMembers = .ok prepared)
      (identified : (idOf prepared).isNull = false)
  | named {members : Members} {id : String} (taken : document.toMembers = .ok members)
      (missing : (idOf members).isNull = true)
      (isNamed : prepared = members.set idField (.text id))

/-- An update makes a document from another one. -/
def Applies (settings : ClientSettings) (change : Value) (document revised : Members) : Prop :=
  ∃ log, (Update.apply settings.strict (.object document) change).Returns [] revised log

/-- An update makes a document from the equalities of a filter. -/
def Seeds (settings : ClientSettings) (filter change : Value) (seed : Members) : Prop :=
  ∃ equalities, Document.equalityFields filter = .ok equalities ∧
    Applies settings change equalities seed

end Client

open Client ClientAction

namespace ClientVerb

/-- The documents that a verb may insert into a collection. -/
inductive Inserts (settings : ClientSettings) : ClientVerb → String → Members → Prop where
  | insertOne {collection : String} {document : Value} {session : Option SessionId}
      {prepared : Members} (prepares : Prepares document prepared) :
      Inserts settings (.insertOne collection document session) collection prepared
  | insertMany {collection : String} {documents item : Value} {session : Option SessionId}
      {items : List Value} {prepared : Members} (walked : documents.walk = .ok items)
      (member : item ∈ items) (prepares : Prepares item prepared) :
      Inserts settings (.insertMany collection documents session) collection prepared
  | upsertOne {collection : String} {filter change : Value} {options : UpdateOptions}
      {session : Option SessionId} {seed prepared : Members} (wanted : options.upsert = true)
      (seeds : Seeds settings filter change seed) (prepares : Prepares (.object seed) prepared) :
      Inserts settings (.updateOne collection filter change options session) collection prepared
  | upsertMany {collection : String} {filter change : Value} {options : UpdateOptions}
      {session : Option SessionId} {seed prepared : Members} (wanted : options.upsert = true)
      (seeds : Seeds settings filter change seed) (prepares : Prepares (.object seed) prepared) :
      Inserts settings (.updateMany collection filter change options session) collection prepared

inductive Changes : ClientVerb → String → Value → Prop where
  | updateOne {collection : String} {filter change : Value} {options : UpdateOptions}
      {session : Option SessionId} :
      Changes (.updateOne collection filter change options session) collection change
  | updateMany {collection : String} {filter change : Value} {options : UpdateOptions}
      {session : Option SessionId} :
      Changes (.updateMany collection filter change options session) collection change

/-- The documents that a verb may write into a collection, if it reads documents of some
kind. -/
def MayWrite (settings : ClientSettings) (reads : String → Members → Prop) (verb : ClientVerb)
    (collection : String) (document : Members) : Prop :=
  verb.Inserts settings collection document ∨
    ∃ change former, verb.Changes collection change ∧ reads collection former ∧
      Applies settings change former document

/-- The verbs that may add a document to a collection. -/
def MayInsert : ClientVerb → Prop
  | insertOne .. => True
  | insertMany .. => True
  | updateOne _ _ _ options _ => options.upsert = true
  | updateMany _ _ _ options _ => options.upsert = true
  | _ => False

def AltersTables : ClientVerb → Prop
  | dropCollection _ => True
  | alterCollection .. => True
  | _ => False

end ClientVerb

/-! ## The surroundings of the client -/

/-- A request is the compilation of its command. -/
def Request.IsCompiled (settings : ClientSettings) (request : Request) : Prop :=
  ∃ log, (request.command.compile settings).Returns [] request.statement log

def Command.IsSearch : Command → Prop
  | select .. => True
  | count .. => True
  | aggregate .. => True
  | _ => False

def Command.IsInsertion : Command → Prop
  | insert .. => True
  | _ => False

/-- The rows that a selection finds are read as documents of some kind. -/
def Request.Finds (reads : String → Members → Prop) (request : Request) (rows : List Value) :
    Prop :=
  ∀ collection filter options, request.command = .select collection filter options →
    ∀ row ∈ rows, ∀ document, readRow none row = .ok document → reads collection document

namespace StoreCall

def request? : StoreCall → Option Request
  | run request _ => some request
  | insert request .. => some request
  | _ => none

/-- A call that alters tables as a whole. -/
def AltersTables : StoreCall → Prop
  | dropTable _ => True
  | direct _ => True
  | _ => False

def Shows (reads : String → Members → Prop) : (call : StoreCall) → call.Reply → Prop
  | run request _, reply => ∀ rows, reply = .ok rows → request.Finds reads rows
  | _, _ => True

end StoreCall

/-- The documents read are of one kind, the commands asked for of another, and tables are
altered as a whole only if that is allowed. -/
def storing (settings : ClientSettings) (reads : String → Members → Prop)
    (asks : Command → Prop) (alters : Prop) : Surroundings storeInterface Unit where
  permits _ call :=
    (∀ request, call.request? = some request →
      request.IsCompiled settings ∧ asks request.command) ∧
    (call.AltersTables → alters)
  replies _ call reply _ := call.Shows reads reply

/-- An action leaves the schemas as they are, and its results meet a condition. -/
def Steady {α : Type} (around : Surroundings storeInterface Unit) (schemas : SchemaCatalog)
    (action : ClientAction α) (result : α → Prop) : Prop :=
  action.Ensures around schemas () (fun value own _ => own = schemas ∧ result value)
    fun _ own _ => own = schemas

namespace Steady

variable {around : Surroundings storeInterface Unit} {schemas : SchemaCatalog} {α β : Type}
  {action : ClientAction α} {result other : α → Prop}

theorem imp (steady : Steady around schemas action result)
    (weaker : ∀ value, result value → other value) : Steady around schemas action other := by
  apply Action.Ensures.imp steady
  · intro value own _ ended
    exact ⟨ended.1, weaker value ended.2⟩
  · intro failure own _ same
    exact same

theorem bind {next : α → ClientAction β} {last : β → Prop}
    (first : Steady around schemas action result)
    (second : ∀ value, result value → Steady around schemas (next value) last) :
    Steady around schemas (action >>= next) last := by
  unfold Steady
  rw [Action.ensures_bind]
  apply Action.Ensures.imp first
  · rintro value own _ ⟨rfl, met⟩
    exact second value met
  · intro failure own _ same
    exact same

theorem pure {value : α} (met : result value) :
    Steady around schemas (Pure.pure value) result := ⟨rfl, met⟩

theorem ofFault {outcome : Except Fault α} (met : ∀ value, outcome = .ok value → result value) :
    Steady around schemas (Action.ofFault outcome) result := by
  cases outcome with
  | ok value => exact ⟨rfl, met value rfl⟩
  | error fault => exact (rfl : schemas = schemas)

theorem ofReport {outcome : Except IssueReport α} :
    Steady around schemas (Action.ofReport outcome) fun _ => True := by
  cases outcome with
  | ok value => exact ⟨rfl, trivial⟩
  | error report => exact (rfl : schemas = schemas)

theorem ofLogged {computation : Logged α} :
    Steady around schemas (Action.ofLogged computation) fun value =>
      ∃ log, computation.Returns [] value log := by
  unfold Steady
  rw [Action.ensures_ofLogged]
  rcases ran : computation.outcome with ⟨outcome, log⟩
  cases outcome with
  | ok value => exact ⟨rfl, log, ran⟩
  | error failure => exact (rfl : schemas = schemas)

theorem report {level : LogLevel} {text : String} :
    Steady around schemas (ClientAction.report level text) fun _ => True := ⟨rfl, trivial⟩

theorem validate {collection : String} {document : Members} :
    Steady around schemas (ClientAction.validate collection document) fun _ =>
      schemas.validate collection (.object document) = .ok () := by
  unfold Steady ClientAction.validate
  rw [Action.ensures_bind, Action.ensures_get, Action.ensures_ofOutcome]
  cases validated : schemas.validate collection (.object document) with
  | ok _ => exact ⟨rfl, rfl⟩
  | error failure => exact (rfl : schemas = schemas)

theorem perform {call : StoreCall} {read : call.Reply → Except Failure α}
    (permitted : around.permits () call)
    (met : ∀ reply value, around.replies () call reply () → read reply = .ok value →
      result value) :
    Steady around schemas (Action.perform call read) result := by
  unfold Steady
  rw [Action.ensures_perform]
  refine ⟨permitted, ?_⟩
  intro reply _ replied
  cases isRead : read reply with
  | ok value => exact ⟨rfl, met reply value replied isRead⟩
  | error failure => exact (rfl : schemas = schemas)

end Steady

/-! ## The verbs that write -/

section Writing

variable {settings : ClientSettings} {reads : String → Members → Prop}
  {asks : Command → Prop} {alters : Prop} {schemas : SchemaCatalog} {collection : String}
  {session : Option SessionId}

theorem permits_of_request {call : StoreCall} {request : Request}
    (carried : call.request? = some request) (whole : ¬call.AltersTables)
    (compiled : request.IsCompiled settings) (asked : asks request.command) :
    (storing settings reads asks alters).permits () call := by
  refine ⟨?_, fun altered => absurd altered whole⟩
  intro other isOther
  cases carried.symm.trans isOther
  exact ⟨compiled, asked⟩

theorem permits_of_none {call : StoreCall} (carried : call.request? = none)
    (whole : call.AltersTables → alters) :
    (storing settings reads asks alters).permits () call := by
  refine ⟨?_, whole⟩
  intro other isOther
  cases carried.symm.trans isOther

theorem Steady.plain {α : Type} {call : StoreCall} {read : call.Reply → Except Failure α}
    (carried : call.request? = none) (whole : call.AltersTables → alters) :
    Steady (storing settings reads asks alters) schemas (Action.perform call read)
      fun _ => True :=
  Steady.perform (permits_of_none carried whole) fun _ _ _ _ => trivial

/-- A request is the compilation of its command, if it comes to be. -/
theorem ensures_request {ν : Type} {around : Surroundings storeInterface ν} {seen : ν}
    {command : Command} {returns : Request → SchemaCatalog → ν → Prop}
    {fails : Failure → SchemaCatalog → ν → Prop}
    (met : ∀ request, request.command = command → request.IsCompiled settings →
      returns request schemas seen)
    (failed : ∀ failure, fails failure schemas seen) :
    (ClientAction.request settings command).Ensures around schemas seen returns fails := by
  unfold ClientAction.request
  rw [Action.ensures_ofLogged]
  rcases requested : (command.request settings).outcome with ⟨outcome, log⟩
  cases outcome with
  | error failure => exact failed failure
  | ok request =>
      obtain ⟨statement, compiled, rfl⟩ := Command.request_returns_iff.mp requested
      exact met _ rfl ⟨log, compiled⟩

theorem Steady.request (command : Command) :
    Steady (storing settings reads asks alters) schemas (ClientAction.request settings command)
      fun request => request.command = command ∧ request.IsCompiled settings := by
  apply ensures_request
  · intro request isCommand compiled
    exact ⟨rfl, isCommand, compiled⟩
  · intro failure
    exact (rfl : schemas = schemas)

/-! ### Insertions -/

theorem steady_generateId :
    Steady (storing settings reads asks alters) schemas generateId fun _ => True := by
  apply Steady.bind (Steady.plain rfl False.elim)
  intro now _
  apply Steady.bind (Steady.plain rfl False.elim)
  intro random _
  exact Steady.pure trivial

theorem steady_withId {document : Value} {members : Members}
    (taken : document.toMembers = .ok members) :
    Steady (storing settings reads asks alters) schemas (withId members) (Prepares document) := by
  unfold withId
  split
  · rename_i missing
    apply Steady.bind steady_generateId
    intro id _
    exact Steady.pure (.named taken missing rfl)
  · rename_i identified
    exact Steady.pure (.kept taken (Bool.eq_false_iff.mpr identified))

theorem steady_prepare (document : Value) :
    Steady (storing settings reads asks alters) schemas (prepare collection document) fun prepared =>
      Prepares document prepared ∧ schemas.validate collection (.object prepared) = .ok () := by
  apply Steady.bind (Steady.ofFault fun _ taken => taken)
  intro members taken
  apply Steady.bind (steady_withId taken)
  intro prepared prepares
  apply Steady.bind Steady.validate
  intro _ accepted
  exact Steady.pure ⟨prepares, accepted⟩

theorem steady_prepareAll (documents : List Value) :
    Steady (storing settings reads asks alters) schemas (prepareAll collection documents)
      fun allPrepared => ∀ prepared ∈ allPrepared, ∃ document ∈ documents,
        Prepares document prepared ∧ schemas.validate collection (.object prepared) = .ok () := by
  induction documents with
  | nil => exact Steady.pure (by simp)
  | cons document documents ih =>
      apply Steady.bind (steady_prepare document)
      intro first firstPrepared
      apply Steady.bind ih
      intro others othersPrepared
      apply Steady.pure
      intro prepared member
      rcases List.mem_cons.mp member with rfl | later
      · exact ⟨document, List.mem_cons_self, firstPrepared⟩
      · obtain ⟨source, isSource, isPrepared⟩ := othersPrepared prepared later
        exact ⟨source, List.mem_cons_of_mem _ isSource, isPrepared⟩

theorem steady_ensureCollection :
    Steady (storing settings reads asks alters) schemas (ensureCollection collection)
      fun _ => True := by
  apply Steady.bind (Steady.plain rfl False.elim)
  intro found _
  cases found with
  | true => exact Steady.pure trivial
  | false =>
      apply Steady.bind Steady.report
      intro _ _
      exact Steady.plain rfl False.elim

theorem steady_insertPrepared {documents : List Members}
    (asked : asks (.insert collection documents)) :
    Steady (storing settings reads asks alters) schemas
      (insertPrepared settings collection documents session) fun _ => True := by
  apply Steady.bind steady_ensureCollection
  intro _ _
  apply Steady.bind (Steady.request _)
  rintro request ⟨isInsert, compiled⟩
  refine Steady.perform (permits_of_request rfl id compiled ?_) fun _ _ _ _ => trivial
  rw [isInsert]
  exact asked

theorem steady_insertOne {document : Value}
    (asked : ∀ prepared, Prepares document prepared →
      schemas.validate collection (.object prepared) = .ok () →
        asks (.insert collection [prepared])) :
    Steady (storing settings reads asks alters) schemas
      (insertOne settings collection document session) fun _ => True := by
  apply Steady.bind (steady_prepare document)
  rintro prepared ⟨prepares, accepted⟩
  apply Steady.bind (steady_insertPrepared (asked prepared prepares accepted))
  intro rowIds _
  exact Steady.ofReport

theorem steady_insertMany {documents : Value}
    (asked : ∀ items, documents.walk = .ok items → ∀ inserted : List Members,
      (∀ prepared ∈ inserted, ∃ item ∈ items, Prepares item prepared ∧
        schemas.validate collection (.object prepared) = .ok ()) →
        asks (.insert collection inserted)) :
    Steady (storing settings reads asks alters) schemas
      (insertMany settings collection documents session) fun _ => True := by
  unfold insertMany
  split
  · exact Steady.pure trivial
  · apply Steady.bind (Steady.ofFault fun _ walked => walked)
    intro items walked
    apply Steady.bind (steady_prepareAll items)
    intro inserted allPrepared
    apply Steady.bind (steady_insertPrepared (asked items walked inserted allPrepared))
    intro rowIds _
    exact Steady.ofReport

/-! ### Updates and deletions -/

theorem steady_updated {document : Members} {change : Value} :
    Steady (storing settings reads asks alters) schemas (updated settings (.object document) change)
      (Applies settings change document) :=
  Steady.ofLogged

theorem steady_rowsOf {request : Request} (compiled : request.IsCompiled settings)
    (asked : asks request.command) :
    Steady (storing settings reads asks alters) schemas (rowsOf request session) fun rows =>
      request.Finds reads rows :=
  Steady.perform (permits_of_request rfl id compiled asked)
    fun _ rows shows returned => shows rows returned

theorem steady_rowsOf_request {α : Type} {command : Command} {result : α → Prop}
    {next : Request → List Value → ClientAction α} (asked : asks command)
    (continues : ∀ request rows, request.command = command → request.Finds reads rows →
      Steady (storing settings reads asks alters) schemas (next request rows) result) :
    Steady (storing settings reads asks alters) schemas
      (do
        let request ← ClientAction.request settings command
        let rows ← rowsOf request session
        next request rows) result := by
  apply Steady.bind (Steady.request _)
  rintro request ⟨isCommand, compiled⟩
  apply Steady.bind (steady_rowsOf compiled (isCommand ▸ asked))
  intro rows finds
  exact continues request rows isCommand finds

theorem steady_revise {change id : Value} {document : Members}
    (asked : ∀ revised, Applies settings change document revised →
      schemas.validate collection (.object revised) = .ok () →
        asks (.update collection id revised)) :
    Steady (storing settings reads asks alters) schemas
      (revise settings collection change session id document) fun _ => True := by
  apply Steady.bind steady_updated
  intro revised applies
  apply Steady.bind Steady.validate
  intro _ accepted
  apply steady_rowsOf_request (asked revised applies accepted)
  intro request rows _ _
  exact Steady.pure trivial

theorem steady_remove {id : Value} {document : Members} (asked : asks (.delete collection id)) :
    Steady (storing settings reads asks alters) schemas
      (remove settings collection session id document) fun _ => True := by
  apply steady_rowsOf_request asked
  intro request rows _ _
  exact Steady.pure trivial

theorem steady_writeEach {write : Value → Members → ClientAction Unit} {documents : List Members}
    (each : ∀ document ∈ documents,
      Steady (storing settings reads asks alters) schemas (write (idOf document) document)
        fun _ => True) :
    Steady (storing settings reads asks alters) schemas (writeEach collection write documents)
      fun _ => True := by
  induction documents with
  | nil => exact Steady.pure trivial
  | cons document documents ih =>
      obtain ⟨first, others⟩ := List.forall_mem_cons.mp each
      rw [writeEach]
      split
      · apply Steady.bind Steady.report
        intro _ _
        exact ih others
      · apply Steady.bind first
        intro _ _
        apply Steady.bind (ih others)
        intro count _
        exact Steady.pure trivial

section Searching

variable (searches : ∀ command : Command, command.IsSearch → asks command)

include searches

theorem steady_find {filter : Value} {options : FindOptions} :
    Steady (storing settings reads asks alters) schemas
      (find settings collection filter options session) fun documents =>
        options.projection = none → ∀ document ∈ documents, reads collection document := by
  apply Steady.bind (Steady.plain rfl False.elim)
  intro found _
  cases found with
  | false => exact Steady.pure (by simp)
  | true =>
      apply steady_rowsOf_request (searches (.select collection filter options) trivial)
      intro request rows isSelect finds
      apply Steady.ofFault
      intro documents read whole document member
      rw [whole] at read
      obtain ⟨row, isRow, isRead⟩ := Except.exists_of_mem_mapM read document member
      exact finds collection filter options isSelect row isRow document isRead

theorem steady_matching {filter : Value} {limit : Option Nat} :
    Steady (storing settings reads asks alters) schemas
      (matching settings collection filter limit session) fun documents =>
        ∀ document ∈ documents, reads collection document := by
  apply Steady.bind (Steady.plain rfl False.elim)
  intro found _
  cases found with
  | false => exact Steady.pure (by simp)
  | true => exact (steady_find searches).imp fun _ read => read rfl

omit searches in
theorem steady_upsert {filter change : Value}
    (asked : ∀ seed, Seeds settings filter change seed → ∀ prepared,
      Prepares (.object seed) prepared →
        schemas.validate collection (.object prepared) = .ok () →
          asks (.insert collection [prepared])) :
    Steady (storing settings reads asks alters) schemas
      (upsert settings collection filter change session) fun _ => True := by
  apply Steady.bind (Steady.ofFault fun _ isEqualities => isEqualities)
  intro equalities isEqualities
  apply Steady.bind steady_updated
  intro seed applies
  apply Steady.bind (steady_insertOne (asked seed ⟨equalities, isEqualities, applies⟩))
  intro inserted _
  exact Steady.pure trivial

theorem steady_update {filter change : Value} {options : UpdateOptions} {limit : Option Nat}
    (revised : ∀ document, reads collection document → ∀ revised,
      Applies settings change document revised →
        schemas.validate collection (.object revised) = .ok () →
          asks (.update collection (idOf document) revised))
    (seeded : options.upsert = true → ∀ seed, Seeds settings filter change seed → ∀ prepared,
      Prepares (.object seed) prepared →
        schemas.validate collection (.object prepared) = .ok () →
          asks (.insert collection [prepared])) :
    Steady (storing settings reads asks alters) schemas
      (update settings collection filter change options limit session) fun _ => True := by
  apply Steady.bind (steady_matching searches)
  intro documents read
  cases documents with
  | nil =>
      dsimp only
      split
      · rename_i wanted
        exact steady_upsert (seeded wanted)
      · exact Steady.pure trivial
  | cons document documents =>
      refine Steady.bind (steady_writeEach ?_) fun _ _ => Steady.pure trivial
      intro document member
      exact steady_revise (revised document (read document member))

theorem steady_delete {filter : Value} {limit : Option Nat}
    (removed : ∀ id, asks (.delete collection id)) :
    Steady (storing settings reads asks alters) schemas
      (delete settings collection filter limit session) fun _ => True := by
  apply Steady.bind (steady_matching searches)
  intro documents _
  refine Steady.bind (steady_writeEach ?_) fun _ _ => Steady.pure trivial
  intro document _
  exact steady_remove (removed _)

/-! ### Searches -/

theorem steady_countDocuments {filter : Value} :
    Steady (storing settings reads asks alters) schemas
      (countDocuments settings collection filter session) fun _ => True := by
  apply Steady.bind (Steady.plain rfl False.elim)
  intro found _
  cases found with
  | false => exact Steady.pure trivial
  | true =>
      apply steady_rowsOf_request (searches (.count collection filter) trivial)
      intro request rows _ _
      exact Steady.ofFault fun _ _ => trivial

theorem steady_aggregate {pipeline : Value} :
    Steady (storing settings reads asks alters) schemas
      (aggregate settings collection pipeline session) fun _ => True := by
  apply Steady.bind (Steady.plain rfl False.elim)
  intro found _
  cases found with
  | false => exact Steady.pure trivial
  | true =>
      apply Steady.bind Steady.ofLogged
      rintro plan ⟨log, planned⟩
      have compiled : Request.IsCompiled settings
          { command := .aggregate collection pipeline, statement := plan.statement } :=
        ⟨log, Logged.returns_bind.mpr ⟨plan, log, planned, Logged.returns_pure.mpr ⟨rfl, rfl⟩⟩⟩
      refine Steady.bind (steady_rowsOf compiled (searches _ trivial)) fun rows _ =>
        Steady.ofFault fun _ _ => trivial

theorem steady_findOne {filter : Value} {options : FindOptions} :
    Steady (storing settings reads asks alters) schemas
      (findOne settings collection filter options session) fun _ => True := by
  apply Steady.bind (steady_find searches)
  intro documents _
  exact Steady.pure trivial

theorem steady_findPage {filter : Value} {options : CursorOptions} :
    Steady (storing settings reads asks alters) schemas
      (findPage settings collection filter options session) fun _ => True := by
  apply Steady.bind (steady_find searches)
  intro documents _
  dsimp only
  split
  · apply Steady.bind (steady_countDocuments searches)
    intro count _
    rw [pure_bind]
    exact Steady.ofReport
  · rw [pure_bind]
    exact Steady.ofReport

end Searching

theorem steady_createIndex {keys : Value} {options : IndexOptions} :
    Steady (storing settings reads asks alters) schemas
      (Client.createIndex collection keys options) fun _ => True := by
  apply Steady.bind (Steady.ofFault fun _ _ => trivial)
  intro members _
  exact Steady.plain rfl False.elim

theorem steady_alterCollection {sql : String} (allowed : alters) :
    Steady (storing settings reads asks alters) schemas (alterCollection collection sql)
      fun _ => True := by
  apply Steady.bind Steady.report
  intro _ _
  exact Steady.plain rfl fun _ => allowed

theorem steady_hasSchema :
    Steady (storing settings reads asks alters) schemas (hasSchema collection) fun _ => True :=
  ⟨rfl, trivial⟩

theorem steady_answering {α : Type} {toValue : α → Value} {action : ClientAction α}
    (steady : Steady (storing settings reads asks alters) schemas action fun _ => True) :
    Steady (storing settings reads asks alters) schemas (Action.answering toValue action)
      fun _ => True := by
  apply Steady.bind steady
  intro value _
  exact Steady.pure trivial

end Writing

/-! ## The verbs that change the schemas -/

/-- An action asks for what is permitted, whatever the schemas are and become. -/
def Permitted {α : Type} (around : Surroundings storeInterface Unit) (action : ClientAction α) :
    Prop :=
  ∀ schemas, action.Ensures around schemas () (fun _ _ _ => True) fun _ _ _ => True

section Permitted

variable {settings : ClientSettings} {reads : String → Members → Prop}
  {asks : Command → Prop} {alters : Prop} {collection : String}

theorem Permitted.bind {α β : Type} {around : Surroundings storeInterface Unit}
    {action : ClientAction α} {next : α → ClientAction β} (first : Permitted around action)
    (second : ∀ value, Permitted around (next value)) : Permitted around (action >>= next) := by
  intro schemas
  rw [Action.ensures_bind]
  apply Action.Ensures.imp (first schemas)
  · intro value own _ _
    exact second value own
  · intro failure own _ _
    trivial

theorem Permitted.of_steady {α : Type} {around : Surroundings storeInterface Unit}
    {action : ClientAction α}
    (steady : ∀ schemas, Steady around schemas action fun _ => True) : Permitted around action := by
  intro schemas
  apply Action.Ensures.imp (steady schemas)
  · intro value own _ _
    trivial
  · intro failure own _ _
    trivial

theorem Permitted.ofOutcome {α : Type} {around : Surroundings storeInterface Unit}
    {outcome : Except Failure α} : Permitted around (Action.ofOutcome outcome) := by
  intro schemas
  cases outcome <;> exact trivial

theorem permitted_registerSchema {around : Surroundings storeInterface Unit} {schema : Value} :
    Permitted around (registerSchema settings collection schema) := by
  refine Permitted.bind (fun _ => trivial) ?_
  intro catalog
  refine Permitted.bind Permitted.ofOutcome ?_
  intro changed _
  trivial

theorem permitted_registerInferredSchema {around : Surroundings storeInterface Unit}
    {document : Value} :
    Permitted around (registerInferredSchema settings collection document) := by
  refine Permitted.bind (fun _ => trivial) ?_
  intro catalog
  refine Permitted.bind Permitted.ofOutcome ?_
  intro changed _
  trivial

theorem permitted_createCollection {schema : Value} :
    Permitted (storing settings reads asks alters)
      (createCollection settings collection schema) := by
  have created : Permitted (storing settings reads asks alters) (do
      createTable collection
      report .info ("Created collection '" ++ collection ++ "'")
      pure ({ name := collection } : Collection)) := by
    apply Permitted.of_steady
    intro schemas
    apply Steady.bind (Steady.plain rfl False.elim)
    intro _ _
    apply Steady.bind Steady.report
    intro _ _
    exact Steady.pure trivial
  unfold createCollection
  dsimp only
  split
  · exact Permitted.bind permitted_registerSchema fun _ => created
  · exact created

theorem permitted_dropCollection (allowed : alters) :
    Permitted (storing settings reads asks alters) (dropCollection collection) := by
  apply Permitted.bind (Permitted.of_steady fun _ => Steady.plain rfl fun _ => allowed)
  intro _
  refine Permitted.bind ?_ ?_
  · intro _
    trivial
  · intro _ _
    trivial

theorem permitted_answering {α : Type} {around : Surroundings storeInterface Unit}
    {toValue : α → Value} {action : ClientAction α} (permitted : Permitted around action) :
    Permitted around (Action.answering toValue action) := by
  apply Permitted.bind permitted
  intro value _
  trivial

end Permitted

/-! ## All verbs -/

namespace ClientVerb

def ChangesSchemas : ClientVerb → Prop
  | createCollection .. => True
  | dropCollection _ => True
  | registerSchema .. => True
  | registerInferredSchema .. => True
  | _ => False

/-- The documents that a verb may write and that the schemas accept. -/
def MayStore (settings : ClientSettings) (reads : String → Members → Prop)
    (schemas : SchemaCatalog) (verb : ClientVerb) (collection : String) (document : Members) :
    Prop :=
  verb.MayWrite settings reads collection document ∧
    schemas.validate collection (.object document) = .ok ()

structure MayAsk (settings : ClientSettings) (reads : String → Members → Prop)
    (schemas : SchemaCatalog) (verb : ClientVerb) (command : Command) : Prop where
  stores : ∀ collection document, command.Stores collection document →
    verb.MayStore settings reads schemas collection document
  inserts : command.IsInsertion → verb.MayInsert

variable {settings : ClientSettings} {reads : String → Members → Prop}
  {schemas : SchemaCatalog} {verb : ClientVerb} {collection : String}

theorem Inserts.mayInsert {document : Members}
    (inserts : verb.Inserts settings collection document) : verb.MayInsert := by
  cases inserts with
  | insertOne _ => exact trivial
  | insertMany _ _ _ => exact trivial
  | upsertOne wanted _ _ => exact wanted
  | upsertMany wanted _ _ => exact wanted

theorem mayAsk_search (command : Command) (isSearch : command.IsSearch) :
    verb.MayAsk settings reads schemas command := by
  cases command with
  | insert collection documents => exact isSearch.elim
  | update collection id document => exact isSearch.elim
  | delete collection id => exact isSearch.elim
  | _ => exact ⟨fun _ _ => False.elim, False.elim⟩

theorem mayAsk_delete (collection : String) (id : Value) :
    verb.MayAsk settings reads schemas (.delete collection id) :=
  ⟨fun _ _ => False.elim, False.elim⟩

theorem mayAsk_insert {documents : List Members} (mayInsert : verb.MayInsert)
    (inserts : ∀ document ∈ documents, verb.Inserts settings collection document ∧
      schemas.validate collection (.object document) = .ok ()) :
    verb.MayAsk settings reads schemas (.insert collection documents) := by
  refine ⟨?_, fun _ => mayInsert⟩
  rintro _ document ⟨rfl, member⟩
  obtain ⟨inserts, accepted⟩ := inserts document member
  exact ⟨.inl inserts, accepted⟩

theorem mayAsk_insert_one {document : Members}
    (inserts : verb.Inserts settings collection document)
    (accepted : schemas.validate collection (.object document) = .ok ()) :
    verb.MayAsk settings reads schemas (.insert collection [document]) := by
  apply mayAsk_insert inserts.mayInsert
  exact List.forall_mem_singleton.mpr ⟨inserts, accepted⟩

theorem mayAsk_update {change id : Value} {document revised : Members}
    (changes : verb.Changes collection change) (read : reads collection document)
    (applies : Applies settings change document revised)
    (accepted : schemas.validate collection (.object revised) = .ok ()) :
    verb.MayAsk settings reads schemas (.update collection id revised) := by
  refine ⟨?_, False.elim⟩
  rintro _ _ ⟨rfl, rfl⟩
  exact ⟨.inr ⟨change, document, changes, read, applies⟩, accepted⟩

theorem steady_perform (keeps : ¬verb.ChangesSchemas) :
    Steady (storing settings reads (verb.MayAsk settings reads schemas) verb.AltersTables)
      schemas (verb.perform settings) fun _ => True := by
  cases verb with
  | createCollection collection schema => exact absurd trivial keeps
  | dropCollection collection => exact absurd trivial keeps
  | registerSchema collection schema => exact absurd trivial keeps
  | registerInferredSchema collection document => exact absurd trivial keeps
  | listCollections => exact steady_answering (Steady.plain rfl False.elim)
  | alterCollection collection sql => exact steady_answering (steady_alterCollection trivial)
  | hasSchema collection => exact steady_answering steady_hasSchema
  | insertOne collection document session =>
      apply steady_answering
      apply steady_insertOne
      intro prepared prepares accepted
      exact mayAsk_insert_one (.insertOne prepares) accepted
  | insertMany collection documents session =>
      apply steady_answering
      apply steady_insertMany
      intro items walked inserted allPrepared
      have mayInsert : (insertMany collection documents session).MayInsert := trivial
      apply mayAsk_insert mayInsert
      intro prepared member
      obtain ⟨item, isItem, prepares, accepted⟩ := allPrepared prepared member
      exact ⟨.insertMany walked isItem prepares, accepted⟩
  | find collection filter options session =>
      exact steady_answering ((steady_find mayAsk_search).imp fun _ _ => trivial)
  | findOne collection filter options session =>
      exact steady_answering (steady_findOne mayAsk_search)
  | findPage collection filter options session =>
      exact steady_answering (steady_findPage mayAsk_search)
  | countDocuments collection filter session =>
      exact steady_answering (steady_countDocuments mayAsk_search)
  | aggregate collection pipeline session =>
      exact steady_answering (steady_aggregate mayAsk_search)
  | updateOne collection filter change options session =>
      apply steady_answering
      apply steady_update mayAsk_search
      · intro document read revised applies accepted
        exact mayAsk_update .updateOne read applies accepted
      · intro wanted seed seeds prepared prepares accepted
        exact mayAsk_insert_one (.upsertOne wanted seeds prepares) accepted
  | updateMany collection filter change options session =>
      apply steady_answering
      apply steady_update mayAsk_search
      · intro document read revised applies accepted
        exact mayAsk_update .updateMany read applies accepted
      · intro wanted seed seeds prepared prepares accepted
        exact mayAsk_insert_one (.upsertMany wanted seeds prepares) accepted
  | deleteOne collection filter session =>
      exact steady_answering (steady_delete mayAsk_search (mayAsk_delete collection))
  | deleteMany collection filter session =>
      exact steady_answering (steady_delete mayAsk_search (mayAsk_delete collection))
  | createIndex collection keys options => exact steady_answering steady_createIndex
  | dropIndex collection name => exact steady_answering (Steady.plain rfl False.elim)
  | listIndexes collection => exact steady_answering (Steady.plain rfl False.elim)

/-- A verb asks only for what it may.  Verbs that do not change the schemas leave them as
they are. -/
theorem ensures_perform :
    (verb.perform settings).Ensures
      (storing settings reads (verb.MayAsk settings reads schemas) verb.AltersTables) schemas ()
      (fun _ own _ => ¬verb.ChangesSchemas → own = schemas)
      fun _ own _ => ¬verb.ChangesSchemas → own = schemas := by
  by_cases changes : verb.ChangesSchemas
  · have permitted : Permitted
        (storing settings reads (verb.MayAsk settings reads schemas) verb.AltersTables)
        (verb.perform settings) := by
      cases verb with
      | createCollection collection schema =>
          exact permitted_answering permitted_createCollection
      | dropCollection collection => exact permitted_answering (permitted_dropCollection trivial)
      | registerSchema collection schema => exact permitted_answering permitted_registerSchema
      | registerInferredSchema collection document =>
          exact permitted_answering permitted_registerInferredSchema
      | _ => exact changes.elim
    apply Action.Ensures.imp (permitted schemas)
    · intro _ own _ _ keeps
      exact absurd changes keeps
    · intro _ own _ _ keeps
      exact absurd changes keeps
  · apply Action.Ensures.imp (steady_perform changes)
    · intro _ own _ ended _
      exact ended.1
    · intro _ own _ same _
      exact same

theorem MayWrite.keepsSchemas {document : Members}
    (mayWrite : verb.MayWrite settings reads collection document) : ¬verb.ChangesSchemas := by
  rcases mayWrite with inserts | ⟨change, former, changes, _⟩
  · cases inserts <;> exact id
  · cases changes <;> exact id

end ClientVerb

end DocStore
