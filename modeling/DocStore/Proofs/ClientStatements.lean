import DocStore.Client.Verb
import DocStore.Proofs.EngineCalls

/-!
# What verbs in a session ask for

A verb in a session asks for statements in that session, for the time and for randomness,
and it looks the table of its collection up, which may be created on the way.  A verb looks
it up before anything else; only an insertion prepares its documents first.
-/

namespace DocStore

/-- The calls of a verb on a collection in a session. -/
inductive StoreCall.Serves (collection : String) (session : SessionId) : StoreCall → Prop where
  | tableExists : Serves collection session (.tableExists collection)
  | createTable : Serves collection session (.createTable collection)
  | run (request : Request) : Serves collection session (.run request (some session))
  | insert (request : Request) (count : Nat) :
      Serves collection session (.insert request count (some session))
  | seconds : Serves collection session .seconds
  | randomBytes (count : Nat) : Serves collection session (.randomBytes count)

/-- The calls that prepare documents. -/
inductive StoreCall.Prepares : StoreCall → Prop where
  | seconds : Prepares .seconds
  | randomBytes (count : Nat) : Prepares (.randomBytes count)

namespace Client

open Action ClientAction

variable {asked : StoreCall → Prop} {settings : ClientSettings} {collection : String}
  {session : SessionId}

theorem silent_validate {document : Members} : Silent (validate collection document) := by
  intro ν around goal own seen met
  unfold validate Reaches
  rw [ensures_bind, ensures_get, ensures_ofOutcome]
  cases own.validate collection (.object document) with
  | ok _ => exact met
  | error failure => exact met

/-! ## Preparing documents -/

section

variable (prepares : ∀ call, StoreCall.Prepares call → asked call)
include prepares

theorem asks_generateId : Asks asked generateId := by
  apply Asks.bind (asks_perform (prepares _ .seconds))
  intro now
  apply Asks.bind (asks_perform (prepares _ (.randomBytes _)))
  intro random
  exact silent_pure.asks

theorem asks_withId {document : Members} : Asks asked (withId document) := by
  unfold withId
  split
  · exact (asks_generateId prepares).bind fun _ => silent_pure.asks
  · exact silent_pure.asks

theorem asks_prepare {document : Value} : Asks asked (prepare collection document) := by
  apply Asks.bind silent_ofFault.asks
  intro members
  apply Asks.bind (asks_withId prepares)
  intro prepared
  exact silent_validate.asks.bind fun _ => silent_pure.asks

theorem asks_prepareAll (documents : List Value) :
    Asks asked (prepareAll collection documents) := by
  induction documents with
  | nil => exact silent_pure.asks
  | cons document documents ih =>
      apply Asks.bind (asks_prepare prepares)
      intro prepared
      exact ih.bind fun _ => silent_pure.asks

end

/-! ## Verbs in a session -/

section

variable (serves : ∀ call, StoreCall.Serves collection session call → asked call)
include serves

theorem asks_preparing : ∀ call, StoreCall.Prepares call → asked call := by
  rintro call (_ | count)
  · exact serves _ .seconds
  · exact serves _ (.randomBytes count)

theorem asks_ensureCollection : Asks asked (ensureCollection collection) := by
  apply Asks.bind (asks_perform (serves _ .tableExists))
  intro present
  cases present with
  | true => exact silent_pure.asks
  | false => exact silent_note.asks.bind fun _ => asks_perform (serves _ .createTable)

theorem asks_insertPrepared {documents : List Members} :
    Asks asked (insertPrepared settings collection documents (some session)) := by
  apply Asks.bind (asks_ensureCollection serves)
  intro _
  apply Asks.bind silent_ofLogged.asks
  intro insertion
  exact asks_perform (serves _ (.insert insertion documents.length))

theorem asks_insertOne {document : Value} :
    Asks asked (insertOne settings collection document (some session)) := by
  apply Asks.bind (asks_prepare (asks_preparing serves))
  intro inserted
  exact (asks_insertPrepared serves).bind fun _ => silent_ofReport.asks

theorem asks_insertMany {documents : Value} :
    Asks asked (insertMany settings collection documents (some session)) := by
  unfold insertMany
  split
  · exact silent_pure.asks
  · apply Asks.bind silent_ofFault.asks
    intro items
    apply Asks.bind (asks_prepareAll (asks_preparing serves) items)
    intro inserted
    exact (asks_insertPrepared serves).bind fun _ => silent_ofReport.asks

theorem asks_find {filter : Value} {options : FindOptions} :
    Asks asked (find settings collection filter options (some session)) := by
  apply Asks.bind (asks_perform (serves _ .tableExists))
  intro present
  cases present with
  | false => exact silent_pure.asks
  | true =>
      apply Asks.bind silent_ofLogged.asks
      intro selection
      exact (asks_perform (serves _ (.run selection))).bind fun _ => silent_ofFault.asks

theorem asks_countDocuments {filter : Value} :
    Asks asked (countDocuments settings collection filter (some session)) := by
  apply Asks.bind (asks_perform (serves _ .tableExists))
  intro present
  cases present with
  | false => exact silent_pure.asks
  | true =>
      apply Asks.bind silent_ofLogged.asks
      intro counting
      exact (asks_perform (serves _ (.run counting))).bind fun _ => silent_ofFault.asks

theorem asks_aggregate {pipeline : Value} :
    Asks asked (aggregate settings collection pipeline (some session)) := by
  apply Asks.bind (asks_perform (serves _ .tableExists))
  intro present
  cases present with
  | false => exact silent_pure.asks
  | true =>
      apply Asks.bind silent_ofLogged.asks
      intro plan
      exact (asks_perform (serves _ (.run _))).bind fun _ => silent_ofFault.asks

theorem asks_findPage {filter : Value} {options : CursorOptions} :
    Asks asked (findPage settings collection filter options (some session)) := by
  apply Asks.bind (asks_find serves)
  intro documents
  dsimp only
  split
  · apply Asks.bind (asks_countDocuments serves)
    intro count
    exact silent_pure.asks.bind fun _ => silent_ofReport.asks
  · exact silent_pure.asks.bind fun _ => silent_ofReport.asks

theorem asks_matching {filter : Value} {limit : Option Nat} :
    Asks asked (matching settings collection filter limit (some session)) := by
  apply Asks.bind (asks_perform (serves _ .tableExists))
  intro present
  cases present with
  | false => exact silent_pure.asks
  | true => exact asks_find serves

omit serves in
theorem asks_writeEach {write : Value → Members → ClientAction Unit}
    (writes : ∀ id document, Asks asked (write id document)) (documents : List Members) :
    Asks asked (writeEach collection write documents) := by
  induction documents with
  | nil => exact silent_pure.asks
  | cons document documents ih =>
      unfold writeEach
      split
      · exact silent_note.asks.bind fun _ => ih
      · apply Asks.bind (writes _ document)
        intro _
        exact ih.bind fun _ => silent_pure.asks

theorem asks_revise {change id : Value} {document : Members} :
    Asks asked (revise settings collection change (some session) id document) := by
  apply Asks.bind silent_ofLogged.asks
  intro changed
  apply Asks.bind silent_validate.asks
  intro _
  apply Asks.bind silent_ofLogged.asks
  intro revision
  exact (asks_perform (serves _ (.run revision))).bind fun _ => silent_pure.asks

theorem asks_remove {id : Value} {document : Members} :
    Asks asked (remove settings collection (some session) id document) := by
  apply Asks.bind silent_ofLogged.asks
  intro removal
  exact (asks_perform (serves _ (.run removal))).bind fun _ => silent_pure.asks

theorem asks_upsert {filter change : Value} :
    Asks asked (upsert settings collection filter change (some session)) := by
  apply Asks.bind silent_ofFault.asks
  intro equalities
  apply Asks.bind silent_ofLogged.asks
  intro seed
  exact (asks_insertOne serves).bind fun _ => silent_pure.asks

theorem asks_update {filter change : Value} {options : UpdateOptions} {limit : Option Nat} :
    Asks asked (update settings collection filter change options limit (some session)) := by
  apply Asks.bind (asks_matching serves)
  intro documents
  cases documents with
  | nil =>
      dsimp only
      split
      · exact asks_upsert serves
      · exact silent_pure.asks
  | cons document documents =>
      apply Asks.bind (asks_writeEach (fun id document => asks_revise serves) _)
      intro modified
      exact silent_pure.asks

theorem asks_delete {filter : Value} {limit : Option Nat} :
    Asks asked (delete settings collection filter limit (some session)) := by
  apply Asks.bind (asks_matching serves)
  intro documents
  apply Asks.bind (asks_writeEach (fun id document => asks_remove serves) _)
  intro deleted
  exact silent_pure.asks

end

end Client

namespace ClientVerb

open Action Client

/-- The session of a verb, and the collection that it is about. -/
def session? : ClientVerb → Option (SessionId × String)
  | insertOne collection _ session => session.map (·, collection)
  | insertMany collection _ session => session.map (·, collection)
  | find collection _ _ session => session.map (·, collection)
  | findOne collection _ _ session => session.map (·, collection)
  | findPage collection _ _ session => session.map (·, collection)
  | countDocuments collection _ session => session.map (·, collection)
  | aggregate collection _ session => session.map (·, collection)
  | updateOne collection _ _ _ session => session.map (·, collection)
  | updateMany collection _ _ _ session => session.map (·, collection)
  | deleteOne collection _ session => session.map (·, collection)
  | deleteMany collection _ session => session.map (·, collection)
  | _ => none

/-- A verb in a session asks for nothing but what belongs to its session and collection. -/
theorem asks_perform {verb : ClientVerb} {session : SessionId} {collection : String}
    (inSession : verb.session? = some (session, collection)) (settings : ClientSettings) :
    Asks (StoreCall.Serves collection session) (verb.perform settings) := by
  have serves (call : StoreCall) (served : call.Serves collection session) :
      call.Serves collection session := served
  cases verb with
  | insertOne collection document given =>
      cases given <;> cases inSession
      exact (asks_insertOne serves).answering
  | insertMany collection documents given =>
      cases given <;> cases inSession
      exact (asks_insertMany serves).answering
  | find collection filter options given =>
      cases given <;> cases inSession
      exact (asks_find serves).answering
  | findOne collection filter options given =>
      cases given <;> cases inSession
      exact ((asks_find serves).bind fun _ => silent_pure.asks).answering
  | findPage collection filter options given =>
      cases given <;> cases inSession
      exact (asks_findPage serves).answering
  | countDocuments collection filter given =>
      cases given <;> cases inSession
      exact (asks_countDocuments serves).answering
  | aggregate collection pipeline given =>
      cases given <;> cases inSession
      exact (asks_aggregate serves).answering
  | updateOne collection filter change options given =>
      cases given <;> cases inSession
      exact (asks_update serves).answering
  | updateMany collection filter change options given =>
      cases given <;> cases inSession
      exact (asks_update serves).answering
  | deleteOne collection filter given =>
      cases given <;> cases inSession
      exact (asks_delete serves).answering
  | deleteMany collection filter given =>
      cases given <;> cases inSession
      exact (asks_delete serves).answering
  | _ => cases inSession

end ClientVerb

end DocStore
