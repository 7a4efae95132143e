import DocStore.Proofs.AcceptedWrites
import DocStore.Proofs.UpdateRace

/-!
# Calls that write at the same time

Whatever the order in which the statements of several calls come, a stored document is one
that was inserted, with some of the calls' updates applied to it: an update writes back the
whole of a document that it read, and what it read was such a document.  Calls that do not
insert add no rows, so a row that is gone stays away.
-/

namespace DocStore

open Client

def ClientVerb.WritesDocuments : ClientVerb → Prop
  | insertOne .. => True
  | insertMany .. => True
  | updateOne .. => True
  | updateMany .. => True
  | deleteOne .. => True
  | deleteMany .. => True
  | _ => False

theorem ClientVerb.WritesDocuments.keepsSchemas {verb : ClientVerb}
    (writing : verb.WritesDocuments) : ¬verb.ChangesSchemas := by
  cases verb <;> first | exact id | exact writing.elim

theorem ClientVerb.WritesDocuments.keepsTables {verb : ClientVerb}
    (writing : verb.WritesDocuments) : ¬verb.AltersTables := by
  cases verb <;> first | exact id | exact writing.elim

/-! ## What may be stored -/

section Untorn

variable {ι : Type} (settings : ClientSettings) (start : SharedTables) (verbs : ι → ClientVerb)
  (collection : String)

/-- The documents that were there at the start or that one of the calls inserts. -/
inductive Inserted : Members → Prop where
  | before {row : Row} (member : row ∈ start.rows collection) : Inserted row.document
  | during {index : ι} {document : Members}
      (inserts : (verbs index).Inserts settings collection document) : Inserted document

def UpdatesTo (former document : Members) : Prop :=
  ∃ index change, (verbs index).Changes collection change ∧
    Applies settings change former document

/-- An inserted document to which a finite sequence of the calls' updates was applied. -/
def Untorn (document : Members) : Prop :=
  ∃ origin, Inserted settings start verbs collection origin ∧
    Relation.ReflTransGen (UpdatesTo settings verbs collection) origin document

variable {settings start verbs collection}

theorem Untorn.of_inserted {document : Members}
    (inserted : Inserted settings start verbs collection document) :
    Untorn settings start verbs collection document :=
  ⟨document, inserted, .refl⟩

theorem Untorn.updated {former document : Members}
    (untorn : Untorn settings start verbs collection former)
    (updates : UpdatesTo settings verbs collection former document) :
    Untorn settings start verbs collection document := by
  obtain ⟨origin, inserted, applied⟩ := untorn
  exact ⟨origin, inserted, applied.tail updates⟩

theorem Untorn.textKeyed {document : Members} (keyed : ∀ index, (verbs index).IsKeyed)
    (startKeyed : ∀ name, ∀ row ∈ start.rows name, row.document.TextKeyed)
    (untorn : Untorn settings start verbs collection document) : document.TextKeyed := by
  obtain ⟨origin, inserted, applied⟩ := untorn
  have originKeyed : origin.TextKeyed := by
    cases inserted with
    | before member => exact startKeyed collection _ member
    | @during index _ inserts => exact inserts.textKeyed (keyed index)
  induction applied with
  | refl => exact originKeyed
  | tail _ updates ih =>
      obtain ⟨index, change, changes, applies⟩ := updates
      exact applies.textKeyed ih (changes.hasTextKeys (keyed index))

/-- What a call may store, if it reads untorn documents, is untorn. -/
theorem Untorn.of_mayStore {index : ι} {schemas : SchemaCatalog} {document : Members}
    (mayStore : (verbs index).MayStore settings (Untorn settings start verbs) schemas collection
      document) : Untorn settings start verbs collection document := by
  rcases mayStore.1 with inserts | ⟨change, former, changes, untorn, applies⟩
  · exact .of_inserted (.during inserts)
  · exact untorn.updated ⟨index, change, changes, applies⟩

/-- A call that reads untorn documents stores documents with text keys. -/
theorem Untorn.storesKeyed (keyed : ∀ index, (verbs index).IsKeyed)
    (startKeyed : ∀ name, ∀ row ∈ start.rows name, row.document.TextKeyed) {index : ι}
    {schemas : SchemaCatalog} (command : Command)
    (asked : (verbs index).MayAsk settings (Untorn settings start verbs) schemas command) :
    command.StoresKeyed := by
  intro name document stores
  exact (of_mayStore (asked.stores name document stores)).textKeyed keyed startKeyed

end Untorn

/-! ## Calls side by side -/

section Calls

variable {ι : Type} [DecidableEq ι] {settings : ClientSettings} {schemas : SchemaCatalog}
  {verbs : ι → ClientVerb} {start : SharedTables} {engine : DocumentEngine}

/-- Each call reads untorn documents and stores what it then may. -/
def callSurroundings (settings : ClientSettings) (schemas : SchemaCatalog)
    (verbs : ι → ClientVerb) (start : SharedTables) (index : ι) :
    Surroundings storeInterface Unit :=
  storing settings (Untorn settings start verbs)
    ((verbs index).MayAsk settings (Untorn settings start verbs) schemas)
    (verbs index).AltersTables

def AllUntorn (settings : ClientSettings) (verbs : ι → ClientVerb) (start shared : SharedTables)
    (_ : ι → Unit) : Prop :=
  ∀ name, ∀ row ∈ shared.rows name, Untorn settings start verbs name row.document

theorem keeps_allUntorn (shows : engine.ShowsKeyed)
    (writing : ∀ index, (verbs index).WritesDocuments) (keyed : ∀ index, (verbs index).IsKeyed)
    (startKeyed : ∀ name, ∀ row ∈ start.rows name, row.document.TextKeyed) :
    Concurrent.Keeps (callSurroundings settings schemas verbs start)
      (AllUntorn settings verbs start) engine.answering := by
  intro index shared _ call reply after untorn permitted answered
  refine ⟨(), ?_, ?_⟩
  · apply DocumentEngine.shows_of_answering shows _ untorn answered
    intro name row member
    exact (untorn name row member).textKeyed keyed startKeyed
  · have evolves := DocumentEngine.evolves_of_answering permitted (writing index).keepsTables
      (Untorn.storesKeyed keyed startKeyed) answered
    intro name row member
    -- a row is an old one, or was stored by this call, which read untorn documents only
    rcases evolves.documents name row member with ⟨former, isFormer, same⟩ | stored
    · rw [← same]
      exact untorn name former isFormer
    · obtain ⟨command, asked, stores⟩ := stored
      exact .of_mayStore (asked.stores name row.document stores)

theorem sound_of_runs (shows : engine.ShowsKeyed)
    (writing : ∀ index, (verbs index).WritesDocuments) (keyed : ∀ index, (verbs index).IsKeyed)
    (startKeyed : ∀ name, ∀ row ∈ start.rows name, row.document.TextKeyed) {running : Calls ι}
    (runs : Calls.Runs engine (.begin settings schemas verbs start) running) :
    running.Sound (callSurroundings settings schemas verbs start)
      (AllUntorn settings verbs start) fun _ _ _ => True := by
  refine Concurrent.Sound.reaches (keeps_allUntorn shows writing keyed startKeyed) ?_ runs
  refine ⟨fun _ => (), ?_, ?_⟩
  · intro name row member
    exact .of_inserted (.before member)
  · intro index
    apply Program.Ensures.imp (ClientVerb.steady_perform (writing index).keepsSchemas)
    intro _ _ _
    trivial

theorem evolves_of_stepOf (writing : ∀ index, (verbs index).WritesDocuments)
    (keyed : ∀ index, (verbs index).IsKeyed)
    (startKeyed : ∀ name, ∀ row ∈ start.rows name, row.document.TextKeyed)
    {before after : Calls ι} {index : ι}
    (sound : before.Sound (callSurroundings settings schemas verbs start)
      (AllUntorn settings verbs start) fun _ _ _ => True)
    (step : Concurrent.StepOf engine.answering index before after) :
    before.shared.Evolves (fun _ _ => True) (verbs index).MayInsert after.shared := by
  cases step with
  | note goesOn => exact .refl _
  | ask goesOn answered =>
      obtain ⟨_, _, permitted⟩ := sound.permits goesOn
      have evolves := DocumentEngine.evolves_of_answering permitted (writing index).keepsTables
        (Untorn.storesKeyed keyed startKeyed) answered
      refine ⟨fun _ _ _ => .inr trivial, evolves.keys, evolves.fresh, ?_⟩
      intro mayNot
      apply evolves.sublist
      rintro ⟨command, asked, isInsertion⟩
      exact mayNot (asked.inserts isInsertion)

theorem key_cases_of_runs (shows : engine.ShowsKeyed)
    (writing : ∀ index, (verbs index).WritesDocuments) (keyed : ∀ index, (verbs index).IsKeyed)
    (startKeyed : ∀ name, ∀ row ∈ start.rows name, row.document.TextKeyed)
    {running later : Calls ι}
    (runs : Calls.Runs engine (.begin settings schemas verbs start) running)
    (goesOn : Calls.Runs engine running later) :
    running.shared.fresh ≤ later.shared.fresh ∧
      ∀ name, ∀ key ∈ later.shared.keys name,
        key ∈ running.shared.keys name ∨ running.shared.fresh ≤ key := by
  induction goesOn with
  | refl => exact ⟨Nat.le_refl _, fun _ _ member => .inl member⟩
  | @tail middle last goneOn step ih =>
      obtain ⟨freshMiddle, keysMiddle⟩ := ih
      obtain ⟨index, step⟩ := step
      have sound := sound_of_runs shows writing keyed startKeyed (runs.trans goneOn)
      have evolves := evolves_of_stepOf writing keyed startKeyed sound step
      refine ⟨Nat.le_trans freshMiddle evolves.fresh, ?_⟩
      intro name key member
      rcases evolves.keys name key member with old | new
      · exact keysMiddle name key old
      · exact .inr (Nat.le_trans freshMiddle new)

end Calls

theorem Contest.textKeyed_of_reached {contest : Contest}
    (documentKeyed : contest.document.TextKeyed)
    (changeKeyed : ∀ index, (contest.change index).hasTextKeys = true) {value : Members}
    (reached : value = contest.document ∨ contest.Outcome value) : value.TextKeyed := by
  rcases reached with rfl | ⟨index, applies | ⟨middle, first, second⟩⟩
  · exact documentKeyed
  · exact applies.textKeyed documentKeyed (changeKeyed index)
  · exact second.textKeyed (first.textKeyed documentKeyed (changeKeyed _)) (changeKeyed index)

/-- However the statements of calls that write are interleaved, every stored document is an
inserted one with updates of the calls applied to it; steps of calls that do not insert add
no rows, and a row that is gone stays away.  What two updates of one document leave comes from
one of them or from both in turn, once one of them has a result. -/
theorem no_torn_documents {engine : DocumentEngine} (shows : engine.ShowsKeyed)
    (settings : ClientSettings) (schemas : SchemaCatalog) {start : SharedTables}
    (startKeyed : ∀ name, ∀ row ∈ start.rows name, row.document.TextKeyed) :
    (∀ {ι : Type} [DecidableEq ι] (verbs : ι → ClientVerb),
      (∀ index, (verbs index).WritesDocuments ∧ (verbs index).IsKeyed) →
      ∀ running, Calls.Runs engine (.begin settings schemas verbs start) running →
        (∀ collection, ∀ row ∈ running.shared.rows collection,
          Untorn settings start verbs collection row.document) ∧
        (∀ index after, Concurrent.StepOf engine.answering index running after →
          ¬(verbs index).MayInsert → ∀ collection,
            (after.shared.keys collection).Sublist (running.shared.keys collection)) ∧
        ∀ later, Calls.Runs engine running later →
          ∀ collection, ∀ key ∈ later.shared.keys collection,
            key ∈ running.shared.keys collection ∨ running.shared.fresh ≤ key) ∧
    ∀ contest : Contest, contest.settings = settings →
      contest.IsHeld engine (start.rows contest.collection) →
      (∀ index, (contest.change index).hasTextKeys = true) →
      ∀ options session running,
        Calls.Runs engine (.begin settings schemas (contest.calls options session) start) running →
          ∃ value,
            { contest.row with document := value } ∈ running.shared.rows contest.collection ∧
            (value = contest.document ∨ contest.Outcome value) ∧
            ∀ index result after, running.programs index = .done (.ok result, after) →
              contest.Outcome value := by
  constructor
  · intro ι _ verbs given running runs
    have writing : ∀ index, (verbs index).WritesDocuments := fun index => (given index).1
    have keyed : ∀ index, (verbs index).IsKeyed := fun index => (given index).2
    have sound := sound_of_runs shows writing keyed startKeyed runs
    refine ⟨?_, ?_, ?_⟩
    · obtain ⟨_, untorn, _⟩ := sound
      exact untorn
    · intro index after step mayNot
      exact (evolves_of_stepOf writing keyed startKeyed sound step).sublist mayNot
    · intro later goesOn
      exact (key_cases_of_runs shows writing keyed startKeyed runs goesOn).2
  · rintro contest rfl held changeKeyed options session running runs
    have documentKeyed : contest.document.TextKeyed :=
      startKeyed contest.collection contest.row held.member
    refine Contest.exists_left_of_runs shows held ?_ options session schemas runs
    intro value reached
    exact Contest.textKeyed_of_reached documentKeyed changeKeyed reached

/-! ## Two updates of a counter -/

/-- An engine that accepts every document and shows it as it is. -/
def openEngine : DocumentEngine := { accepts := fun _ _ => true, column := .object }

def counter (number : Int) : Members := [(.text "id", .text "c"), (.text "n", .int number)]

def oneCounter : SharedTables :=
  { tables := fun name =>
      if name = "counters" then some [{ key := 0, document := counter 1 }] else none
    fresh := 1 }

/-- One call increments a counter, and one sets it. -/
def counterContest : Contest :=
  { settings := { dialect := .postgres, strict := true }
    collection := "counters"
    row := { key := 0, document := counter 1 }
    filter := fun _ => .object []
    change := fun
      | false => .object [(.text "$inc", .object [(.text "n", .int 1)])]
      | true => .object [(.text "$set", .object [(.text "n", .int 10)])] }

theorem outcome_counter {value : Members} (outcome : counterContest.Outcome value) :
    value = counter 2 ∨ value = counter 10 ∨ value = counter 11 := by
  obtain ⟨index, ⟨_, once⟩ | ⟨middle, ⟨_, first⟩, _, second⟩⟩ := outcome
  · cases index with
    | false =>
        cases once
        exact .inl rfl
    | true =>
        cases once
        exact .inr (.inl rfl)
  · cases index with
    | false =>
        cases first
        cases second
        exact .inr (.inr rfl)
    | true =>
        cases first
        cases second
        exact .inr (.inl rfl)

theorem mem_oneCounter {name : String} {row : Row} (member : row ∈ oneCounter.rows name) :
    row = counterContest.row := by
  unfold SharedTables.rows oneCounter at member
  dsimp only at member
  split at member
  · exact List.mem_singleton.mp member
  · cases member

theorem isHeld_counter : counterContest.IsHeld openEngine (oneCounter.rows "counters") where
  member := List.mem_singleton.mpr rfl
  unique row member _ := mem_oneCounter member
  isKey := rfl
  found _ := rfl
  alone row member different := absurd (congrArg Row.key (mem_oneCounter member)) different
  keepsId value outcome := by
    rcases outcome_counter outcome with rfl | rfl | rfl
    · rfl
    · rfl
    · rfl

/-- The counter is never torn, and it is one of the outcomes once a call has a result. -/
theorem no_torn_documents_counter :
    let verbs := counterContest.calls (fun _ => {}) fun _ => none
    openEngine.ShowsKeyed ∧ ∀ running,
      Calls.Runs openEngine (.begin counterContest.settings [] verbs oneCounter) running →
        (∀ collection, ∀ row ∈ running.shared.rows collection,
          Untorn counterContest.settings oneCounter verbs collection row.document) ∧
        ∃ value, { counterContest.row with document := value } ∈ running.shared.rows "counters" ∧
          ∀ index result after, running.programs index = .done (.ok result, after) →
            value = counter 2 ∨ value = counter 10 ∨ value = counter 11 := by
  intro verbs
  have shows : openEngine.ShowsKeyed := fun _ _ => rfl
  have startKeyed : ∀ name, ∀ row ∈ oneCounter.rows name, row.document.TextKeyed := by
    intro name row member
    rw [mem_oneCounter member]
    exact Value.hasTextKeys_object.mp rfl
  have changeKeyed : ∀ index, (counterContest.change index).hasTextKeys = true := by decide
  have untorn := no_torn_documents shows counterContest.settings [] startKeyed
  refine ⟨shows, fun running runs => ?_⟩
  obtain ⟨value, isStored, _, outcome⟩ := untorn.2 counterContest rfl isHeld_counter changeKeyed
    (fun _ => {}) (fun _ => none) running runs
  refine ⟨?_, value, isStored, ?_⟩
  · exact (untorn.1 verbs (fun index => ⟨trivial, rfl, changeKeyed index⟩) running runs).1
  · intro index result after ended
    exact outcome_counter (outcome index result after ended)

end DocStore
