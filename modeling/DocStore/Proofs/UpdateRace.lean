import DocStore.Proofs.SharedTables
import DocStore.Proofs.SingleWrite

/-!
# Two updates of one document

Two calls update the only document with some id.  A call reads the document, applies it and
writes it back, so what it writes is the original document or one that the other call wrote,
with its own update applied.  Each call writes once: the document that is left is the
original one, or comes from one update or from both in turn.

For each call the other is the rival.  What a call knows of its rival is whether it had
written already when the call read the document.
-/

namespace DocStore

open Client

/-- Two calls, each with a filter and an update, and the row that both find. -/
structure Contest where
  settings : ClientSettings
  collection : String
  row : Row
  filter : Bool → Value
  change : Bool → Value

namespace Contest

variable (contest : Contest)

def document : Members := contest.row.document

def heldId : Value := idOf contest.document

/-- One of the updates is applied, or both are in turn. -/
def Outcome (value : Members) : Prop :=
  ∃ index, Applies contest.settings (contest.change index) contest.document value ∨
    ∃ middle, Applies contest.settings (contest.change !index) contest.document middle ∧
      Applies contest.settings (contest.change index) middle value

/-- The rows with another document in the place of the one that both calls find. -/
def placed (rows : List Row) (value : Members) : List Row :=
  rows.map fun row => if row.key = contest.row.key then { row with document := value } else row

/-- Both filters find the document and nothing else, no other document has its id, and the
updates leave it its id. -/
structure IsHeld (engine : DocumentEngine) (rows : List Row) : Prop where
  member : contest.row ∈ rows
  unique : ∀ row ∈ rows, row.key = contest.row.key → row = contest.row
  isKey : contest.heldId.isKey = true
  found : ∀ index, engine.accepts (contest.filter index) contest.document = true
  alone : ∀ row ∈ rows, row.key ≠ contest.row.key →
    sameId (idOf row.document) contest.heldId = false ∧
      ∀ index, engine.accepts (contest.filter index) row.document = false
  keepsId : ∀ value, contest.Outcome value → idOf value = contest.heldId

/-! ## What a call may do -/

/-- How far a call has come: it asked for no statement that writes, it asked for one that
did not change the document, or it wrote the document. -/
inductive Phase where
  | reading
  | stopped
  | wrote

structure Progress where
  phase : Phase
  /-- The rival is known to have written. -/
  overtaken : Prop

/-- What a call reads before it writes: the original document or what the rival wrote. -/
def Snapshot (index : Bool) (progress : Progress) (former : Members) : Prop :=
  former = contest.document ∨
    progress.overtaken ∧
      Applies contest.settings (contest.change !index) contest.document former

/-- A call writes once, on what it read, and inserts only if it was overtaken. -/
def MayAsk (index : Bool) (progress : Progress) : Command → Prop
  | .update collection id document =>
      collection = contest.collection ∧ id = contest.heldId ∧ progress.phase = .reading ∧
        ∃ former, contest.Snapshot index progress former ∧
          Applies contest.settings (contest.change index) former document
  | .insert .. => progress.overtaken
  | .delete .. => False
  | _ => True

/-- A call finds one document, or none if it was overtaken. -/
def Finds (index : Bool) (later : Progress) (rows : List Value) : Prop :=
  ∃ documents, rows.mapM (readRow none) = .ok documents ∧
    (documents = [] ∧ later.overtaken ∨
      ∃ former, documents = [former] ∧ contest.Snapshot index later former)

/-- What a call knows after the reply to a request. -/
def Ran (index : Bool) (progress : Progress) :
    Command → Except Failure (List Value) → Progress → Prop
  | .select collection filter options, reply, later =>
      later.phase = progress.phase ∧
        (collection = contest.collection → filter = contest.filter index →
          options = { limit := some 1 } → progress.phase = .reading →
            ∀ rows, reply = .ok rows → contest.Finds index later rows)
  | .update .., reply, later => ∀ rows, reply = .ok rows → later.phase = .wrote
  | _, _, _ => True

def Replied (index : Bool) (progress : Progress) :
    (call : StoreCall) → call.Reply → Progress → Prop
  | .tableExists collection, reply, later =>
      later = progress ∧
        (collection = contest.collection → ∀ found, reply = .ok found → found = true)
  | .run request _, reply, later => contest.Ran index progress request.command reply later
  | _, _, _ => True

def racing (index : Bool) : Surroundings storeInterface Progress where
  permits progress call :=
    (∀ request, call.request? = some request →
      request.IsCompiled contest.settings ∧ contest.MayAsk index progress request.command) ∧
    ¬call.AltersTables
  replies progress call reply later :=
    (progress.overtaken → later.overtaken) ∧ contest.Replied index progress call reply later

/-! ## The calls keep to it -/

section Calls

variable {contest} {index : Bool} {progress : Progress} {schemas : SchemaCatalog}
  {session : Option SessionId}

theorem Snapshot.outcome {former revised : Members}
    (snapshot : contest.Snapshot index progress former)
    (applies : Applies contest.settings (contest.change index) former revised) :
    contest.Outcome revised := by
  rcases snapshot with rfl | ⟨_, byRival⟩
  · exact ⟨index, .inl applies⟩
  · exact ⟨index, .inr ⟨former, byRival, applies⟩⟩

theorem Snapshot.id_eq (keepsId : ∀ value, contest.Outcome value → idOf value = contest.heldId)
    {former : Members} (snapshot : contest.Snapshot index progress former) :
    idOf former = contest.heldId := by
  rcases snapshot with rfl | ⟨_, byRival⟩
  · rfl
  · exact keepsId former ⟨!index, .inl byRival⟩

theorem ensures_tableExists {returns : Bool → SchemaCatalog → Progress → Prop}
    {fails : Failure → SchemaCatalog → Progress → Prop}
    (met : returns true schemas progress) (failed : ∀ failure, fails failure schemas progress) :
    (ClientAction.tableExists contest.collection).Ensures (contest.racing index) schemas progress
      returns fails := by
  unfold ClientAction.tableExists
  rw [Action.ensures_perform]
  refine ⟨⟨?_, False.elim⟩, ?_⟩
  · intro request carried
    cases carried
  · rintro reply later ⟨_, rfl, exists_⟩
    cases reply with
    | ok found =>
        cases exists_ rfl found rfl
        exact met
    | error failure => exact failed failure

theorem ensures_rowsOf {request : Request} {command : Command}
    {returns : List Value → SchemaCatalog → Progress → Prop}
    {fails : Failure → SchemaCatalog → Progress → Prop}
    (isCommand : request.command = command) (compiled : request.IsCompiled contest.settings)
    (asked : contest.MayAsk index progress command)
    (met : ∀ rows later, contest.Ran index progress command (.ok rows) later →
      returns rows schemas later)
    (failed : ∀ failure later, fails failure schemas later) :
    (ClientAction.rowsOf request session).Ensures (contest.racing index) schemas progress
      returns fails := by
  unfold ClientAction.rowsOf
  rw [Action.ensures_perform]
  refine ⟨⟨?_, False.elim⟩, ?_⟩
  · intro other carried
    cases carried
    rw [isCommand]
    exact ⟨compiled, asked⟩
  · rintro reply later ⟨_, replied⟩
    change contest.Ran index progress request.command reply later at replied
    rw [isCommand] at replied
    cases reply with
    | ok rows => exact met rows later replied
    | error failure => exact failed failure later

/-- A call that has not written finds a snapshot, or it was overtaken. -/
theorem ensures_matching (reading : progress.phase = .reading) :
    (matching contest.settings contest.collection (contest.filter index) (some 1) session).Ensures
      (contest.racing index) schemas progress
      (fun documents _ later => later.phase = .reading ∧
        (documents = [] ∧ later.overtaken ∨
          ∃ former, documents = [former] ∧ contest.Snapshot index later former))
      fun _ _ _ => True := by
  unfold matching
  rw [Action.ensures_bind]
  refine ensures_tableExists ?_ fun _ => trivial
  unfold find
  rw [if_pos rfl, Action.ensures_bind]
  refine ensures_tableExists ?_ fun _ => trivial
  rw [if_pos rfl, Action.ensures_bind]
  refine ensures_request ?_ fun _ => trivial
  intro request isSelect compiled
  rw [Action.ensures_bind]
  refine ensures_rowsOf isSelect compiled trivial ?_ fun _ _ => trivial
  rintro rows later ⟨samePhase, finds⟩
  obtain ⟨documents, read, found⟩ := finds rfl rfl rfl reading rows rfl
  rw [Action.ensures_ofFault, read]
  exact ⟨samePhase.trans reading, found⟩

/-- A call writes what its update makes of the snapshot. -/
theorem ensures_revise (reading : progress.phase = .reading) {former : Members}
    (snapshot : contest.Snapshot index progress former) :
    (revise contest.settings contest.collection (contest.change index) session contest.heldId
      former).Ensures (contest.racing index) schemas progress
      (fun _ _ later => later.phase = .wrote) fun _ _ _ => True := by
  unfold revise updated
  rw [Action.ensures_bind, Action.ensures_ofLogged]
  rcases applied : (Update.apply contest.settings.strict (.object former)
    (contest.change index)).outcome with ⟨outcome, log⟩
  cases outcome with
  | error failure => trivial
  | ok revised =>
      have applies : Applies contest.settings (contest.change index) former revised :=
        ⟨log, applied⟩
      change Action.Ensures _ _ _ _ _ _
      unfold ClientAction.validate
      rw [Action.ensures_bind, Action.ensures_bind, Action.ensures_get, Action.ensures_ofOutcome]
      cases schemas.validate contest.collection (.object revised) with
      | error failure => trivial
      | ok _ =>
          change Action.Ensures _ _ _ _ _ _
          rw [Action.ensures_bind]
          refine ensures_request ?_ fun _ => trivial
          intro request isUpdate compiled
          rw [Action.ensures_bind]
          refine ensures_rowsOf isUpdate compiled ?_ ?_ fun _ _ => trivial
          · exact ⟨rfl, rfl, reading, former, snapshot, applies⟩
          · intro rows later ran
            exact ran rows rfl

/-- A call that was overtaken may insert. -/
theorem ensures_upsert (overtaken : progress.overtaken) :
    (upsert contest.settings contest.collection (contest.filter index) (contest.change index)
      session).Ensures (contest.racing index) schemas progress
      (fun _ _ later => later.overtaken) fun _ _ _ => True := by
  let around := storing contest.settings (fun _ _ => True) Command.IsInsertion False
  have steady : Steady around schemas (upsert contest.settings contest.collection
      (contest.filter index) (contest.change index) session) fun _ => True :=
    steady_upsert fun _ _ _ _ _ => trivial
  have moves : ∀ (seen : Unit) (progress : Progress) call, progress.overtaken →
      around.permits seen call → (contest.racing index).permits progress call ∧
        ∀ reply later, (contest.racing index).replies progress call reply later →
          ∃ after : Unit, around.replies seen call reply after ∧ later.overtaken := by
    rintro _ progress call overtaken ⟨requested, whole⟩
    refine ⟨⟨?_, whole⟩, ?_⟩
    · intro request carried
      obtain ⟨compiled, isInsertion⟩ := requested request carried
      refine ⟨compiled, ?_⟩
      cases isCommand : request.command with
      | insert collection documents => exact overtaken
      | _ =>
          rw [isCommand] at isInsertion
          exact isInsertion.elim
    · rintro reply later ⟨still, _⟩
      refine ⟨(), ?_, still overtaken⟩
      cases call with
      | run request session => exact fun _ _ _ _ _ _ _ _ _ _ => trivial
      | _ => trivial
  apply Program.Ensures.imp (Program.Ensures.transfer moves steady overtaken)
  rintro ⟨outcome, own⟩ later ⟨_, still, _⟩
  cases outcome with
  | ok result => exact still
  | error failure => trivial

/-- A call that comes to a result wrote the document, or was overtaken. -/
theorem ensures_updateOne (keepsId : ∀ value, contest.Outcome value → idOf value = contest.heldId)
    (isKey : contest.heldId.isKey = true) (options : UpdateOptions)
    (reading : progress.phase = .reading) :
    (updateOne contest.settings contest.collection (contest.filter index) (contest.change index)
      options session).Ensures (contest.racing index) schemas progress
      (fun _ _ later => later.phase = .wrote ∨ later.overtaken) fun _ _ _ => True := by
  unfold updateOne update
  rw [Action.ensures_bind]
  apply Action.Ensures.imp (ensures_matching reading)
  · rintro documents own later ⟨stillReading, ⟨rfl, overtaken⟩ | ⟨former, rfl, snapshot⟩⟩
    · dsimp only
      split
      · apply Action.Ensures.imp (ensures_upsert overtaken)
        · intro result own after still
          exact .inr still
        · intro failure own after _
          trivial
      · exact .inr overtaken
    · have named : (idOf former).isNull = false := by
        rw [snapshot.id_eq keepsId]
        exact isNull_of_isKey isKey
      dsimp only
      unfold writeEach
      rw [Action.ensures_bind, if_neg (by simp [named]), Action.ensures_bind,
        snapshot.id_eq keepsId]
      apply Action.Ensures.imp (ensures_revise stillReading snapshot)
      · intro _ own after wrote
        exact .inl wrote
      · intro failure own after _
        trivial
  · intro failure own later _
    trivial

end Calls

/-! ## The document that is left -/

/-- What the document that is left has to do with how far a call and its rival have come. -/
structure Side (index : Bool) (own rival : Progress) (value : Members) : Prop where
  changed : own.phase = .wrote → contest.Outcome value
  pending : own.phase = .reading → rival.phase ≠ .wrote → value = contest.document
  overtaken : own.phase = .reading → rival.phase = .wrote →
    Applies contest.settings (contest.change !index) contest.document value
  known : own.overtaken → rival.phase = .wrote

/-- The rows are those of the start, but for the document that is left and for rows that
were added when both calls had asked for their statements. -/
structure Stands (rows : List Row) (shared : SharedTables) (seen : Bool → Progress)
    (value : Members) (added : List Row) : Prop where
  stored : shared.tables contest.collection = some (contest.placed rows value ++ added)
  reached : value = contest.document ∨ contest.Outcome value
  sides : ∀ index, contest.Side index (seen index) (seen !index) value
  settled : added ≠ [] → ∀ index, (seen index).phase ≠ .reading

def Agrees (rows : List Row) (shared : SharedTables) (seen : Bool → Progress) : Prop :=
  ∃ value added, contest.Stands rows shared seen value added

variable {contest} {engine : DocumentEngine} {rows : List Row} {shared after : SharedTables}
  {seen : Bool → Progress} {index : Bool} {value : Members} {added : List Row}

theorem Stands.advance {later : Progress} {stored : List Row}
    (isStored : after.tables contest.collection = some (contest.placed rows value ++ stored))
    (reached : value = contest.document ∨ contest.Outcome value)
    (own : contest.Side index later (seen !index) value)
    (rival : contest.Side (!index) (seen !index) later value)
    (settled : stored ≠ [] → later.phase ≠ .reading ∧ (seen !index).phase ≠ .reading) :
    contest.Stands rows after (Function.update seen index later) value stored := by
  have atIndex : Function.update seen index later index = later := Function.update_self ..
  have atRival : Function.update seen index later (!index) = seen !index :=
    Function.update_of_ne (Bool.not_ne_self index) ..
  refine ⟨isStored, reached, ?_, ?_⟩
  · intro other
    rcases Bool.eq_or_eq_not other index with rfl | rfl
    · rw [atIndex, atRival]
      exact own
    · rw [atRival, Bool.not_not, atIndex]
      exact rival
  · intro full other
    rcases Bool.eq_or_eq_not other index with rfl | rfl
    · rw [atIndex]
      exact (settled full).1
    · rw [atRival]
      exact (settled full).2

theorem Stands.rival (stands : contest.Stands rows shared seen value added) (index : Bool) :
    contest.Side (!index) (seen !index) (seen index) value := by
  have side := stands.sides (!index)
  rwa [Bool.not_not] at side

/-- While a call reads, no rows have been added. -/
theorem Stands.stored_of_reading (stands : contest.Stands rows shared seen value added)
    (reading : (seen index).phase = .reading) :
    shared.tables contest.collection = some (contest.placed rows value) := by
  have none : added = [] := by
    by_contra full
    exact stands.settled full index reading
  rw [stands.stored, none, List.append_nil]

theorem Agrees.unchanged (agrees : contest.Agrees rows shared seen) :
    contest.Agrees rows shared (Function.update seen index (seen index)) := by
  rwa [Function.update_eq_self]

theorem id_of_reached (held : contest.IsHeld engine rows)
    (reached : value = contest.document ∨ contest.Outcome value) : idOf value = contest.heldId := by
  rcases reached with rfl | outcome
  · rfl
  · exact held.keepsId value outcome

/-- The statement for the id writes the one row that holds it. -/
theorem map_placed (held : contest.IsHeld engine rows)
    (reached : value = contest.document ∨ contest.Outcome value) {met : Row → Bool}
    (meets : ∀ row ∈ contest.placed rows value,
      met row = sameId (idOf row.document) contest.heldId) (revised : Members) :
    (contest.placed rows value).map (fun row =>
      if met row then { row with document := revised } else row) =
        contest.placed rows revised := by
  unfold placed at meets ⊢
  rw [List.map_map]
  apply List.map_congr_left
  intro row member
  have meetsRow := meets _ (List.mem_map_of_mem member)
  dsimp only [Function.comp_apply]
  by_cases same : row.key = contest.row.key
  · rw [if_pos same] at meetsRow ⊢
    have isMet : sameId (idOf value) contest.heldId = true := by
      rw [id_of_reached held reached]
      exact sameId_self held.isKey
    rw [meetsRow, isMet, if_pos rfl, if_pos same]
  · rw [if_neg same] at meetsRow ⊢
    rw [meetsRow, (held.alone row member same).1, if_neg Bool.false_ne_true, if_neg same]

theorem meets_of_compiled (isKey : contest.heldId.isKey = true) {statement : Statement}
    {document : Members} {log : List LogEntry}
    (compiled : ((Command.update contest.collection contest.heldId document).compile
      contest.settings).Returns [] statement log) {stored : List Row} {met : Row → Bool}
    (meets : DocumentEngine.Meets statement contest.heldId stored met) :
    ∀ row ∈ stored, met row = sameId (idOf row.document) contest.heldId := by
  have written : (Query.update contest.settings contest.collection contest.heldId
      (.object document)).Returns [] statement log := compiled
  apply meets _ isKey
  rw [Database.Query.dialect_of_update written]
  exact Query.whereClause?_of_notObject (isNull_of_isKey isKey) (isObject_of_isKey isKey)
    (Query.isRestricted_update written)

def Phase.inserted : Phase → Phase
  | .reading => .stopped
  | .stopped => .stopped
  | .wrote => .wrote

theorem Phase.inserted_ne (phase : Phase) : phase.inserted ≠ .reading := by
  cases phase <;> exact Phase.noConfusion

theorem Phase.inserted_eq_wrote {phase : Phase} : phase.inserted = .wrote ↔ phase = .wrote := by
  cases phase <;> simp [Phase.inserted]

/-- What a filter of the calls accepts is the document that is left. -/
theorem document_of_accepted (held : contest.IsHeld engine rows) {row : Row}
    (member : row ∈ contest.placed rows value)
    (accepted : engine.accepts (contest.filter index) row.document = true) :
    row.document = value := by
  obtain ⟨former, isFormer, rfl⟩ := List.mem_map.mp member
  by_cases same : former.key = contest.row.key
  · rw [if_pos same]
  · rw [if_neg same] at accepted
    rw [(held.alone former isFormer same).2 index] at accepted
    cases accepted

theorem placed_mem (held : contest.IsHeld engine rows) :
    { contest.row with document := value } ∈ contest.placed rows value :=
  List.mem_map.mpr ⟨contest.row, held.member, if_pos rfl⟩

/-- A call that has not written finds the document that is left, unless its filter does not
accept what the rival wrote. -/
theorem finds_of_stands (shows : engine.ShowsKeyed) (held : contest.IsHeld engine rows)
    (keyed : value.TextKeyed) {own rival : Progress} (side : contest.Side index own rival value)
    (reading : own.phase = .reading) {arranged : List Row}
    (isArranged : arranged.Perm ((contest.placed rows value).filter fun row =>
      engine.accepts (contest.filter index) row.document)) {later : Progress}
    (learns : rival.phase = .wrote → later.overtaken) :
    contest.Finds index later
      ((arranged.map fun row => engine.row row.document).take 1) := by
  cases arranged with
  | nil =>
      -- had the rival not written, the filter would accept the document that is left
      refine ⟨[], rfl, .inl ⟨rfl, learns ?_⟩⟩
      by_contra notWrote
      have left := side.pending reading notWrote
      have accepted : { contest.row with document := value } ∈
          (contest.placed rows value).filter fun row =>
            engine.accepts (contest.filter index) row.document := by
        rw [List.mem_filter]
        refine ⟨placed_mem held, ?_⟩
        dsimp only
        rw [left]
        exact held.found index
      cases isArranged.mem_iff.mpr accepted
  | cons row others =>
      obtain ⟨member, accepted⟩ := List.mem_filter.mp (isArranged.mem_iff.mp List.mem_cons_self)
      have isLeft : row.document = value := document_of_accepted held member accepted
      refine ⟨[value], ?_, .inr ⟨value, rfl, ?_⟩⟩
      · rw [List.map_cons, List.take_succ_cons, List.take_zero, isLeft, List.mapM_cons,
          show readRow none (engine.row value) = _ from readRow_column (shows value keyed)]
        rfl
      · by_cases wrote : rival.phase = .wrote
        · exact .inr ⟨learns wrote, side.overtaken reading wrote⟩
        · exact .inl (side.pending reading wrote)

/-- After a search a call knows whether its rival has written. -/
theorem keeps_select (shows : engine.ShowsKeyed) (held : contest.IsHeld engine rows)
    (keyed : ∀ value, (value = contest.document ∨ contest.Outcome value) → value.TextKeyed)
    (stands : contest.Stands rows shared seen value added) {statement : Statement}
    {collection : String} {filter : Value} {options : FindOptions} {found : List Value}
    (takes : engine.Takes shared statement (.select collection filter options) found after)
    {reply : Except Failure (List Value)} (same : ∀ shown, reply = .ok shown → shown = found) :
    ∃ later, ((seen index).overtaken → later.overtaken) ∧
      contest.Ran index (seen index) (.select collection filter options) reply later ∧
      contest.Agrees rows after (Function.update seen index later) := by
  have own := stands.sides index
  have rival := stands.rival index
  let later : Progress :=
    { phase := (seen index).phase
      overtaken := (seen index).overtaken ∨ (seen !index).phase = .wrote }
  refine ⟨later, .inl, ⟨rfl, ?_⟩, value, added, ?_⟩
  · rintro rfl rfl rfl reading shown isReply
    rw [same shown isReply]
    cases takes with
    | select isStored arranged =>
        cases (stands.stored_of_reading reading).symm.trans isStored
        exact finds_of_stands shows held (keyed value stands.reached) own reading arranged .inr
  · rw [takes.found.1]
    refine Stands.advance stands.stored stands.reached ?_ ?_ ?_
    · refine ⟨own.changed, own.pending, own.overtaken, ?_⟩
      rintro (known | wrote)
      · exact own.known known
      · exact wrote
    · exact ⟨rival.changed, rival.pending, rival.overtaken, rival.known⟩
    · intro full
      exact ⟨stands.settled full index, stands.settled full !index⟩

/-- The statement of a call writes what its update makes of the snapshot. -/
theorem keeps_update (held : contest.IsHeld engine rows)
    (keyed : ∀ value, (value = contest.document ∨ contest.Outcome value) → value.TextKeyed)
    (stands : contest.Stands rows shared seen value added) {request : Request}
    (compiled : request.IsCompiled contest.settings) {collection : String} {id : Value}
    {revised : Members} (isUpdate : request.command = .update collection id revised)
    (asked : contest.MayAsk index (seen index) (.update collection id revised))
    {found : List Value}
    (takes : engine.Takes shared request.statement (.update collection id revised) found after) :
    contest.Agrees rows after
      (Function.update seen index { seen index with phase := .wrote }) := by
  obtain ⟨rfl, rfl, reading, former, snapshot, applies⟩ := asked
  have own := stands.sides index
  have rival := stands.rival index
  cases takes with
  | @update _ _ _ document found met _ isStored meets bound =>
      cases (stands.stored_of_reading reading).symm.trans isStored
      obtain ⟨log, returned⟩ := compiled
      rw [isUpdate] at returned
      have metRows := meets_of_compiled held.isKey returned meets
      -- the text that is bound stands for what the update made of the snapshot
      have stores := Command.replacement_of_update
        (keyed revised (.inr (snapshot.outcome applies))) returned
      cases stores.symm.trans bound
      refine ⟨revised, [], Stands.advance ?_ (.inr (snapshot.outcome applies)) ?_ ?_ ?_⟩
      · rw [map_placed held stands.reached metRows, List.append_nil]
        simp [SharedTables.write]
      · exact
          { changed := fun _ => snapshot.outcome applies
            pending := fun unread => Phase.noConfusion unread
            overtaken := fun unread => Phase.noConfusion unread
            known := own.known }
      · refine ⟨fun _ => snapshot.outcome applies, fun _ notWrote => absurd rfl notWrote, ?_,
          fun _ => rfl⟩
        -- while the rival reads it has not written, so the snapshot is the original document
        intro rivalReading _
        rw [Bool.not_not]
        rcases snapshot with rfl | ⟨overtaken, _⟩
        · exact applies
        · cases rivalReading.symm.trans (own.known overtaken)
      · intro full
        exact absurd rfl full

/-- A statement that had no effect leaves the document as it is. -/
theorem keeps_refusal (stands : contest.Stands rows shared seen value added)
    (reading : (seen index).phase = .reading) :
    contest.Agrees rows shared
      (Function.update seen index { seen index with phase := .stopped }) := by
  have own := stands.sides index
  have rival := stands.rival index
  have notWrote : (seen index).phase ≠ .wrote := by
    rw [reading]
    exact Phase.noConfusion
  refine ⟨value, added, Stands.advance stands.stored stands.reached ?_ ?_ ?_⟩
  · exact
      { changed := fun wrote => Phase.noConfusion wrote
        pending := fun unread => Phase.noConfusion unread
        overtaken := fun unread => Phase.noConfusion unread
        known := own.known }
  · exact
      { changed := rival.changed
        pending := fun unread _ => rival.pending unread notWrote
        overtaken := fun _ wrote => Phase.noConfusion wrote
        known := fun overtaken => absurd (rival.known overtaken) notWrote }
  · intro full
    exact absurd reading (stands.settled full index)

/-- An insertion by a call that was overtaken adds rows when both calls have asked for their
statements. -/
theorem keeps_insert (stands : contest.Stands rows shared seen value added)
    (overtaken : (seen index).overtaken) {statement : Statement} {collection : String}
    {documents : List Members} {found : List Value}
    (takes : engine.Takes shared statement (.insert collection documents) found after) :
    contest.Agrees rows after
      (Function.update seen index { seen index with phase := (seen index).phase.inserted }) := by
  have own := stands.sides index
  have rival := stands.rival index
  have rivalWrote := own.known overtaken
  obtain ⟨added, isStored⟩ : ∃ added, after.tables contest.collection =
      some (contest.placed rows value ++ added) := by
    cases takes with
    | @insert _ _ stores _ _ isStored bound =>
        by_cases same : contest.collection = collection
        · refine ⟨added ++ shared.newRows stores, ?_⟩
          subst same
          have isRows := SharedTables.rows_of_stored stands.stored
          simp [SharedTables.append, SharedTables.write, isRows]
        · refine ⟨added, ?_⟩
          simp only [SharedTables.append, SharedTables.write, if_neg same]
          exact stands.stored
  refine ⟨value, added, Stands.advance isStored stands.reached ?_ ?_ ?_⟩
  · exact
      { changed := fun wrote => own.changed (Phase.inserted_eq_wrote.mp wrote)
        pending := fun unread => absurd unread (Phase.inserted_ne _)
        overtaken := fun unread => absurd unread (Phase.inserted_ne _)
        known := own.known }
  · exact
      { changed := rival.changed
        pending := fun unread => Phase.noConfusion (unread.symm.trans rivalWrote)
        overtaken := fun unread => Phase.noConfusion (unread.symm.trans rivalWrote)
        known := fun known => Phase.inserted_eq_wrote.mpr (rival.known known) }
  · intro _
    refine ⟨Phase.inserted_ne _, ?_⟩
    rw [rivalWrote]
    exact Phase.noConfusion

/-- After a request that was permitted the document that is left agrees with what the calls
know. -/
theorem keeps_request (shows : engine.ShowsKeyed) (held : contest.IsHeld engine rows)
    (keyed : ∀ value, (value = contest.document ∨ contest.Outcome value) → value.TextKeyed)
    (stands : contest.Stands rows shared seen value added) {request : Request}
    (compiled : request.IsCompiled contest.settings)
    (asked : contest.MayAsk index (seen index) request.command)
    {reply : Except Failure (List Value)}
    (answered : (∃ found, engine.Takes shared request.statement request.command found after ∧
        ∀ shown, reply = .ok shown → shown = found) ∨
      DocumentEngine.Refuses shared reply after) :
    ∃ later, ((seen index).overtaken → later.overtaken) ∧
      contest.Ran index (seen index) request.command reply later ∧
      contest.Agrees rows after (Function.update seen index later) := by
  rcases answered with ⟨found, takes, same⟩ | ⟨rfl, failure, rfl⟩
  · cases isCommand : request.command with
    | select collection filter options =>
        rw [isCommand] at takes
        exact keeps_select shows held keyed stands takes same
    | count collection filter =>
        rw [isCommand] at takes
        cases takes
        exact ⟨_, id, trivial, Agrees.unchanged ⟨value, added, stands⟩⟩
    | aggregate collection pipeline =>
        rw [isCommand] at takes
        cases takes
        exact ⟨_, id, trivial, Agrees.unchanged ⟨value, added, stands⟩⟩
    | insert collection documents =>
        rw [isCommand] at takes asked
        refine ⟨{ seen index with phase := (seen index).phase.inserted }, id, trivial, ?_⟩
        exact keeps_insert stands asked takes
    | update collection target revised =>
        rw [isCommand] at takes asked
        refine ⟨{ seen index with phase := .wrote }, id, fun _ _ => rfl, ?_⟩
        exact keeps_update held keyed stands compiled isCommand asked takes
    | delete collection target =>
        rw [isCommand] at asked
        exact asked.elim
  · cases isCommand : request.command with
    | select collection filter options =>
        refine ⟨_, id, ⟨rfl, ?_⟩, Agrees.unchanged ⟨value, added, stands⟩⟩
        intro _ _ _ _ shown isReply
        cases isReply
    | update collection target revised =>
        rw [isCommand] at asked
        refine ⟨{ seen index with phase := .stopped }, id, ?_, keeps_refusal stands asked.2.2.1⟩
        intro shown isReply
        cases isReply
    | delete collection target =>
        rw [isCommand] at asked
        exact asked.elim
    | _ => exact ⟨_, id, trivial, Agrees.unchanged ⟨value, added, stands⟩⟩

theorem keeps_racing (shows : engine.ShowsKeyed) (held : contest.IsHeld engine rows)
    (keyed : ∀ value, (value = contest.document ∨ contest.Outcome value) → value.TextKeyed) :
    Concurrent.Keeps contest.racing (contest.Agrees rows) engine.answering := by
  rintro index shared seen call reply after ⟨value, added, stands⟩ ⟨requested, whole⟩ answered
  have unchanged : contest.Agrees rows shared (Function.update seen index (seen index)) :=
    Agrees.unchanged ⟨value, added, stands⟩
  cases call with
  | run request session =>
      obtain ⟨compiled, asked⟩ := requested request rfl
      obtain ⟨later, learns, ran, agrees⟩ :=
        keeps_request shows held keyed stands compiled asked answered
      exact ⟨later, ⟨learns, ran⟩, agrees⟩
  | insert request count session =>
      obtain ⟨compiled, asked⟩ := requested request rfl
      -- the ids that an insertion yields are not read, so any reply will do for the request
      obtain ⟨reply, answered⟩ : ∃ reply : Except Failure (List Value),
          (∃ found, engine.Takes shared request.statement request.command found after ∧
            ∀ shown, reply = .ok shown → shown = found) ∨
          DocumentEngine.Refuses shared reply after := by
        rcases answered with ⟨found, takes⟩ | ⟨same, _⟩
        · exact ⟨.ok found, .inl ⟨found, takes, fun _ isReply => (Except.ok.inj isReply).symm⟩⟩
        · exact ⟨.error .cancelled, .inr ⟨same, _, rfl⟩⟩
      obtain ⟨later, learns, _, agrees⟩ :=
        keeps_request shows held keyed stands compiled asked answered
      exact ⟨later, ⟨learns, trivial⟩, agrees⟩
  | tableExists collection =>
      obtain ⟨rfl, known⟩ := answered
      refine ⟨_, ⟨id, rfl, ?_⟩, unchanged⟩
      rintro rfl found isReply
      rw [known found isReply, stands.stored]
      rfl
  | createTable collection =>
      rcases answered with rfl | ⟨rfl, _⟩
      · refine ⟨_, ⟨id, trivial⟩, value, added, ?_⟩
        rw [Function.update_eq_self]
        refine ⟨?_, stands.reached, stands.sides, stands.settled⟩
        by_cases same : contest.collection = collection
        · subst same
          have isRows := SharedTables.rows_of_stored stands.stored
          simp [SharedTables.write, isRows]
        · simp only [SharedTables.write, if_neg same]
          exact stands.stored
      · exact ⟨_, ⟨id, trivial⟩, unchanged⟩
  | dropTable collection => exact absurd trivial whole
  | direct sql => exact absurd trivial whole
  | _ =>
      cases answered
      exact ⟨_, ⟨id, trivial⟩, unchanged⟩

/-! ## Runs of the two calls -/

variable (contest) in
def calls (options : Bool → UpdateOptions) (session : Bool → Option SessionId) (index : Bool) :
    ClientVerb :=
  .updateOne contest.collection (contest.filter index) (contest.change index) (options index)
    (session index)

theorem agrees_start (held : contest.IsHeld engine (shared.rows contest.collection)) :
    contest.Agrees (shared.rows contest.collection) shared
      fun _ => { phase := .reading, overtaken := False } := by
  have isStored : shared.tables contest.collection = some (shared.rows contest.collection) := by
    have member := held.member
    unfold SharedTables.rows at member ⊢
    cases stored : shared.tables contest.collection with
    | some rows => rfl
    | none =>
        rw [stored] at member
        cases member
  have same : contest.placed (shared.rows contest.collection) contest.document =
      shared.rows contest.collection := by
    refine Eq.trans (List.map_congr_left (g := id) ?_) (List.map_id _)
    intro row member
    split
    · rename_i sameKey
      rw [held.unique row member sameKey]
      rfl
    · rfl
  refine ⟨contest.document, [], ?_, .inl rfl, ?_, ?_⟩
  · rw [same, List.append_nil]
    exact isStored
  · intro index
    exact
      { changed := fun wrote => Phase.noConfusion wrote
        pending := fun _ _ => rfl
        overtaken := fun _ wrote => Phase.noConfusion wrote
        known := False.elim }
  · intro full
    exact absurd rfl full

/-- With its result a call knows that the document was written. -/
def Reported (_ : Bool) (ended : Except Failure Value × SchemaCatalog) (later : Progress) : Prop :=
  ∀ result, ended.1 = .ok result → later.phase = .wrote ∨ later.overtaken

theorem ensures_perform (held : contest.IsHeld engine rows) (options : Bool → UpdateOptions)
    (session : Bool → Option SessionId) (schemas : SchemaCatalog) (index : Bool) :
    Program.Ensures (contest.racing index)
      ((contest.calls options session index).perform contest.settings schemas)
      { phase := .reading, overtaken := False } (Reported index) := by
  have ensured : (Action.answering UpdateResult.toValue
      (updateOne contest.settings contest.collection (contest.filter index)
        (contest.change index) (options index) (session index))).Ensures (contest.racing index)
      schemas { phase := .reading, overtaken := False }
      (fun _ _ later => later.phase = .wrote ∨ later.overtaken) fun _ _ _ => True := by
    unfold Action.answering
    rw [Action.ensures_bind]
    exact ensures_updateOne held.keepsId held.isKey (options index) rfl
  apply Program.Ensures.imp ensured
  rintro ⟨outcome, own⟩ later ended result isResult
  cases isResult
  exact ended

/-- The row that both calls find is there in every state that they reach.  It holds the
original document or an outcome of the race, and an outcome once a call has a result. -/
theorem exists_left_of_runs (shows : engine.ShowsKeyed) {start : SharedTables}
    (held : contest.IsHeld engine (start.rows contest.collection))
    (keyed : ∀ value, (value = contest.document ∨ contest.Outcome value) → value.TextKeyed)
    (options : Bool → UpdateOptions) (session : Bool → Option SessionId)
    (schemas : SchemaCatalog) {running : Calls Bool}
    (runs : Calls.Runs engine
      (.begin contest.settings schemas (contest.calls options session) start) running) :
    ∃ value, { contest.row with document := value } ∈ running.shared.rows contest.collection ∧
      (value = contest.document ∨ contest.Outcome value) ∧
      ∀ index result after, running.programs index = .done (.ok result, after) →
        contest.Outcome value := by
  have sound : running.Sound contest.racing
      (contest.Agrees (start.rows contest.collection)) Reported := by
    refine Concurrent.Sound.reaches (keeps_racing shows held keyed) ?_ runs
    exact ⟨_, agrees_start held, ensures_perform held options session schemas⟩
  obtain ⟨seen, ⟨value, added, stands⟩, ensured⟩ := sound
  refine ⟨value, ?_, stands.reached, ?_⟩
  · rw [SharedTables.rows_of_stored stands.stored]
    exact List.mem_append_left _ (placed_mem held)
  · intro index result after ended
    have goal := ensured index
    rw [ended] at goal
    rcases goal result rfl with wrote | overtaken
    · exact (stands.sides index).changed wrote
    · have rivalWrote := (stands.sides index).known overtaken
      exact (stands.sides !index).changed rivalWrote

end Contest

end DocStore
