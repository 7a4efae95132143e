import DocStore.Proofs.JsonEquality
import DocStore.Proofs.PathReaders
import DocStore.Proofs.PipelineNormalForm
import DocStore.Proofs.StrictMode

/-!
# How pipelines fail

A pipeline of JSON compiles, and its reshaping stages can be applied to all documents, unless
the sort that counts, the group, or a projection without a group is of a kind that is taken
for an object without being one.  No other stage is a reason: a malformed filter, count or
accumulator is passed over or refused, and unwinding takes any specification.
-/

namespace DocStore

open Sql
open Logged (SameOutcome)

theorem Value.isObject_iff {value : Value} :
    value.isObject = true ↔ ∃ members, value = .object members := by
  cases value <;> simp [isObject]

/-! ## Lines of statements -/

namespace Query

/-- An ordering by a JSON value has a line unless the value is neither empty nor an object. -/
theorem orderLine_returns_iff {sort : Value} (sortJson : sort.IsJson) (dialect : Dialect)
    (columns : List String) :
    (∃ line, orderLine dialect columns sort = .ok line) ↔
      (sort.isTruthy = true → sort.isObject = true) := by
  unfold orderLine
  cases truthy : sort.isTruthy with
  | false => simp
  | true =>
      cases sort with
      | object items =>
          have each : ∀ item ∈ items, ∃ text, orderItem dialect columns item = .ok text := by
            intro item isItem
            have compared := Value.compare_eq (sortJson.of_mem isItem) (.int 1)
            exact Except.exists_bind compared ⟨_, rfl⟩
          obtain ⟨texts, areTexts⟩ := Except.exists_mapM each
          refine iff_of_true ?_ fun _ => rfl
          refine Except.exists_bind (show (Value.object items).asObject = .ok items from rfl) ?_
          exact Except.exists_bind areTexts ⟨_, rfl⟩
      | _ =>
          refine iff_of_false ?_ fun isObject => ?_
          · rintro ⟨line, ordered⟩
            cases ordered
          · cases isObject rfl

end Query

namespace Dialect

theorem pagingLine_returns {count : Int} (writable : isWritableInteger count = true)
    (word : String) : ∃ line, pagingLine word (.int count) = .ok line := by
  refine Except.exists_bind (show (Value.int count).toInteger = .ok count from rfl) ?_
  rw [if_pos writable]
  exact ⟨_, rfl⟩

/-- A count of documents, if there is one, that can be written. -/
def IsWritableCount (amount : Value) : Prop :=
  amount = .null ∨ ∃ count, amount = .int count ∧ isWritableInteger count = true

/-- Counts that can be written have paging lines. -/
theorem paging_returns (dialect : Dialect) {limit skip : Value}
    (limitCounts : IsWritableCount limit) (skipCounts : IsWritableCount skip) :
    ∃ lines, dialect.paging limit skip = .ok lines := by
  have effective : IsWritableCount (effectiveLimit dialect limit skip) := by
    cases dialect with
    | postgres => exact limitCounts
    | mysql =>
        unfold effectiveLimit
        dsimp only
        split
        · exact .inr ⟨unlimited, rfl, by decide +kernel⟩
        · exact limitCounts
  have skipped (limitLine : List String) : ∃ lines,
      (if skip.isTruthy then do
        let offsetLine ← (pagingLine "OFFSET " skip).map fun line => [line]
        pure (limitLine ++ offsetLine)
      else do
        let offsetLine ← pure []
        pure (limitLine ++ offsetLine) : Except Fault (List String)) = .ok lines := by
    rcases skipCounts with rfl | ⟨count, rfl, writable⟩
    · exact ⟨_, rfl⟩
    · obtain ⟨line, written⟩ := pagingLine_returns writable "OFFSET "
      rw [written]
      split <;> exact ⟨_, rfl⟩
  unfold paging
  dsimp only
  rcases effective with isNull | ⟨count, isCount, writable⟩
  · rw [isNull]
    exact skipped []
  · obtain ⟨line, written⟩ := pagingLine_returns writable "LIMIT "
    rw [isCount, written]
    exact skipped [line]

end Dialect

/-! ## Specifications of stages -/

namespace Stage

theorem exists_of_mem_members {entries : List Value} {stage : Key × Value}
    (isStage : stage ∈ members entries) : ∃ stages, .object stages ∈ entries ∧ stage ∈ stages := by
  induction entries with
  | nil => cases isStage
  | cons entry entries ih =>
      have later (isLater : stage ∈ members entries) :
          ∃ stages, .object stages ∈ entry :: entries ∧ stage ∈ stages := by
        obtain ⟨stages, isEntry, isMember⟩ := ih isLater
        exact ⟨stages, List.mem_cons_of_mem _ isEntry, isMember⟩
      cases entry with
      | object stages =>
          rcases List.mem_append.mp isStage with first | isLater
          · exact ⟨stages, List.mem_cons_self, first⟩
          · exact later isLater
      | _ => exact later isStage

theorem isJson_of_mem_members {entries : List Value} (json : (Value.list entries).IsJson) :
    ∀ stage ∈ members entries, stage.2.IsJson := by
  intro stage isStage
  obtain ⟨stages, isEntry, isMember⟩ := exists_of_mem_members isStage
  exact (Value.isJson_list_iff.mp json _ isEntry).of_mem isMember

theorem writable_of_mem_members {entries : List Value}
    (writable : Json.obstacle? (.list entries) = none) :
    ∀ stage ∈ members entries, Json.obstacle? stage.2 = none := by
  intro stage isStage
  obtain ⟨stages, isEntry, isMember⟩ := exists_of_mem_members isStage
  exact Json.obstacle?_of_mem_members (Json.obstacle?_of_mem_items writable _ isEntry) _ isMember

theorem mem_specifications {kind : StageKind} {stages : Members} {specification : Value}
    (isSpecification : specification ∈ specifications kind stages) :
    ∃ stage ∈ stages, stage.2 = specification := by
  obtain ⟨stage, isStage, rfl⟩ := List.mem_map.mp isSpecification
  exact ⟨stage, (List.mem_filter.mp isStage).1, rfl⟩

end Stage

namespace PipelineShape

/-- What holds of the specifications of all stages holds of those that a shape is made of. -/
structure Inherits (ofValue : Value → Prop) (shape : PipelineShape) : Prop where
  filters : ∀ filter ∈ shape.filters, ofValue filter
  sort : ofValue shape.sort
  group : ofValue shape.group
  limit : ∀ count ∈ shape.limit, ∃ specification, ofValue specification ∧
    Stage.wellFormed? specification = some count
  skip : ∀ count ∈ shape.skip, ∃ specification, ofValue specification ∧
    Stage.wellFormed? specification = some count
  post : ∀ stage ∈ shape.post, ofValue stage.specification

theorem inherits_ofMembers {ofValue : Value → Prop} {stages : Members} (null : ofValue .null)
    (each : ∀ stage ∈ stages, ofValue stage.2) : Inherits ofValue (ofMembers stages) := by
  have specified {kind : StageKind} {specification : Value}
      (isSpecification : specification ∈ Stage.specifications kind stages) :
      ofValue specification := by
    obtain ⟨stage, isStage, rfl⟩ := Stage.mem_specifications isSpecification
    exact each stage isStage
  have counts {kind : StageKind} {count : Nat} (isLast :
      ((Stage.specifications kind stages).filterMap Stage.wellFormed?).getLast? = some count) :
      ∃ specification, ofValue specification ∧ Stage.wellFormed? specification = some count := by
    obtain ⟨specification, isSpecification, isCount⟩ :=
      List.mem_filterMap.mp (List.mem_of_getLast? isLast)
    exact ⟨specification, specified isSpecification, isCount⟩
  refine ⟨fun filter => specified, ?_, ?_, fun count => counts, fun count => counts, ?_⟩
  · change ofValue ((Stage.specifications .sort stages).getLast?.getD .null)
    cases isLast : (Stage.specifications .sort stages).getLast? with
    | none => exact null
    | some specification => exact specified (List.mem_of_getLast? isLast)
  · change ofValue (firstPresent (Stage.specifications .group stages))
    unfold firstPresent
    cases found : (Stage.specifications .group stages).find? fun group => !group.isNull with
    | none => exact null
    | some specification => exact specified (List.mem_of_find?_eq_some found)
  · intro post isPost
    obtain ⟨stage, isStage, reshapes⟩ := List.mem_filterMap.mp isPost
    have same : post.specification = stage.2 := by
      unfold Stage.post? at reshapes
      split at reshapes <;> cases reshapes <;> rfl
    exact same ▸ each stage isStage

/-- Filters that can be written have a conjunction that can be written. -/
theorem writable_combined {shape : PipelineShape}
    (writable : ∀ filter ∈ shape.filters, Json.obstacle? filter = none) :
    Json.obstacle? shape.combined = none := by
  have each : ∀ filter ∈ shape.filters.filter fun filter => filter.isObject && filter.isTruthy,
      Json.obstacle? filter = none :=
    fun filter isFilter => writable filter (List.mem_filter.mp isFilter).1
  rw [combined_eq_conjoined]
  unfold conjoined
  split
  · rfl
  · rename_i filter only
    exact each filter (only ▸ List.mem_singleton_self filter)
  · rw [Json.obstacle?, Json.membersObstacle?_eq_none_iff, List.forall_mem_singleton]
    exact ⟨rfl, Json.itemsObstacle?_eq_none_iff.mpr each⟩

/-- Counts of specifications that can be written can be written. -/
theorem isWritableCount {count? : Option Nat}
    (counts : ∀ count ∈ count?, ∃ specification, Json.obstacle? specification = none ∧
      Stage.wellFormed? specification = some count) :
    Dialect.IsWritableCount (.optional .natural count?) := by
  cases count? with
  | none => exact .inl rfl
  | some count =>
      obtain ⟨specification, writable, isCount⟩ := counts count rfl
      have isWritable := Stage.isWritable_integralForm
        (Value.isWritable_of_obstacle specification writable)
      have isInteger : Stage.integralForm specification = .int count := by
        unfold Stage.wellFormed? Stage.count? at isCount
        split at isCount
        · rename_i number integral
          cases isCount
          exact integral
        · cases isCount
      rw [isInteger] at isWritable
      exact .inr ⟨count, rfl, isWritable⟩

end PipelineShape

/-! ## Statements that are always returned -/

namespace Logged

variable {α β : Type}

/-- The computation returns, whatever has been reported before. -/
def AlwaysReturns (computation : Logged α) : Prop :=
  ∀ entries, ∃ result log, computation.Returns entries result log

namespace AlwaysReturns

theorem pure (value : α) : AlwaysReturns (pure value) :=
  fun entries => ⟨value, entries, rfl⟩

theorem note (entry : LogEntry) : AlwaysReturns (note entry) :=
  fun _ => ⟨(), _, rfl⟩

theorem ofFault {outcome : Except Fault α} (returns : ∃ value, outcome = .ok value) :
    AlwaysReturns (ofFault outcome) := by
  obtain ⟨value, rfl⟩ := returns
  exact fun entries => ⟨value, entries, rfl⟩

theorem bind {computation : Logged α} {next : α → Logged β} (first : AlwaysReturns computation)
    (rest : ∀ value, AlwaysReturns (next value)) : AlwaysReturns (computation >>= next) := by
  intro entries
  obtain ⟨value, middle, returned⟩ := first entries
  obtain ⟨result, log, finished⟩ := rest value middle
  exact ⟨result, log, returns_bind.mpr ⟨value, middle, returned, finished⟩⟩

end AlwaysReturns

end Logged

open Logged (AlwaysReturns)

section Lenient

variable (dialect : Dialect)

theorem Query.whereLine_alwaysReturns {filter : Value} (writable : Json.obstacle? filter = none) :
    AlwaysReturns (whereLine ⟨dialect, false⟩ filter) := by
  obtain ⟨line, returns⟩ := (whereLine_returns_or dialect filter).resolve_right fun ends =>
    Filter.not_comparesUnwritable writable ends.1
  exact fun entries => ⟨line, returns entries⟩

namespace PipelinePlan

/-- The constant that a specification sums, if it sums one, can be written. -/
def SumsWritable (specification : Value) : Prop :=
  ∀ key operand, specification = .object [(key, operand)] →
    Accumulator.ofKey? key.shown = some (.numeric .sum) → operand.isNumber = true →
      operand.isWritable = true

theorem SumsWritable.of_obstacle {specification : Value}
    (writable : Json.obstacle? specification = none) : SumsWritable specification := by
  rintro key operand rfl _ _
  exact Value.isWritable_of_obstacle operand
    (Json.obstacle?_of_mem_members writable (key, operand) List.mem_cons_self)

theorem accumulation_returns {accumulator : Accumulator} {operand : Value}
    (writable : accumulator = .numeric .sum → operand.isNumber = true →
      operand.isWritable = true) :
    ∃ expression, accumulation dialect accumulator operand = .ok expression := by
  unfold accumulation
  split
  · exact ⟨_, rfl⟩
  · exact ⟨_, rfl⟩
  · split
    · rename_i isNumber
      have worded : operand.wording = .ok operand.display := if_pos (writable rfl isNumber)
      unfold constantSum
      rw [worded]
      split <;> exact ⟨_, rfl⟩
    · exact ⟨_, rfl⟩
  · exact ⟨_, rfl⟩

theorem column?_alwaysReturns (name : String) {specification : Value}
    (writable : SumsWritable specification) :
    AlwaysReturns (column? ⟨dialect, false⟩ name specification) := by
  unfold column?
  split
  · rename_i key operand
    dsimp only
    split <;> refine .bind ?_ fun expression => ?_
    · rename_i accumulator named
      refine .ofFault (accumulation_returns dialect ?_)
      rintro rfl
      exact writable key operand rfl named
    · cases expression with
      | some expression => exact .pure _
      | none => exact .bind (.note _) fun _ => .pure _
    · exact .pure _
    · cases expression with
      | some expression => exact .pure _
      | none => exact .bind (.note _) fun _ => .pure _
  · exact .bind (.note _) fun _ => .pure _

theorem columns_alwaysReturns {group : Members}
    (writable : ∀ entry ∈ group, entry.1.shown ≠ groupColumn → SumsWritable entry.2) :
    AlwaysReturns (columns ⟨dialect, false⟩ group) := by
  induction group with
  | nil => exact .pure _
  | cons member group ih =>
      obtain ⟨name, specification⟩ := member
      obtain ⟨first, others⟩ := List.forall_mem_cons.mp writable
      unfold columns
      dsimp only
      split
      · exact ih others
      · rename_i isOther
        exact .bind (column?_alwaysReturns dialect _ (first isOther)) fun _ =>
          .bind (ih others) fun _ => .pure _

end PipelinePlan

end Lenient

/-! ## Sound shapes -/

/-- The specifications that are taken for objects are objects: a sort that is not empty, a
group, and without a group all projections. -/
structure PipelineShape.IsSound (shape : PipelineShape) : Prop where
  sort : shape.sort.isTruthy = true → shape.sort.isObject = true
  group : shape.group.isNull = false → shape.group.isObject = true
  projections : shape.group.isNull = true →
    ∀ specification, .project specification ∈ shape.post → specification.isObject = true

namespace PipelinePlan

section Lenient

variable {shape : PipelineShape} (dialect : Dialect) (collection : String)

/-- A group whose columns can be written has a statement if the other lines have a text. -/
theorem groupedStatement_alwaysReturns {group : Members} (isGroup : shape.group = .object group)
    (writable : ∀ entry ∈ group, entry.1.shown ≠ groupColumn → SumsWritable entry.2)
    (condition : AlwaysReturns (Query.whereLine ⟨dialect, false⟩ shape.combined))
    (ordering : ∀ columns, ∃ line, Query.orderLine dialect columns shape.sort = .ok line)
    (paging : ∃ lines, dialect.paging (.optional .natural shape.limit)
      (.optional .natural shape.skip) = .ok lines) :
    AlwaysReturns (groupedStatement ⟨dialect, false⟩ collection shape.group shape) := by
  have outputs : AlwaysReturns (outputs ⟨dialect, false⟩ shape.group) := by
    rw [isGroup]
    change AlwaysReturns (columns ⟨dialect, false⟩ group >>= _)
    exact .bind (columns_alwaysReturns dialect writable) fun _ => .pure _
  rw [groupedStatement_eq]
  refine .bind outputs fun _ => .bind ?_ fun _ => .pure _
  exact .bind condition fun _ => .bind (.ofFault (ordering _)) fun _ =>
    .bind (.ofFault paging) fun _ => .pure _

/-- A grouped shape has a plan if it has a statement: it notes the stages that it drops. -/
theorem ofShape_alwaysReturns_of_group (grouped : shape.group.isNull = false)
    (statement : AlwaysReturns
      (groupedStatement ⟨dialect, false⟩ collection shape.group shape)) :
    AlwaysReturns (ofShape ⟨dialect, false⟩ collection shape) := by
  unfold ofShape
  rw [if_neg (by simp [grouped])]
  dsimp only
  split
  · exact .bind (.note _) fun _ => .bind statement fun _ => .pure _
  · exact .bind statement fun _ => .pure _

/-- A shape whose specifications can be written has a plan if its sort and its group are
objects. -/
theorem ofShape_alwaysReturns (json : shape.Inherits Value.IsJson)
    (writable : shape.Inherits fun value => Json.obstacle? value = none)
    (sort : shape.sort.isTruthy = true → shape.sort.isObject = true)
    (group : shape.group.isNull = false → shape.group.isObject = true) :
    AlwaysReturns (ofShape ⟨dialect, false⟩ collection shape) := by
  have condition := Query.whereLine_alwaysReturns dialect
    (PipelineShape.writable_combined writable.filters)
  have ordering (columns : List String) :=
    (Query.orderLine_returns_iff json.sort dialect columns).mpr sort
  have paging := Dialect.paging_returns dialect (PipelineShape.isWritableCount writable.limit)
    (PipelineShape.isWritableCount writable.skip)
  cases grouped : shape.group.isNull with
  | true =>
      rw [ofShape, if_pos grouped]
      refine .bind (.bind ?_ fun _ => .pure _) fun _ => .pure _
      exact .bind condition fun _ => .bind (.ofFault (ordering _)) fun _ =>
        .bind (.ofFault paging) fun _ => .pure _
  | false =>
      obtain ⟨members, isGroup⟩ := Value.isObject_iff.mp (group grouped)
      have membersWritable : Json.obstacle? (.object members) = none := isGroup ▸ writable.group
      have sumsWritable (entry : Key × Value) (member : entry ∈ members) :=
        SumsWritable.of_obstacle (Json.obstacle?_of_mem_members membersWritable entry member)
      exact ofShape_alwaysReturns_of_group dialect collection grouped
        (groupedStatement_alwaysReturns dialect collection isGroup
          (fun entry member _ => sumsWritable entry member) condition ordering paging)

variable {collection} {settings : CompileSettings} {plan : PipelinePlan}
  {entries log : List LogEntry}

/-- What a grouped shape with a plan has taken: a group that is an object, and an ordering. -/
theorem ordered_of_groupedStatement {group : Value} {statement : Statement}
    (returned : (groupedStatement settings collection group shape).Returns entries statement log) :
    group.isObject = true ∧
      ∃ columns line, Query.orderLine settings.dialect columns shape.sort = .ok line := by
  obtain ⟨members, _, isGroup, returned⟩ := Logged.returns_bind.mp returned
  obtain ⟨outputs, _, _, returned⟩ := Logged.returns_bind.mp returned
  obtain ⟨condition, _, _, returned⟩ := Logged.returns_bind.mp returned
  obtain ⟨line, _, ordered, _⟩ := Logged.returns_bind.mp returned
  refine ⟨?_, _, line, (Logged.returns_ofFault.mp ordered).1⟩
  have isObject := (Logged.returns_ofFault.mp isGroup).1
  cases group with
  | object => rfl
  | _ => cases isObject

theorem ordered_of_select {filter sort limit skip : Value} {statement : Statement}
    (returned : (Query.select settings collection filter sort limit skip).Returns entries
      statement log) :
    ∃ columns line, Query.orderLine settings.dialect columns sort = .ok line := by
  obtain ⟨tail, _, returned, _⟩ := Logged.returns_bind.mp returned
  obtain ⟨condition, _, _, returned⟩ := Logged.returns_bind.mp returned
  obtain ⟨line, _, ordered, _⟩ := Logged.returns_bind.mp returned
  exact ⟨_, line, (Logged.returns_ofFault.mp ordered).1⟩

/-- The sort and the group of a shape with a plan are objects, and the plan has the reshaping
stages unless it is grouped. -/
theorem sound_of_ofShape (sortJson : shape.sort.IsJson)
    (returned : (ofShape settings collection shape).Returns entries plan log) :
    (shape.sort.isTruthy = true → shape.sort.isObject = true) ∧
      (shape.group.isNull = false → shape.group.isObject = true) ∧
      plan.post = if shape.group.isNull then shape.post else [] := by
  have sound (ordered : ∃ columns line,
      Query.orderLine settings.dialect columns shape.sort = .ok line) :
      shape.sort.isTruthy = true → shape.sort.isObject = true := by
    obtain ⟨columns, line, ordered⟩ := ordered
    exact (Query.orderLine_returns_iff sortJson settings.dialect columns).mp ⟨line, ordered⟩
  unfold ofShape at returned
  split at returned
  · rename_i ungrouped
    obtain ⟨statement, _, selected, made⟩ := Logged.returns_bind.mp returned
    obtain ⟨rfl, _⟩ := Logged.returns_pure.mp made
    refine ⟨sound (ordered_of_select selected), fun grouped => ?_, (if_pos ungrouped).symm⟩
    rw [ungrouped] at grouped
    cases grouped
  · rename_i grouped
    have taken {entries : List LogEntry} (returned : (groupedStatement settings collection
        shape.group shape >>= fun statement =>
          pure { statement, grouped := true, post := [] : PipelinePlan }).Returns entries plan
          log) :
        (shape.sort.isTruthy = true → shape.sort.isObject = true) ∧
          (shape.group.isNull = false → shape.group.isObject = true) ∧
          plan.post = if shape.group.isNull then shape.post else [] := by
      obtain ⟨statement, _, stated, made⟩ := Logged.returns_bind.mp returned
      obtain ⟨rfl, _⟩ := Logged.returns_pure.mp made
      obtain ⟨isObject, ordered⟩ := ordered_of_groupedStatement stated
      exact ⟨sound ordered, fun _ => isObject, (if_neg grouped).symm⟩
    dsimp only at returned
    split at returned
    · obtain ⟨_, _, _, returned⟩ := Logged.returns_bind.mp returned
      exact taken returned
    · exact taken returned

end Lenient

/-! ## Reshaping documents -/

/-- Documents are objects. -/
def AreDocuments (documents : List Value) : Prop := ∀ document ∈ documents, document.isObject = true

/-- A projection is an object with texts as keys, and the path of an unwinding can be written. -/
def IsApplicable : PostStage → Prop
  | .project specification => ∃ flags : Members, specification = .object flags ∧
      ∀ key ∈ flags.keys, ∃ content, key = .text content
  | .unwind specification => ∃ field, Document.unwindField specification = .ok field

theorem unwindOne_returns {document : Value} (isDocument : document.isObject = true)
    (field : String) :
    ∃ unwound, Document.unwindOne field document = .ok unwound ∧ AreDocuments unwound := by
  obtain ⟨members, rfl⟩ := Value.isObject_iff.mp isDocument
  refine ⟨_, Document.unwindOne_object field members, ?_⟩
  split
  · exact List.forall_mem_map.mpr fun _ _ => rfl
  · exact List.forall_mem_singleton.mpr rfl

/-- An applicable stage makes documents of documents. -/
theorem applyStage_returns {documents : List Value} (areDocuments : AreDocuments documents)
    {stage : PostStage} (applicable : IsApplicable stage) :
    ∃ reshaped, applyStage documents stage = .ok reshaped ∧ AreDocuments reshaped := by
  cases stage with
  | project specification =>
      obtain ⟨flags, rfl, texts⟩ := applicable
      have each : ∀ document ∈ documents, ∃ kept, (do
          let members ← Document.projectFields document (.object flags)
          pure (.object members)) = (.ok kept : Except Fault Value) := by
        intro document isDocument
        obtain ⟨members, rfl⟩ := Value.isObject_iff.mp (areDocuments document isDocument)
        obtain ⟨kept, keeps, _⟩ := Document.keepFlagged_returns members texts
        have projected : Document.projectFields (.object members) (.object flags) = .ok kept :=
          keeps
        exact Except.exists_bind projected ⟨_, rfl⟩
      obtain ⟨reshaped, isReshaped⟩ := Except.exists_mapM each
      refine ⟨reshaped, isReshaped, fun result isResult => ?_⟩
      obtain ⟨document, _, made⟩ := Except.exists_of_mem_mapM isReshaped result isResult
      obtain ⟨members, _, made⟩ := Except.bind_eq_ok.mp made
      cases made
      rfl
  | unwind specification =>
      obtain ⟨field, isField⟩ := applicable
      obtain ⟨unwound, isUnwound⟩ := Except.exists_mapM fun document isDocument =>
        (unwindOne_returns (areDocuments document isDocument) field).imp fun _ => And.left
      refine ⟨unwound.flatten, ?_, fun result isResult => ?_⟩
      · exact Except.bind_eq_ok.mpr
          ⟨field, isField, Except.bind_eq_ok.mpr ⟨unwound, isUnwound, rfl⟩⟩
      · obtain ⟨results, areResults, isResult⟩ := List.mem_flatten.mp isResult
        obtain ⟨document, isDocument, made⟩ :=
          Except.exists_of_mem_mapM isUnwound results areResults
        obtain ⟨_, same, areDocuments⟩ := unwindOne_returns (areDocuments document isDocument) field
        cases same.symm.trans made
        exact areDocuments result isResult

/-- Applicable stages can be applied in turn. -/
theorem foldlM_applyStage_returns {documents : List Value} (areDocuments : AreDocuments documents)
    {stages : List PostStage} (applicable : ∀ stage ∈ stages, IsApplicable stage) :
    ∃ reshaped, stages.foldlM applyStage documents = .ok reshaped := by
  induction stages generalizing documents with
  | nil => exact ⟨documents, rfl⟩
  | cons stage stages ih =>
      obtain ⟨first, others⟩ := List.forall_mem_cons.mp applicable
      obtain ⟨reshaped, applied, areReshaped⟩ := applyStage_returns areDocuments first
      rw [List.foldlM_cons]
      exact Except.exists_bind applied (ih areReshaped others)

/-- The empty document has no field to keep. -/
theorem keepFlagged_empty {flags kept : Members}
    (keeps : Document.keepFlagged (.object []) flags = .ok kept) : kept = [] := by
  induction flags generalizing kept with
  | nil =>
      cases keeps
      rfl
  | cons entry flags ih =>
      obtain ⟨key, flag⟩ := entry
      have missing {value : Option Value}
          (asked : Document.field? (.object []) key = .ok value) : value = none := by
        obtain ⟨present, holds, rest⟩ := Except.bind_eq_ok.mp asked
        obtain ⟨name, _, isPresent⟩ := Except.bind_eq_ok.mp holds
        cases isPresent
        cases rest
        rfl
      unfold Document.keepFlagged at keeps
      cases isSet : flag.isTruthy with
      | false =>
          rw [isSet] at keeps
          obtain ⟨value, asked, rest⟩ := Except.bind_eq_ok.mp keeps
          obtain ⟨others, keepsOthers, rest⟩ := Except.bind_eq_ok.mp rest
          cases asked
          cases rest
          exact ih keepsOthers
      | true =>
          rw [isSet] at keeps
          obtain ⟨value, asked, rest⟩ := Except.bind_eq_ok.mp keeps
          obtain ⟨others, keepsOthers, rest⟩ := Except.bind_eq_ok.mp rest
          obtain rfl := missing asked
          cases rest
          exact ih keepsOthers

/-- A stage that can be applied to the empty document leaves it as it is; a projection is an
object then. -/
theorem applyStage_empty {stage : PostStage} {reshaped : List Value}
    (applied : applyStage [.object []] stage = .ok reshaped) :
    reshaped = [.object []] ∧
      ∀ specification, stage = .project specification → specification.isObject = true := by
  cases stage with
  | project specification =>
      have each := Except.mapM_eq_ok.mp (show List.mapM _ _ = _ from applied)
      cases each with
      | cons projected rest =>
          cases rest
          obtain ⟨kept, projected, made⟩ := Except.bind_eq_ok.mp projected
          obtain ⟨flags, isFlags, keeps⟩ := Except.bind_eq_ok.mp projected
          obtain rfl := keepFlagged_empty keeps
          cases made
          refine ⟨rfl, fun other same => ?_⟩
          cases same
          cases specification with
          | object => rfl
          | _ => cases isFlags
  | unwind specification =>
      obtain ⟨field, isField, _⟩ := Except.bind_eq_ok.mp applied
      have unwound := Document.unwind_single isField []
      exact ⟨Except.ok.inj (applied.symm.trans unwound), nofun⟩

theorem projections_of_foldlM {stages : List PostStage} {reshaped : List Value}
    (applied : stages.foldlM applyStage [.object []] = .ok reshaped) :
    ∀ specification, .project specification ∈ stages → specification.isObject = true := by
  induction stages with
  | nil => nofun
  | cons stage stages ih =>
      rw [List.foldlM_cons] at applied
      obtain ⟨next, first, rest⟩ := Except.bind_eq_ok.mp applied
      obtain ⟨rfl, isObject⟩ := applyStage_empty first
      intro specification isStage
      rcases List.mem_cons.mp isStage with same | later
      · exact isObject specification same.symm
      · exact ih rest specification later

/-- The path of an unwinding that can be written can be written. -/
theorem unwindField_returns {specification : Value}
    (writable : Json.obstacle? specification = none) :
    ∃ field, Document.unwindField specification = .ok field := by
  have worded {path : Value} (pathWritable : Json.obstacle? path = none) :
      ∃ field, path.plainWording.map fieldOfReference = (.ok field : Except Fault String) := by
    have isPath : path.plainWording = .ok path.plainText :=
      if_pos (Value.isWritable_of_obstacle path pathWritable)
    exact ⟨fieldOfReference path.plainText, by rw [isPath]; rfl⟩
  unfold Document.unwindField
  cases specification with
  | object members =>
      refine worded ?_
      dsimp only
      cases found : Members.get? (.text "path") members with
      | none => rfl
      | some path =>
          obtain ⟨member, isMember, rfl⟩ := Members.value_of_get? found
          exact Json.obstacle?_of_mem_members writable member isMember
  | _ => exact worded writable

/-- The reshaping stages of a sound shape without a group are applicable. -/
theorem isApplicable_of_isSound {shape : PipelineShape} (sound : shape.IsSound)
    (json : shape.Inherits Value.IsJson)
    (writable : shape.Inherits fun value => Json.obstacle? value = none)
    (ungrouped : shape.group.isNull = true) : ∀ stage ∈ shape.post, IsApplicable stage := by
  intro stage isStage
  cases stage with
  | project specification =>
      obtain ⟨flags, rfl⟩ := Value.isObject_iff.mp (sound.projections ungrouped _ isStage)
      have flagsJson : (Value.object flags).IsJson := json.post _ isStage
      exact ⟨flags, rfl, flagsJson.textKeyed.texts⟩
  | unwind specification => exact unwindField_returns (writable.post _ isStage)

/-! ## Stages that are passed over -/

open PipelineShape (ofMembers conjoined)
open Stage (members specifications)

/-- A stage that is not passed over: its key is known, a filter is an object, and a limit or a
skip is a count. -/
def takesPart (stage : Key × Value) : Bool :=
  match StageKind.ofKey? stage.1.shown with
  | some .filter => stage.2.isObject
  | some .limit => (Stage.wellFormed? stage.2).isSome
  | some .skip => (Stage.wellFormed? stage.2).isSome
  | some _ => true
  | none => false

/-- What is read off the stages that take part is read off all stages. -/
theorem filterMap_takesPart {α : Type} {read : Key × Value → Option α}
    (passed : ∀ stage, takesPart stage = false → read stage = none) (stages : Members) :
    (stages.filter takesPart).filterMap read = stages.filterMap read := by
  rw [List.filterMap_filter]
  refine List.filterMap_congr fun stage _ => ?_
  cases taken : takesPart stage with
  | false => simp [passed stage taken]
  | true => simp

theorem specifications_eq_filterMap (kind : StageKind) (stages : Members) :
    specifications kind stages = stages.filterMap fun stage =>
      if StageKind.ofKey? stage.1.shown = some kind then some stage.2 else none := by
  induction stages with
  | nil => rfl
  | cons stage stages ih =>
      unfold specifications at ih ⊢
      rw [List.filterMap_cons, ← ih, List.filter_cons]
      by_cases isKind : StageKind.ofKey? stage.1.shown = some kind <;> simp [isKind]

/-- The stages that are passed over do not count. -/
theorem alike_takesPart (settings : CompileSettings) (stages : Members) :
    (ofMembers stages).Alike settings (ofMembers (stages.filter takesPart)) := by
  have unread {kind : StageKind} (always : ∀ stage : Key × Value,
      StageKind.ofKey? stage.1.shown = some kind → takesPart stage = true) :
      specifications kind (stages.filter takesPart) = specifications kind stages := by
    rw [specifications_eq_filterMap, specifications_eq_filterMap]
    refine filterMap_takesPart (fun stage passed => if_neg fun isKind => ?_) stages
    rw [always stage isKind] at passed
    cases passed
  have counts {kind : StageKind} (counted : ∀ stage : Key × Value,
      StageKind.ofKey? stage.1.shown = some kind →
        takesPart stage = (Stage.wellFormed? stage.2).isSome) :
      (specifications kind (stages.filter takesPart)).filterMap Stage.wellFormed? =
        (specifications kind stages).filterMap Stage.wellFormed? := by
    rw [specifications_eq_filterMap, specifications_eq_filterMap, List.filterMap_filterMap,
      List.filterMap_filterMap]
    refine filterMap_takesPart (fun stage passed => ?_) stages
    split
    · rename_i isKind
      rw [counted stage isKind] at passed
      simpa using passed
    · rfl
  have filters : (specifications .filter (stages.filter takesPart)).filter
      (fun filter => filter.isObject && filter.isTruthy) =
        (specifications .filter stages).filter fun filter =>
          filter.isObject && filter.isTruthy := by
    rw [specifications_eq_filterMap, specifications_eq_filterMap, List.filter_filterMap,
      List.filter_filterMap]
    refine filterMap_takesPart (fun stage passed => ?_) stages
    split
    · rename_i isKind
      have noObject : stage.2.isObject = false := by simpa [takesPart, isKind] using passed
      simp [Option.filter, noObject]
    · rfl
  have reshaping :
      (stages.filter takesPart).filterMap Stage.post? = stages.filterMap Stage.post? := by
    refine filterMap_takesPart (fun stage passed => ?_) stages
    cases kind : StageKind.ofKey? stage.1.shown with
    | none => simp [Stage.post?, kind]
    | some named =>
        cases named with
        | project => simp [takesPart, kind] at passed
        | unwind => simp [takesPart, kind] at passed
        | _ => simp [Stage.post?, kind]
  have sorts : specifications .sort (stages.filter takesPart) = specifications .sort stages :=
    unread fun stage isKind => by simp [takesPart, isKind]
  have groups : specifications .group (stages.filter takesPart) = specifications .group stages :=
    unread fun stage isKind => by simp [takesPart, isKind]
  have limits : (specifications .limit (stages.filter takesPart)).filterMap Stage.wellFormed? =
      (specifications .limit stages).filterMap Stage.wellFormed? :=
    counts fun stage isKind => by simp [takesPart, isKind]
  have skips : (specifications .skip (stages.filter takesPart)).filterMap Stage.wellFormed? =
      (specifications .skip stages).filterMap Stage.wellFormed? :=
    counts fun stage isKind => by simp [takesPart, isKind]
  have group : (ofMembers stages).group = (ofMembers (stages.filter takesPart)).group :=
    congrArg PipelineShape.firstPresent groups.symm
  exact {
    filters := congrArg (fun filters => Filter.condition (conjoined filters)) filters.symm
    sort := congrArg (fun sorts : List Value => sorts.getLast?.getD .null) sorts.symm
    limit := congrArg List.getLast? limits.symm
    skip := congrArg List.getLast? skips.symm
    grouped := congrArg Value.isNull group
    outputs := group ▸ sameOutcome_outputs settings _
    post := reshaping.symm }

/-- A pipeline compiles leniently as it does without the stages that are passed over. -/
theorem sameOutcome_takesPart (dialect : Dialect) (collection : String) (entries : List Value) :
    SameOutcome (compile ⟨dialect, false⟩ collection (.list entries))
      (compile ⟨dialect, false⟩ collection
        (.list [.object ((members entries).filter takesPart)])) := by
  have normal := sameOutcome_compile_ofShape dialect collection
  have single (stages : Members) : members [.object stages] = stages := List.append_nil stages
  have alike := sameOutcome_ofShape (alike_takesPart ⟨dialect, false⟩ (members entries)) collection
  have passed := normal [.object ((members entries).filter takesPart)]
  rw [single] at passed
  exact (normal entries).trans (alike.trans passed.symm)

/-! ## Whole pipelines -/

/-- Leniently the pipeline has a plan, strictly it has one or is refused for something that is
not supported, and the reshaping stages of each plan can be applied to all documents. -/
structure Succeeds (dialect : Dialect) (collection : String) (entries : List Value) : Prop where
  lenient : AlwaysReturns (compile ⟨dialect, false⟩ collection (.list entries))
  strict : ∀ log,
    (∃ plan after, (compile ⟨dialect, true⟩ collection (.list entries)).Returns log plan after) ∨
      ∃ operator kind, ((compile ⟨dialect, true⟩ collection (.list entries)).after log).1 =
        .error (.store (.unsupported operator kind))
  reshapes : ∀ strict log plan after,
    (compile ⟨dialect, strict⟩ collection (.list entries)).Returns log plan after →
      ∀ documents, AreDocuments documents → ∃ reshaped, plan.applyPost documents = .ok reshaped

section Json

variable {entries : List Value} (json : (Value.list entries).IsJson)

include json

theorem inherits_isJson : (ofMembers (members entries)).Inherits Value.IsJson :=
  PipelineShape.inherits_ofMembers .null (Stage.isJson_of_mem_members json)

theorem isSound_of_succeeds {dialect : Dialect} {collection : String}
    (succeeds : Succeeds dialect collection entries) : (ofMembers (members entries)).IsSound := by
  obtain ⟨plan, after, returned⟩ := succeeds.lenient []
  obtain ⟨_, shaped⟩ := (sameOutcome_compile_ofShape dialect collection entries).returns returned []
  obtain ⟨sort, group, isPost⟩ := sound_of_ofShape (inherits_isJson json).sort shaped
  refine ⟨sort, group, fun ungrouped => ?_⟩
  -- the empty document passes every stage unchanged, so it comes to all projections
  obtain ⟨reshaped, applied⟩ := succeeds.reshapes false [] plan after returned [.object []]
    (List.forall_mem_singleton.mpr rfl)
  rw [applyPost, isPost, if_pos ungrouped] at applied
  exact projections_of_foldlM applied

theorem succeeds_of_isSound (isWritable : (Value.list entries).isWritable = true)
    (sound : (ofMembers (members entries)).IsSound) (dialect : Dialect) (collection : String) :
    Succeeds dialect collection entries := by
  have normal := sameOutcome_compile_ofShape dialect collection entries
  have shapeJson := inherits_isJson json
  have writable : Json.obstacle? (.list entries) = none :=
    json.obstacle?_eq_none_iff.mpr isWritable
  have shapeWritable :
      (ofMembers (members entries)).Inherits fun value => Json.obstacle? value = none :=
    PipelineShape.inherits_ofMembers rfl (Stage.writable_of_mem_members writable)
  have agrees := compile_refusesOrAgrees dialect writable collection
  have lenient : AlwaysReturns (compile ⟨dialect, false⟩ collection (.list entries)) := by
    intro log
    obtain ⟨plan, _, shaped⟩ := ofShape_alwaysReturns dialect collection shapeJson shapeWritable
      sound.sort sound.group log
    exact ⟨plan, normal.symm.returns shaped log⟩
  have reshapes {log plan after} (returned :
      (compile ⟨dialect, false⟩ collection (.list entries)).Returns log plan after) :
      ∀ documents, AreDocuments documents →
        ∃ reshaped, plan.applyPost documents = .ok reshaped := by
    obtain ⟨_, shaped⟩ := normal.returns returned []
    obtain ⟨_, _, isPost⟩ := sound_of_ofShape shapeJson.sort shaped
    intro documents areDocuments
    refine foldlM_applyStage_returns areDocuments fun stage isStage => ?_
    rw [isPost] at isStage
    split at isStage
    · rename_i ungrouped
      exact isApplicable_of_isSound sound shapeJson shapeWritable ungrouped stage isStage
    · cases isStage
  refine ⟨lenient, fun log => ?_, fun strict log plan after returned => ?_⟩
  · rcases agrees log with refused | same
    · exact .inr refused
    · obtain ⟨plan, after, returned⟩ := lenient log
      exact .inl ⟨plan, after, same.trans returned⟩
  · cases strict with
    | false => exact reshapes returned
    | true =>
        rcases agrees log with ⟨operator, kind, refused⟩ | same
        · rw [returned] at refused
          cases refused
        · exact reshapes (same.symm.trans returned)

/-- A pipeline of JSON succeeds only if the sort that counts, its group and its projections are
objects where they are taken for such, and then it does, as long as its integers can be
written.  All other malformed stages are passed over: leniently the pipeline compiles as it
does without them. -/
theorem succeeds_iff_isSound (dialect : Dialect) (collection : String) :
    (Succeeds dialect collection entries → (ofMembers (members entries)).IsSound) ∧
      ((Value.list entries).isWritable = true → (ofMembers (members entries)).IsSound →
        Succeeds dialect collection entries) ∧
      SameOutcome (compile ⟨dialect, false⟩ collection (.list entries))
        (compile ⟨dialect, false⟩ collection
          (.list [.object ((members entries).filter takesPart)])) :=
  ⟨isSound_of_succeeds json,
    fun isWritable sound => succeeds_of_isSound json isWritable sound dialect collection,
    sameOutcome_takesPart dialect collection entries⟩

end Json

/-- Malformed stages of all kinds that are checked, and an empty text to sort by. -/
theorem succeeds_malformedStages :
    let entries : List Value :=
      [ .object [("$match", .int 5), ("limit", .int (-1)), ("$oops", .null)], .text "$group",
        .object [("$project", .object [("a", .int 1)]), ("$unwind", .list [.null])],
        .object [("$sort", .text ""), ("$skip", .text "1"), ("group", .null)] ]
    let effective : Members :=
      [ ("$project", .object [("a", .int 1)]), ("$unwind", .list [.null]), ("$sort", .text ""),
        ("group", .null) ]
    (Value.list entries).IsJson ∧ (ofMembers (members entries)).IsSound ∧
      Succeeds .mysql "orders" entries ∧
      SameOutcome (compile ⟨.mysql, false⟩ "orders" (.list entries))
        (compile ⟨.mysql, false⟩ "orders" (.list [.object effective])) := by
  intro entries effective
  have json : (Value.list entries).IsJson := by
    simp [entries, Value.isJson_list_iff, Value.isJson_object_iff, Members.keys, Value.IsJson.null,
      Value.IsJson.int, Value.IsJson.text]
  have sound : (ofMembers (members entries)).IsSound := by
    refine ⟨by decide +kernel, by decide +kernel, fun _ specification isProjection => ?_⟩
    have stages : (ofMembers (members entries)).post =
        [.project (.object [("a", .int 1)]), .unwind (.list [.null])] := rfl
    rw [stages] at isProjection
    obtain rfl : specification = .object [("a", .int 1)] := by simpa using isProjection
    rfl
  have writable : (Value.list entries).isWritable = true := by decide +kernel
  obtain ⟨_, succeeds, passed⟩ := succeeds_iff_isSound json .mysql "orders"
  exact ⟨json, sound, succeeds writable sound, passed⟩

/-- A group that is a number, a sort that is a list, and a projection that is a number. -/
theorem succeeds_not_unchecked :
    let compiled (stage : Key × Value) :=
      (compile ⟨.postgres, false⟩ "c" (.list [.object [stage]])).after []
    (compiled ("$group", .int 5)).1 = .error (.fault .notAnObject) ∧
      (compiled ("$sort", .list [.text "a"])).1 = .error (.fault .notAnObject) ∧
      (∃ plan, (compiled ("$project", .int 1)).1 = .ok plan ∧
        plan.applyPost [.object []] = .error .notAnObject) ∧
      ¬ Succeeds .postgres "c" [.object [("$group", .int 5)]] := by
  intro compiled
  have grouped : (compiled ("$group", .int 5)).1 = .error (.fault .notAnObject) := rfl
  refine ⟨grouped, rfl, ⟨_, rfl, rfl⟩, fun succeeds => ?_⟩
  obtain ⟨plan, log, returned⟩ := succeeds.lenient []
  cases grouped.symm.trans (congrArg Prod.fst returned)

end PipelinePlan

end DocStore
