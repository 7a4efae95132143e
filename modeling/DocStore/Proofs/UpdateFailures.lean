import DocStore.Proofs.Double.Overflow
import DocStore.Proofs.PulledItems

/-!
# How updates fail

On values of JSON setting, pushing and pulling always succeed.  An increment whose kinds do
not fit is reported as an invalid update, but one that adds an integer beyond the doubles to a
double ends with a fault of the sum.  Where all increments can be done, a list of fields to
remove that holds a list or an object ends the update with a fault too.  Everything else that
ends an update is an error of the library.
-/

namespace DocStore

/-! ## Sums of JSON values -/

namespace Value

/-- One value is a double and the other one an integer that is rounded beyond the doubles. -/
def ExceedsDoubles : Value → Value → Prop
  | .float _, .int number => Double.firstBeyond ≤ number.natAbs
  | .int number, .float _ => Double.firstBeyond ≤ number.natAbs
  | _, _ => False

variable {left right sum : Value}

theorem addToFloat_cases (number : Float) (amount : Int) :
    (∃ sum, addToFloat number amount = .ok sum ∧ sum.IsJson ∧
        ¬ Double.firstBeyond ≤ amount.natAbs) ∨
      (addToFloat number amount = .error .outOfRange ∧ Double.firstBeyond ≤ amount.natAbs) := by
  rw [← Double.ofInt?_eq_none_iff]
  unfold addToFloat
  cases Double.ofInt? amount with
  | none => exact .inr ⟨rfl, rfl⟩
  | some rounded => exact .inl ⟨_, rfl, .float _, nofun⟩

/-- Truth values are never beyond the doubles. -/
theorem addToFloat_flag (number : Float) (flag : Bool) :
    ∃ sum, addToFloat number (if flag then 1 else 0) = .ok sum ∧ sum.IsJson := by
  rcases addToFloat_cases number (if flag then 1 else 0) with ⟨sum, added, isJson, _⟩ | ⟨_, beyond⟩
  · exact ⟨sum, added, isJson⟩
  · refine absurd beyond ?_
    cases flag <;> decide +kernel

/-- Values of JSON have a sum, or their kinds do not fit, or an integer exceeds the doubles. -/
theorem add_cases (leftJson : left.IsJson) (rightJson : right.IsJson) :
    (∃ sum, left.add right = .ok sum ∧ sum.IsJson ∧ ¬ ExceedsDoubles left right) ∨
      (left.add right = .error .unsuitableKind ∧ ¬ ExceedsDoubles left right) ∨
      (left.add right = .error .outOfRange ∧ ExceedsDoubles left right) := by
  cases leftJson <;> cases rightJson
  case int.float whole number => exact (addToFloat_cases number whole).imp id .inr
  case float.int number whole => exact (addToFloat_cases number whole).imp id .inr
  case bool.float flag number =>
      obtain ⟨sum, added, isJson⟩ := addToFloat_flag number flag
      exact .inl ⟨sum, added, isJson, id⟩
  case float.bool number flag =>
      obtain ⟨sum, added, isJson⟩ := addToFloat_flag number flag
      exact .inl ⟨sum, added, isJson, id⟩
  case list.list lefts leftValues rights rightValues =>
      exact .inl ⟨_, rfl, .list (List.forall_mem_append.mpr ⟨leftValues, rightValues⟩), id⟩
  all_goals first
    | exact .inl ⟨_, rfl, by constructor, id⟩
    | exact .inr (.inl ⟨rfl, id⟩)

theorem isJson_of_add (leftJson : left.IsJson) (rightJson : right.IsJson)
    (added : left.add right = .ok sum) : sum.IsJson := by
  rcases add_cases leftJson rightJson with ⟨_, isSum, isJson, _⟩ | ⟨refused, _⟩ | ⟨refused, _⟩
  · exact Except.ok.inj (isSum.symm.trans added) ▸ isJson
  · cases refused.symm.trans added
  · cases refused.symm.trans added

theorem add_eq_outOfRange_iff (leftJson : left.IsJson) (rightJson : right.IsJson) :
    left.add right = .error .outOfRange ↔ ExceedsDoubles left right := by
  rcases add_cases leftJson rightJson with ⟨_, added, _, within⟩ | ⟨refused, within⟩ | both
  · simp [added, within]
  · simp [refused, within]
  · simp [both]

end Value

namespace Update

variable {document update changes result : Members}

/-! ## Revisions of JSON documents -/

namespace Revision

/-- The revision puts values of JSON where its operands and the values before are such. -/
def KeepsJson (revision : Revision) : Prop :=
  ∀ key operand current value, operand.IsJson → (∀ old, current = some old → old.IsJson) →
    revision key operand current = .ok (some value) → value.IsJson

theorem keepsJson_set : KeepsJson set := by
  rintro key operand current value isJson _ revised
  cases revised
  exact isJson

theorem isJson_counted {current : Option Value} (isJson : ∀ old, current = some old → old.IsJson) :
    (counted current).IsJson := by
  unfold counted
  split
  · exact .int 0
  · exact .int 0
  · exact isJson _ rfl

theorem keepsJson_increment : KeepsJson increment := by
  rintro key amount current value amountJson currentJson revised
  unfold increment at revised
  split at revised
  · rename_i sum added
    cases revised
    exact Value.isJson_of_add (isJson_counted currentJson) amountJson added
  · cases revised
  · cases revised

theorem keepsJson_push : KeepsJson push := by
  rintro key item current value itemJson currentJson revised
  have isValue : withPushed (some item) current = some value := Except.ok.inj revised
  have single : (Value.list [item]).IsJson := .list (List.forall_mem_singleton.mpr itemJson)
  cases current with
  | none =>
      cases isValue
      exact single
  | some old =>
      cases old with
      | list items =>
          cases isValue
          have itemsJson := Value.isJson_list_iff.mp (currentJson _ rfl)
          exact .list
            (List.forall_mem_append.mpr ⟨itemsJson, List.forall_mem_singleton.mpr itemJson⟩)
      | _ =>
          cases isValue
          exact single

/-- Revisions that put values of JSON leave a document of JSON. -/
theorem isJson_reviseAll {revision : Revision} (keeps : revision.KeepsJson)
    (documentJson : (Value.object document).IsJson) (changesJson : (Value.object changes).IsJson)
    (revised : revision.reviseAll changes document = .ok result) :
    (Value.object result).IsJson := by
  induction changes generalizing document with
  | nil =>
      cases revised
      exact documentJson
  | cons change changes ih =>
      obtain ⟨key, operand⟩ := change
      obtain ⟨content, rfl⟩ := changesJson.textKeyed.texts key List.mem_cons_self
      obtain ⟨value?, isValue, rest⟩ := reviseAll_cons_eq_ok.mp revised
      refine ih ?_ (changesJson.sublist (List.sublist_cons_self _ _)) rest
      cases value? with
      | none => exact documentJson
      | some value =>
          exact documentJson.set content (keeps _ operand _ value
            (changesJson.of_mem List.mem_cons_self) (fun old => documentJson.get?) isValue)

end Revision

theorem isJson_changesOf (updateJson : (Value.object update).IsJson) (operator : UpdateOperator) :
    (Value.object (changesOf operator update)).IsJson := by
  have none : (Value.object []).IsJson := .object nofun .nil nofun
  unfold changesOf
  cases found : operandOf operator update with
  | none => exact none
  | some operand =>
      obtain ⟨entry, isEntry, _, rfl⟩ := exists_of_operandOf found
      have operandJson := updateJson.of_mem isEntry
      cases isOperand : entry.2 with
      | object changes => exact isOperand ▸ operandJson
      | _ => exact none

/-! ## Fields to remove -/

/-- Unset is given a list of fields with a list or an object among them. -/
def ListsContainer (update : Members) : Prop :=
  ∃ items, operandOf .unset update = some (.list items) ∧ ∃ item ∈ items, item.isContainer = true

theorem asKey_cases {item : Value} (isJson : item.IsJson) :
    (item.asKey = .error .unsuitableKind ∧ item.isContainer = true) ∨
      ((∃ key, item.asKey = .ok key) ∧ item.isContainer = false) := by
  cases isJson with
  | list => exact .inl ⟨rfl, rfl⟩
  | object => exact .inl ⟨rfl, rfl⟩
  | _ => exact .inr ⟨⟨_, rfl⟩, rfl⟩

theorem mapM_asKey_cases {items : List Value} (itemsJson : ∀ item ∈ items, item.IsJson) :
    (items.mapM Value.asKey = .error .unsuitableKind ∧ ∃ item ∈ items, item.isContainer = true) ∨
      ((∃ keys, items.mapM Value.asKey = .ok keys) ∧
        ∀ item ∈ items, item.isContainer = false) := by
  induction items with
  | nil => exact .inr ⟨⟨[], rfl⟩, nofun⟩
  | cons item items ih =>
      obtain ⟨firstJson, othersJson⟩ := List.forall_mem_cons.mp itemsJson
      rw [List.mapM_cons]
      rcases asKey_cases firstJson with ⟨refused, isContainer⟩ | ⟨⟨key, isKey⟩, flat⟩
      · exact .inl ⟨by rw [refused]; rfl, item, List.mem_cons_self, isContainer⟩
      · rw [isKey]
        rcases ih othersJson with ⟨refused, other, later, isContainer⟩ | ⟨⟨keys, areKeys⟩, others⟩
        · exact .inl ⟨by rw [refused]; rfl, other, List.mem_cons_of_mem _ later, isContainer⟩
        · exact .inr ⟨⟨key :: keys, by rw [areKeys]; rfl⟩, List.forall_mem_cons.mpr ⟨flat, others⟩⟩

/-- Removing fields fails, whatever the document, if a list or an object is listed among them. -/
theorem removeNamed_cases (updateJson : (Value.object update).IsJson) :
    (ListsContainer update ∧ ∀ document,
        removeNamed (operandOf .unset update) document = .error (.fault .unsuitableKind)) ∨
      (¬ ListsContainer update ∧ ∀ document, ∃ result,
        removeNamed (operandOf .unset update) document = .ok result) := by
  unfold ListsContainer
  cases found : operandOf .unset update with
  | none => exact .inr ⟨by simp, fun document => ⟨document, rfl⟩⟩
  | some operand =>
      obtain ⟨entry, isEntry, _, rfl⟩ := exists_of_operandOf found
      have operandJson := updateJson.of_mem isEntry
      cases isOperand : entry.2 with
      | list items =>
          rw [isOperand] at operandJson
          rcases mapM_asKey_cases (Value.isJson_list_iff.mp operandJson) with
            ⟨refused, container⟩ | ⟨⟨keys, areKeys⟩, flat⟩
          · refine .inl ⟨⟨items, rfl, container⟩, fun document => ?_⟩
            rw [removeNamed, unsetOperand, refused]
            rfl
          · refine .inr ⟨?_, fun document => ?_⟩
            · rintro ⟨_, same, item, isItem, isContainer⟩
              cases same
              rw [flat item isItem] at isContainer
              cases isContainer
            · rw [removeNamed, unsetOperand, areKeys]
              exact ⟨_, rfl⟩
      | _ => exact .inr ⟨by simp, fun document => ⟨_, rfl⟩⟩

/-! ## Increments of JSON documents -/

theorem increment_outOfRange_iff {key : Key} {amount : Value} {current : Option Value} :
    Revision.increment key amount current = .error (.fault .outOfRange) ↔
      (counted current).add amount = .error .outOfRange := by
  unfold Revision.increment
  cases (counted current).add amount with
  | ok sum => simp
  | error fault => cases fault <;> simp

/-- Every increment can be done. -/
def Increases (update document : Members) : Prop :=
  ∀ (field : String) amount, (changesOf .increment update).get? field = some amount →
    ∃ sum, (incrementedFrom document update field).add amount = .ok sum

/-- The increments before a field can be done, and that of the field adds an integer beyond the
doubles to a double. -/
def OverflowsAt (update document : Members) (field : String) : Prop :=
  ∃ earlier amount later, changesOf .increment update = earlier ++ (.text field, amount) :: later ∧
    (∀ name before, (.text name, before) ∈ earlier →
      ∃ sum, (incrementedFrom document update name).add before = .ok sum) ∧
    (incrementedFrom document update field).ExceedsDoubles amount

section Increments

variable (updateJson : (Value.object update).IsJson)

include updateJson

theorem incrementedFrom_eq (document : Members) (field : String) :
    incrementedFrom document update field =
      counted ((document.merge (changesOf .set update)).get? field) := by
  rw [get?_merge updateJson.textKeyed, incrementedFrom]

theorem increases_iff :
    (∃ increased, Revision.increment.reviseAll (changesOf .increment update)
      (document.merge (changesOf .set update)) = .ok increased) ↔ Increases update document := by
  have keyed := textKeyed_changesOf updateJson.textKeyed .increment
  simp only [Increases, incrementedFrom_eq updateJson]
  constructor
  · rintro ⟨increased, revised⟩ field amount named
    obtain ⟨value, isValue, _⟩ := Revision.get?_reviseAll keyed named revised
    exact increment_returns_iff.mp ⟨value, isValue⟩
  · intro increases
    exact Revision.exists_reviseAll keyed fun field amount named =>
      increment_returns_iff.mpr (increases field amount named)

variable (documentJson : (Value.object document).IsJson)

include documentJson

theorem isJson_merged : (Value.object (document.merge (changesOf .set update))).IsJson :=
  Revision.isJson_reviseAll Revision.keepsJson_set documentJson (isJson_changesOf updateJson .set)
    (applyFields_eq_reviseAll (show revisionOf .set = some .set from rfl) document _).symm

theorem isJson_incrementedFrom (field : String) :
    (incrementedFrom document update field).IsJson := by
  rw [incrementedFrom_eq updateJson]
  exact Revision.isJson_counted fun _ => (isJson_merged updateJson documentJson).get?

/-- Increments that fail report an invalid update, or they are out of range. -/
theorem increments_fail {failure : Failure}
    (failed : Revision.increment.reviseAll (changesOf .increment update)
      (document.merge (changesOf .set update)) = .error failure) :
    (∃ message field original, failure = .store (.invalidUpdate message field original)) ∨
      failure = .fault .outOfRange := by
  have changesJson := isJson_changesOf updateJson .increment
  obtain ⟨field, earlier, amount, later, isList, _, refused⟩ :=
    (Revision.reviseAll_eq_error_iff changesJson.textKeyed).mp failed
  have amountJson : amount.IsJson :=
    changesJson.of_mem (isList ▸ List.mem_append_right earlier List.mem_cons_self)
  have currentJson := incrementedFrom_eq updateJson document field ▸
    isJson_incrementedFrom updateJson documentJson field
  unfold Revision.increment at refused
  rcases Value.add_cases currentJson amountJson with ⟨sum, added, _⟩ | ⟨unfit, _⟩ | ⟨beyond, _⟩
  · rw [added] at refused
    cases refused
  · rw [unfit] at refused
    cases refused
    exact .inl ⟨_, _, _, rfl⟩
  · rw [beyond] at refused
    cases refused
    exact .inr rfl

theorem increments_outOfRange_iff :
    Revision.increment.reviseAll (changesOf .increment update)
        (document.merge (changesOf .set update)) = .error (.fault .outOfRange) ↔
      ∃ field, OverflowsAt update document field := by
  have changesJson := isJson_changesOf updateJson .increment
  rw [Revision.reviseAll_eq_error_iff changesJson.textKeyed]
  refine exists_congr fun field => exists_congr fun earlier => exists_congr fun amount =>
    exists_congr fun later => and_congr_right fun isList => ?_
  have amountJson : amount.IsJson :=
    changesJson.of_mem (isList ▸ List.mem_append_right earlier List.mem_cons_self)
  have currentJson := isJson_incrementedFrom updateJson documentJson field
  rw [increment_outOfRange_iff, ← Value.add_eq_outOfRange_iff currentJson amountJson]
  simp only [increment_returns_iff, incrementedFrom_eq updateJson]

/-- An update fails with its increments, or else with the fields that it removes. -/
theorem snapshot_cases :
    (∃ failure, snapshot update document = .error failure ∧
      Revision.increment.reviseAll (changesOf .increment update)
        (document.merge (changesOf .set update)) = .error failure) ∨
    (Increases update document ∧ ListsContainer update ∧
      snapshot update document = .error (.fault .unsuitableKind)) ∨
    (Increases update document ∧ ¬ ListsContainer update ∧
      ∃ result, snapshot update document = .ok result) := by
  rw [snapshot_eq_bind]
  cases incremented : Revision.increment.reviseAll (changesOf .increment update)
      (document.merge (changesOf .set update)) with
  | error failure => exact .inl ⟨failure, rfl, rfl⟩
  | ok increased =>
      right
      have increases := (increases_iff updateJson).mp ⟨increased, incremented⟩
      have increasedJson := Revision.isJson_reviseAll Revision.keepsJson_increment
        (isJson_merged updateJson documentJson) (isJson_changesOf updateJson .increment) incremented
      obtain ⟨pushed, isPushed⟩ : ∃ pushed,
          Revision.push.reviseAll (changesOf .push update) increased = .ok pushed :=
        ⟨_, (applyFields_eq_reviseAll (show revisionOf .push = some .push from rfl) _ _).symm⟩
      have pushedJson := Revision.isJson_reviseAll Revision.keepsJson_push increasedJson
        (isJson_changesOf updateJson .push) isPushed
      have pulled := reviseAll_pull pushedJson (isJson_changesOf updateJson .pull)
      simp only [bind, Except.bind, isPushed, pulled]
      rcases removeNamed_cases updateJson with ⟨lists, refused⟩ | ⟨clear, removes⟩
      · exact .inl ⟨increases, lists, refused _⟩
      · exact .inr ⟨increases, clear, removes _⟩

theorem snapshot_outOfRange_iff :
    snapshot update document = .error (.fault .outOfRange) ↔
      ∃ field, OverflowsAt update document field := by
  rw [← increments_outOfRange_iff updateJson documentJson]
  rcases snapshot_cases updateJson documentJson with
    ⟨failure, failed, incremented⟩ | ⟨increases, _, failed⟩ | ⟨increases, _, result, ended⟩
  · rw [failed, incremented]
  · obtain ⟨increased, incremented⟩ := (increases_iff updateJson).mpr increases
    simp [failed, incremented]
  · obtain ⟨increased, incremented⟩ := (increases_iff updateJson).mpr increases
    simp [ended, incremented]

theorem snapshot_unsuitableKind_iff :
    snapshot update document = .error (.fault .unsuitableKind) ↔
      Increases update document ∧ ListsContainer update := by
  rcases snapshot_cases updateJson documentJson with
    ⟨failure, failed, incremented⟩ | ⟨increases, lists, failed⟩ | ⟨increases, clear, result, ended⟩
  · have refused : ¬ Increases update document := by
      rw [← increases_iff updateJson, incremented]
      nofun
    rcases increments_fail updateJson documentJson incremented with ⟨_, _, _, rfl⟩ | rfl <;>
      simp [failed, refused]
  · simp [failed, increases, lists]
  · simp [ended, clear]

/-- An update that fails reports an invalid update, or it ends with one of two faults. -/
theorem snapshot_fails {failure : Failure}
    (failed : snapshot update document = .error failure) :
    (∃ message field original, failure = .store (.invalidUpdate message field original)) ∨
      failure = .fault .outOfRange ∨ failure = .fault .unsuitableKind := by
  rcases snapshot_cases updateJson documentJson with
    ⟨first, stopped, incremented⟩ | ⟨_, _, stopped⟩ | ⟨_, _, result, ended⟩
  · obtain rfl := Except.error.inj (stopped.symm.trans failed)
    exact (increments_fail updateJson documentJson incremented).imp id .inl
  · exact .inr (.inr (Except.error.inj (failed.symm.trans stopped)))
  · cases ended.symm.trans failed

end Increments

/-! ## Whole updates -/

/-- The ways in which an update is meant to end: with a document, or with one of two errors of
the library. -/
def EndsProperly (strict : Bool) : Except Failure Members → Prop
  | .ok _ => True
  | .error (.store (.invalidUpdate ..)) => True
  | .error (.store (.unsupported _ kind)) => strict = true ∧ kind = "update"
  | .error _ => False

/-- A JSON update of a JSON document ends with a document or an error of the library, but for two
faults: of an increment that overflows, and of a list or an object among the fields to remove
when all increments can be done.  An operator that is given twice counts with its last operand. -/
theorem apply_endsProperly (documentJson : (Value.object document).IsJson)
    (updateJson : (Value.object update).IsJson) (strict : Bool) (entries : List LogEntry) :
    let outcome := ((apply strict (.object document) (.object update)).after entries).1
    (outcome = .error (.fault .outOfRange) ↔
      IsRecognised strict update ∧ ∃ field, OverflowsAt update.reverse document field) ∧
    (outcome = .error (.fault .unsuitableKind) ↔
      IsRecognised strict update ∧ Increases update.reverse document ∧
        ListsContainer update.reverse) ∧
    (EndsProperly strict outcome ↔
      outcome ≠ .error (.fault .outOfRange) ∧ outcome ≠ .error (.fault .unsuitableKind)) := by
  intro outcome
  by_cases recognised : IsRecognised strict update
  · have isOutcome : outcome = snapshot update.reverse document :=
      hasOutcome_apply_reverse recognised document entries
    have reverseJson := updateJson.reverse
    refine ⟨?_, ?_, ?_⟩
    · rw [isOutcome, snapshot_outOfRange_iff reverseJson documentJson, and_iff_right recognised]
    · rw [isOutcome, snapshot_unsuitableKind_iff reverseJson documentJson,
        and_iff_right recognised]
    · rw [isOutcome]
      cases ended : snapshot update.reverse document with
      | ok result => simp [EndsProperly]
      | error failure =>
          rcases snapshot_fails reverseJson documentJson ended with ⟨_, _, _, rfl⟩ | rfl | rfl <;>
            simp [EndsProperly]
  · obtain ⟨key, refused⟩ := hasOutcome_apply_unsupported recognised document
    have isOutcome : outcome = .error (.store (.unsupported key "update")) := refused entries
    have isStrict : strict = true := by
      by_contra lenient
      exact recognised fun isStrict => absurd isStrict lenient
    subst isStrict
    simp [isOutcome, recognised, EndsProperly]

/-- An increment whose kinds do not fit comes before the fields to remove. -/
theorem apply_endsProperly_invalid :
    let document : Members := [("a", .int 1), ("b", .text "x")]
    let update : Members :=
      [("unset", .list [.object []]), ("$inc", .object [("a", .bool true), ("b", .int 1)])]
    let outcome := ((apply true (.object document) (.object update)).after []).1
    (Value.object document).IsJson ∧ (Value.object update).IsJson ∧
      outcome = .error (.store (.invalidUpdate "Cannot apply $inc to field 'b' holding str" "b"
        (some (.fault .unsuitableKind)))) ∧
      EndsProperly true outcome ∧ ListsContainer update.reverse ∧
      ¬ Increases update.reverse document ∧
      ∀ field, ¬ OverflowsAt update.reverse document field := by
  intro document update outcome
  have documentJson : (Value.object document).IsJson := by
    simp [document, Value.isJson_object_iff, Members.keys, Value.IsJson.int, Value.IsJson.text]
  have updateJson : (Value.object update).IsJson := by
    simp [update, Value.isJson_object_iff, Value.isJson_list_iff, Members.keys, Value.IsJson.int,
      Value.IsJson.bool]
  have recognised : IsRecognised true update := fun _ => by decide +kernel
  have lists : ListsContainer update.reverse := ⟨[.object []], rfl, .object [], by simp, rfl⟩
  have invalid : outcome = .error (.store (.invalidUpdate
      "Cannot apply $inc to field 'b' holding str" "b" (some (.fault .unsuitableKind)))) := rfl
  obtain ⟨outOfRange, unsuitable, proper⟩ :=
    apply_endsProperly documentJson updateJson true []
  refine ⟨documentJson, updateJson, invalid, ?_, lists, fun increases => ?_,
    fun field overflows => ?_⟩
  · refine proper.mpr ⟨fun same => ?_, fun same => ?_⟩ <;> cases invalid.symm.trans same
  · cases invalid.symm.trans (unsuitable.mpr ⟨recognised, increases, lists⟩)
  · cases invalid.symm.trans (outOfRange.mpr ⟨recognised, field, overflows⟩)

/-- A double is added to an integer beyond the doubles; a list is among the fields to remove. -/
theorem apply_endsWithFault :
    let document : Members := [("n", .int (10 ^ 400))]
    let update : Members := [("$inc", .object [("n", .float 1.5)])]
    let overflowing := apply true (.object document) (.object update)
    let removing := apply true (.object []) (.object [("$unset", .list [.list [.text "a"]])])
    (overflowing.after []).1 = .error (.fault .outOfRange) ∧
      (removing.after []).1 = .error (.fault .unsuitableKind) ∧
      ¬ EndsProperly true (overflowing.after []).1 ∧ ¬ EndsProperly true (removing.after []).1 := by
  intro document update overflowing removing
  have documentJson : (Value.object document).IsJson :=
    .object (List.forall_mem_singleton.mpr ⟨"n", rfl⟩) (List.nodup_singleton _)
      (List.forall_mem_singleton.mpr (.int _))
  have updateJson : (Value.object update).IsJson := by
    simp [update, Value.isJson_object_iff, Members.keys, Value.IsJson.float]
  have recognised : IsRecognised true update := fun _ => by decide +kernel
  have beyond : Double.firstBeyond ≤ (10 ^ 400 : Int).natAbs := by decide +kernel
  have overflows : OverflowsAt update.reverse document "n" :=
    ⟨[], .float 1.5, [], rfl, fun _ _ member => absurd member List.not_mem_nil, beyond⟩
  have outOfRange : (overflowing.after []).1 = .error (.fault .outOfRange) :=
    (hasOutcome_apply_reverse recognised document []).trans
      ((snapshot_outOfRange_iff updateJson.reverse documentJson).mpr ⟨"n", overflows⟩)
  have unsuitable : (removing.after []).1 = .error (.fault .unsuitableKind) := rfl
  exact ⟨outOfRange, unsuitable, by simp [outOfRange, EndsProperly],
    by simp [unsuitable, EndsProperly]⟩

end Update

end DocStore
