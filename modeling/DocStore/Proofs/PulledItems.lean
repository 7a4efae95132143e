import DocStore.Proofs.JsonEquality
import DocStore.Proofs.RepeatedUpdate

/-!
# Items that are pulled

Pulling from lists of JSON always succeeds and keeps the fields, the other items and their
order.  It removes the items that have the kind of the operand and equal it across kinds.
These are the items that are the same value as the operand, as long as the operand is no
container: in a list or an object a truth value or an integral double is taken for the
integer that equals it, so that other values are removed with the operand.
-/

namespace DocStore

/-! ## Confused values -/

namespace Value

variable {item operand : Value}

/-- Values of one kind that are the same once truth values and integral doubles are written as
integers. -/
def looselySame (item operand : Value) : Bool :=
  decide (item.kind = operand.kind) && item.unified.sameJson operand.unified

/-- The value is loosely the same as the operand without being the same. -/
def IsConfusedWith (item operand : Value) : Prop :=
  item.looselySame operand = true ∧ item.sameJson operand = false

theorem compareWithinKind_eq (itemJson : item.IsJson) (operandJson : operand.IsJson) :
    item.compareWithinKind operand = .ok (item.looselySame operand) := by
  unfold compareWithinKind looselySame
  split
  · rename_i sameKind
    rw [compare_eq itemJson operandJson, decide_eq_true sameKind, Bool.true_and]
  · rename_i otherKind
    rw [decide_eq_false otherKind, Bool.false_and]

theorem strictlyEqual_eq (itemJson : item.IsJson) (operandJson : operand.IsJson) :
    item.strictlyEqual operand = item.looselySame operand :=
  strictlyEqual_of_compareWithinKind (compareWithinKind_eq itemJson operandJson)

/-- What is the same is loosely the same. -/
theorem looselySame_of_sameJson (itemJson : item.IsJson) (operandJson : operand.IsJson)
    (same : item.sameJson operand = true) : item.looselySame operand = true := by
  rw [looselySame, decide_eq_true (kind_eq_of_sameJson same),
    sameJson_unified itemJson operandJson same, Bool.true_and]

theorem looselySame_eq_sameJson_iff (itemJson : item.IsJson) (operandJson : operand.IsJson) :
    item.looselySame operand = item.sameJson operand ↔ ¬ item.IsConfusedWith operand := by
  unfold IsConfusedWith
  cases same : item.sameJson operand with
  | true => simp [looselySame_of_sameJson itemJson operandJson same]
  | false => simp

/-- A value that is no container is confused with nothing. -/
theorem not_isConfusedWith (itemJson : item.IsJson) (operandJson : operand.IsJson)
    (flat : operand.isContainer = false) : ¬ item.IsConfusedWith operand := by
  rintro ⟨loose, different⟩
  obtain ⟨isKind, unified⟩ := (Bool.and_eq_true _ _ ▸ loose :)
  have apart : areNested item operand = false := by
    cases operand with
    | list => cases flat
    | object => cases flat
    | _ => cases item <;> rfl
  rw [sameJson_unified_of_flat itemJson operandJson (of_decide_eq_true isKind) apart,
    different] at unified
  cases unified

end Value

/-! ## Documents without some items -/

namespace Members

/-- A value without the items that are the same as the operand, if it is a list. -/
def withoutAt (same : Value → Value → Bool) (operand? : Option Value) (value : Value) : Value :=
  match operand?, value with
  | some operand, .list items => .list (items.filter fun item => !same item operand)
  | _, value => value

/-- The members, with each list left without the items that are the same as the operand that
the changes give for its key. -/
def without (same : Value → Value → Bool) (changes members : Members) : Members :=
  members.map fun member => (member.1, withoutAt same (changes.get? member.1) member.2)

variable {same : Value → Value → Bool} {changes members : Members}

theorem keys_without : (without same changes members).keys = members.keys := by
  simp [without, keys]

theorem get?_without (field : String) :
    (without same changes members).get? field =
      (members.get? field).map (withoutAt same (changes.get? field)) := by
  induction members with
  | nil => rfl
  | cons member members ih =>
      obtain ⟨key, value⟩ := member
      change get? field ((key, _) :: without same changes members) = _
      rw [get?, get?, Key.same_text]
      by_cases isField : key = .text field
      · simp [isField]
      · rw [if_neg (by simpa using isField), if_neg (by simpa using isField), ih]

end Members

open Members (without)

namespace Update

variable {document changes : Members}

/-- An update with one operator does what the operator does. -/
theorem snapshot_singleton {key : Key} {operator : UpdateOperator} {revision : Revision}
    (isOperator : UpdateOperator.ofKey? key.shown = some operator)
    (revises : revisionOf operator = some revision) :
    snapshot [(key, .object changes)] document = revision.reviseAll changes document := by
  have operand (other : UpdateOperator) : operandOf other [(key, .object changes)] =
      if operator = other then some (.object changes) else none := by
    rw [operandOf_singleton, isOperator]
    simp
  have own (document : Members) :
      operatorOutcome [(key, .object changes)] document operator =
        revision.reviseAll changes document := by
    unfold operatorOutcome changesOf
    rw [revises, operand, if_pos rfl]
    rfl
  have others (other : UpdateOperator) (apart : operator ≠ other) (document : Members) :
      operatorOutcome [(key, .object changes)] document other = .ok document := by
    unfold operatorOutcome changesOf
    rw [operand, if_neg apart]
    cases revisionOf other <;> rfl
  have next (document : Members) (step : Members → Except Failure Members) :
      (Except.ok document >>= step) = step document := rfl
  unfold snapshot UpdateOperator.applicationOrder
  simp only [List.foldlM_cons, List.foldlM_nil]
  cases operator with
  | unset => cases revises
  | _ => simp [own, others, next]

theorem isJson_item (documentJson : (Value.object document).IsJson) {field : String}
    {items : List Value} (isList : document.get? field = some (.list items)) :
    ∀ item ∈ items, item.IsJson :=
  Value.isJson_list_iff.mp (documentJson.get? isList)

/-- Pulling from values of JSON succeeds. -/
theorem reviseAll_pull (documentJson : (Value.object document).IsJson)
    (changesJson : (Value.object changes).IsJson) :
    Revision.pull.reviseAll changes document =
      .ok (without Value.looselySame changes document) := by
  have keyed := changesJson.textKeyed
  have documentKeyed := documentJson.textKeyed
  have operandJson {field : String} {operand : Value}
      (named : changes.get? field = some operand) : operand.IsJson := changesJson.get? named
  obtain ⟨result, pulled⟩ : ∃ result, Revision.pull.reviseAll changes document = .ok result := by
    refine Revision.exists_reviseAll keyed fun field operand named => ?_
    unfold Revision.pull
    split
    · rename_i items isList
      obtain ⟨kept, pulledItems⟩ := pullItems_returns_iff.mpr fun item isItem =>
        ⟨_, Value.compareWithinKind_eq (isJson_item documentJson isList item isItem)
          (operandJson named)⟩
      exact ⟨some (.list kept), by rw [pulledItems]; rfl⟩
    · exact ⟨none, rfl⟩
  refine pulled.trans (congrArg Except.ok (Eq.symm ?_))
  have sameKeys : (without Value.looselySame changes document).keys = document.keys :=
    Members.keys_without
  refine Members.ext_of_get? (sameKeys ▸ documentKeyed.texts) (sameKeys ▸ documentKeyed.distinct)
    ?_ fun field => ?_
  · rw [sameKeys, Revision.keys_reviseAll keyed (fun _ _ => rfl) pulled]
  · rw [Members.get?_without, get?_afterPull keyed field pulled]
    cases named : changes.get? field with
    | none => cases document.get? field <;> rfl
    | some operand =>
        cases found : document.get? field with
        | none => rfl
        | some value =>
            cases value with
            | list items =>
                refine congrArg (some ∘ Value.list) (List.filter_congr fun item isItem => ?_)
                rw [Value.strictlyEqual_eq (isJson_item documentJson found item isItem)
                  (operandJson named)]
            | _ => rfl

/-- The items that are loosely the same as the operands are those that are the same, if none
is confused with the operand of its field. -/
theorem without_eq_iff (documentJson : (Value.object document).IsJson)
    (changesJson : (Value.object changes).IsJson) :
    without Value.looselySame changes document = without Value.sameJson changes document ↔
      ∀ (field : String) operand items, changes.get? field = some operand →
        document.get? field = some (.list items) →
          ∀ item ∈ items, ¬ item.IsConfusedWith operand := by
  constructor
  · intro agree field operand items named isList item isItem
    have kept := congrArg (Members.get? (.text field)) agree
    simp only [Members.get?_without, isList, named, Option.map_some, Members.withoutAt,
      Option.some.injEq, Value.list.injEq] at kept
    have keptItem : item ∈ items.filter (fun item => !item.looselySame operand) ↔
        item ∈ items.filter fun item => !item.sameJson operand := by rw [kept]
    rw [← Value.looselySame_eq_sameJson_iff (isJson_item documentJson isList item isItem)
      (changesJson.get? named)]
    simpa [isItem] using keptItem
  · intro clear
    refine List.map_congr_left fun member isMember => congrArg (Prod.mk member.1) ?_
    obtain ⟨key, value⟩ := member
    obtain ⟨field, rfl⟩ := documentJson.textKeyed.texts key (List.mem_map_of_mem isMember)
    have found := documentJson.textKeyed.get?_of_mem isMember
    rw [Members.withoutAt.eq_def, Members.withoutAt.eq_def]
    cases named : changes.get? (.text field) with
    | none => rfl
    | some operand =>
        cases value with
        | list items =>
            refine congrArg Value.list (List.filter_congr fun item isItem => ?_)
            have agree := Value.looselySame_eq_sameJson_iff
              (isJson_item documentJson found item isItem) (changesJson.get? named)
            rw [agree.mpr (clear field operand items named found item isItem)]
        | _ => rfl

/-- Pulling from fields of a JSON document removes the items that are loosely the same as the
operands, and nothing else.  These are the items that are the same values exactly if no item is
confused with the operand of its field, which must be a list or an object for that. -/
theorem apply_pull {key : Key} (isPull : UpdateOperator.ofKey? key.shown = some .pull)
    (documentJson : (Value.object document).IsJson) (changesJson : (Value.object changes).IsJson)
    (strict : Bool) (entries : List LogEntry) :
    let pulled := apply strict (.object document) (.object [(key, .object changes)])
    (∃ log, pulled.Returns entries (without Value.looselySame changes document) log) ∧
    ((∃ log, pulled.Returns entries (without Value.sameJson changes document) log) ↔
      ∀ (field : String) operand items, changes.get? field = some operand →
        document.get? field = some (.list items) →
          ∀ item ∈ items, ¬ item.IsConfusedWith operand) ∧
    ∀ (field : String) operand items, changes.get? field = some operand →
      document.get? field = some (.list items) → operand.isContainer = false →
        ∀ item ∈ items, ¬ item.IsConfusedWith operand := by
  intro pulled
  have lenient : IsRecognised strict [(key, Value.object changes)] := by
    intro _
    simp [isPull]
  have returns (result : Members) : (∃ log, pulled.Returns entries result log) ↔
      without Value.looselySame changes document = result := by
    rw [apply_returns_reverse_iff, List.reverse_singleton,
      snapshot_singleton isPull (show revisionOf .pull = some .pull from rfl),
      reviseAll_pull documentJson changesJson, Except.ok.injEq]
    exact and_iff_right lenient
  refine ⟨(returns _).mpr rfl, (returns _).trans (without_eq_iff documentJson changesJson), ?_⟩
  intro field operand items named isList flat item isItem
  exact Value.not_isConfusedWith (isJson_item documentJson isList item isItem)
    (changesJson.get? named) flat

/-- A nested list that no other item is confused with. -/
theorem apply_pull_nestedList :
    let document : Members :=
      [("a", .list [.int 1, .list [.bool true], .list [.int 2], .null]), ("b", .list [.int 2])]
    let changes : Members := [("a", .list [.int 2]), ("c", .int 2)]
    let kept : Members :=
      [("a", .list [.int 1, .list [.bool true], .null]), ("b", .list [.int 2])]
    (Value.object document).IsJson ∧ (Value.object changes).IsJson ∧
      UpdateOperator.ofKey? (Key.text "pull").shown = some .pull ∧
      (∃ log, (apply true (.object document) (.object [("pull", .object changes)])).Returns []
        kept log) ∧
      without Value.sameJson changes document = kept ∧
      ∀ (field : String) operand items, changes.get? field = some operand →
        document.get? field = some (.list items) →
          ∀ item ∈ items, ¬ item.IsConfusedWith operand := by
  intro document changes kept
  have documentJson : (Value.object document).IsJson := by
    simp [document, Value.isJson_object_iff, Value.isJson_list_iff, Members.keys,
      Value.IsJson.int, Value.IsJson.bool, Value.IsJson.null]
  have changesJson : (Value.object changes).IsJson := by
    simp [changes, Value.isJson_object_iff, Value.isJson_list_iff, Members.keys, Value.IsJson.int]
  have isPull : UpdateOperator.ofKey? (Key.text "pull").shown = some .pull := by decide
  obtain ⟨removes, clear, _⟩ := apply_pull isPull documentJson changesJson true []
  exact ⟨documentJson, changesJson, isPull, removes, rfl, clear.mp removes⟩

/-- The lists of one and of true are different values, but pulling one removes both. -/
theorem apply_pull_confusesTruth :
    let document : Members := [("a", .list [.list [.int 1], .list [.bool true]])]
    let changes : Members := [("a", .list [.bool true])]
    let emptied : Members := [("a", .list [])]
    let kept : Members := [("a", .list [.list [.int 1]])]
    let pulled := apply true (.object document) (.object [("$pull", .object changes)])
    (∃ log, pulled.Returns [] emptied log) ∧
      without Value.sameJson changes document = kept ∧ ¬ ∃ log, pulled.Returns [] kept log := by
  intro document changes emptied kept pulled
  have removed : pulled.Returns [] emptied [] := rfl
  refine ⟨⟨[], removed⟩, rfl, ?_⟩
  rintro ⟨log, returned⟩
  have same : emptied = kept := Except.ok.inj (Prod.mk.inj (removed.symm.trans returned)).1
  simp [emptied, kept] at same

end Update

end DocStore
