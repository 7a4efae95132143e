import DocStore.Proofs.FieldPaths
import DocStore.Proofs.FieldwiseUpdate

/-!
# Updates that can be repeated

An update that only sets, pulls and unsets can be applied again without effect.  It leaves
every field settled: a field that it removes is missing, and any other one is as setting and
pulling would leave it.  A settled document is left as it is, its order included: what the
update sets and does not remove stands in it already, what the update sets and removes is
put at the end and taken away again, and a list from which items have been pulled holds none
of them.

The keys of an update may spell one operator in two ways; its operand is that of the last
such key.  So an update has the outcome that its operators have when its keys are read
backwards, without any condition on the keys.
-/

namespace DocStore

open Logged (HasOutcome)

namespace Members

variable {members additions left right : Members}

/-- Members with the same keys in one order, and with the same values at them, are the same. -/
theorem ext_of_get? (texts : ∀ key ∈ left.keys, ∃ content, key = .text content)
    (distinct : left.keys.Nodup) (sameKeys : left.keys = right.keys)
    (sameValues : ∀ field : String, left.get? field = right.get? field) : left = right := by
  induction left generalizing right with
  | nil => exact (List.map_eq_nil_iff.mp sameKeys.symm).symm
  | cons member left ih =>
      obtain ⟨key, value⟩ := member
      obtain ⟨content, rfl⟩ := texts key List.mem_cons_self
      obtain ⟨unused, distinct⟩ := List.nodup_cons.mp distinct
      cases right with
      | nil => cases sameKeys
      | cons other right =>
          obtain ⟨otherKey, otherValue⟩ := other
          obtain ⟨firstKey, laterKeys⟩ := List.cons.inj sameKeys
          obtain rfl : Key.text content = otherKey := firstKey
          have firstValue := sameValues content
          simp only [get?_cons_text, if_true, Option.some.injEq] at firstValue
          subst firstValue
          have later : ∀ field : String, get? field left = get? field right := by
            intro field
            by_cases same : content = field
            · subst same
              have unusedRight : Key.text content ∉ keys right := by rwa [keys, ← laterKeys]
              rw [get?_eq_none_iff.mpr unused, get?_eq_none_iff.mpr unusedRight]
            · have values := sameValues field
              rwa [get?_cons_text, get?_cons_text, if_neg same, if_neg same] at values
          rw [ih (fun key member => texts key (List.mem_cons_of_mem _ member)) distinct laterKeys
            later]

/-- Merging keeps the keys and adds the new ones at the end. -/
theorem keys_merge (keyed : additions.TextKeyed) (members : Members) :
    (members.merge additions).keys =
      members.keys ++ additions.keys.filter fun key => key ∉ members.keys := by
  induction additions generalizing members with
  | nil => simp [merge, keys]
  | cons addition additions ih =>
      obtain ⟨key, value⟩ := addition
      obtain ⟨content, rfl⟩ := keyed.texts key List.mem_cons_self
      have unused : Key.text content ∉ keys additions := (List.nodup_cons.mp keyed.distinct).1
      have step : members.merge ((.text content, value) :: additions) =
          (members.set content value).merge additions := rfl
      have first : keys ((Key.text content, value) :: additions) =
          .text content :: keys additions := rfl
      rw [step, ih (keyed.sublist (List.sublist_cons_self _ _)), keys_set, first]
      by_cases present : Key.text content ∈ members.keys
      · simp [present]
      · have others : ((keys additions).filter fun key => key ∉ members.keys ++ [.text content]) =
            (keys additions).filter fun key => key ∉ members.keys := by
          refine List.filter_congr fun key isKey => ?_
          have other : key ≠ .text content := fun same => unused (same ▸ isKey)
          simp [other]
        rw [if_neg present, others, List.filter_cons_of_pos (by simpa using present),
          List.append_assoc, List.singleton_append]

/-- Erasing keys one after the other keeps the other keys. -/
theorem keys_foldl_erase (fields : Members)
    (texts : ∀ key ∈ members.keys, ∃ content, key = .text content) :
    (fields.foldl (fun document field => document.erase field.1) members).keys =
      members.keys.filter fun key => key ∉ fields.keys := by
  induction fields generalizing members with
  | nil => simp [keys]
  | cons field fields ih =>
      have first : (members.erase field.1).keys =
          members.keys.filter fun key => !key.same field.1 := by
        rw [keys, keys, List.filter_map]
        rfl
      have kept : ∀ key ∈ (members.erase field.1).keys, ∃ content, key = .text content := by
        intro key isKey
        exact texts key ((List.filter_sublist.map _).subset isKey)
      rw [List.foldl_cons, ih kept, first, List.filter_filter]
      refine List.filter_congr fun key isKey => ?_
      obtain ⟨content, rfl⟩ := texts key isKey
      have either : .text content ∈ keys (field :: fields) ↔
          field.1 = .text content ∨ .text content ∈ keys fields := by
        rw [keys, List.map_cons, List.mem_cons, eq_comm]
        rfl
      rw [Key.text_same]
      by_cases same : field.1 = .text content <;> simp [either, same]

end Members

namespace Update

section Operands

variable {strict : Bool} {update document : Members}

/-! ## The operands that count -/

theorem operandOf_append (operator : UpdateOperator) (left right : Members) :
    operandOf operator (left ++ right) =
      (operandOf operator left).or (operandOf operator right) := by
  unfold operandOf
  rw [List.find?_append]
  cases left.find? _ <;> rfl

theorem operandOf_singleton (operator : UpdateOperator) (entry : Key × Value) :
    operandOf operator [entry] =
      if UpdateOperator.ofKey? entry.1.shown = some operator then some entry.2 else none :=
  operandOf_cons operator entry []

/-- The operators that are collected have the operands of their last keys. -/
theorem hasOutcome_collect_reverse (recognised : IsRecognised strict update)
    (operators : Operators) :
    ∃ collected, HasOutcome (collect strict operators update) (.ok collected) ∧
      ∀ operator, operand? operator collected =
        (operandOf operator update.reverse).or (operand? operator operators) := by
  induction update generalizing operators with
  | nil => exact ⟨operators, Logged.hasOutcome_pure _, fun _ => rfl⟩
  | cons entry update ih =>
      obtain ⟨key, operand⟩ := entry
      have later : IsRecognised strict update :=
        fun isStrict entry member => recognised isStrict entry (List.mem_cons_of_mem _ member)
      unfold collect
      dsimp only
      cases isOperator : UpdateOperator.ofKey? key.shown with
      | some operator =>
          obtain ⟨collected, has, operands⟩ := ih later (setOperand operator operand operators)
          refine ⟨collected, has, fun other => ?_⟩
          rw [operands, operand?_setOperand, List.reverse_cons, operandOf_append,
            operandOf_singleton, isOperator, Option.or_assoc]
          by_cases same : operator = other <;> simp [same]
      | none =>
          have lenient : strict = false := by
            by_contra isStrict
            exact recognised (by simpa using isStrict) _ List.mem_cons_self isOperator
          subst lenient
          obtain ⟨collected, has, operands⟩ := ih later operators
          refine ⟨collected, Logged.HasOutcome.note_bind has, fun other => ?_⟩
          rw [operands, List.reverse_cons, operandOf_append, operandOf_singleton, isOperator,
            if_neg (Option.some_ne_none other).symm, Option.or_none]

/-- Where unknown operators are refused, an update with one comes to it. -/
theorem hasOutcome_collect_unsupported (unrecognised : ¬ IsRecognised strict update)
    (operators : Operators) :
    ∃ key, HasOutcome (collect strict operators update)
      (.error (.store (.unsupported key "update"))) := by
  have isStrict : strict = true := by
    by_contra lenient
    exact unrecognised fun isStrict => absurd isStrict lenient
  subst isStrict
  induction update generalizing operators with
  | nil => exact absurd (fun _ _ member => absurd member List.not_mem_nil) unrecognised
  | cons entry update ih =>
      obtain ⟨key, operand⟩ := entry
      unfold collect
      dsimp only
      cases isOperator : UpdateOperator.ofKey? key.shown with
      | none => exact ⟨key.shown, fun _ => rfl⟩
      | some operator =>
          refine ih _ fun recognised => unrecognised fun isStrict => ?_
          exact List.forall_mem_cons.mpr ⟨by simp [isOperator], recognised isStrict⟩

/-! ## The outcome of an update -/

/-- An update whose keys are recognised has the outcome of its operators, each with its last
operand. -/
theorem hasOutcome_apply_reverse (recognised : IsRecognised strict update)
    (document : Members) :
    HasOutcome (apply strict (.object document) (.object update))
      (snapshot update.reverse document) := by
  obtain ⟨collected, has, operands⟩ := hasOutcome_collect_reverse recognised []
  have steps : HasOutcome
      (UpdateOperator.applicationOrder.foldlM (applyOperator collected) document)
      (snapshot update.reverse document) :=
    .foldlM _ (fun state operator _ => hasOutcome_applyOperator
      ((operands operator).trans (Option.or_none ..)) state) document
  exact .bind_ok (Logged.hasOutcome_pure update) (.bind_ok has
    (.bind_ok (Logged.hasOutcome_pure document) steps))

theorem hasOutcome_apply_unsupported (unrecognised : ¬ IsRecognised strict update)
    (document : Members) :
    ∃ key, HasOutcome (apply strict (.object document) (.object update))
      (.error (.store (.unsupported key "update"))) := by
  obtain ⟨key, refused⟩ := hasOutcome_collect_unsupported unrecognised []
  exact ⟨key, .bind_ok (Logged.hasOutcome_pure update) (.bind_error refused)⟩

/-- An update returns what its operators make of the document, if its keys are recognised. -/
theorem apply_returns_reverse_iff {result : Members} {entries : List LogEntry} :
    (∃ log, (apply strict (.object document) (.object update)).Returns entries result log) ↔
      IsRecognised strict update ∧ snapshot update.reverse document = .ok result := by
  by_cases recognised : IsRecognised strict update
  · rw [(hasOutcome_apply_reverse recognised document).returns_iff]
    simp [recognised]
  · obtain ⟨key, refused⟩ := hasOutcome_apply_unsupported recognised document
    rw [refused.returns_iff]
    simp [recognised]

/-! ## Revisions of all fields -/

namespace Revision

variable {revision : Revision} {changes result : Members}

/-- Revisions that can be done field by field can be done in turn. -/
theorem exists_reviseAll (keyed : changes.TextKeyed)
    (each : ∀ (field : String) operand, changes.get? field = some operand →
      ∃ value, revision field operand (document.get? field) = .ok value) :
    ∃ result, revision.reviseAll changes document = .ok result := by
  cases outcome : revision.reviseAll changes document with
  | ok result => exact ⟨result, rfl⟩
  | error failure =>
      obtain ⟨field, earlier, operand, later, rfl, _, failed⟩ :=
        (reviseAll_eq_error_iff keyed).mp outcome
      have named := keyed.get?_of_mem (List.mem_append_right earlier List.mem_cons_self)
      obtain ⟨value, revised⟩ := each field operand named
      cases revised.symm.trans failed

/-- Revisions that leave missing fields alone keep the fields and their order. -/
theorem keys_reviseAll (keyed : changes.TextKeyed)
    (leaves : ∀ (field : String) operand, revision field operand none = .ok none)
    (revised : revision.reviseAll changes document = .ok result) :
    result.keys = document.keys := by
  induction changes generalizing document with
  | nil =>
      cases revised
      rfl
  | cons change changes ih =>
      obtain ⟨key, operand⟩ := change
      obtain ⟨content, rfl⟩ := keyed.texts key List.mem_cons_self
      obtain ⟨value, isValue, rest⟩ := reviseAll_cons_eq_ok.mp revised
      rw [ih (keyed.sublist (List.sublist_cons_self _ _)) rest]
      cases value with
      | none => rfl
      | some value =>
          have present : .text content ∈ document.keys := by
            by_contra missing
            rw [Members.get?_eq_none_iff.mpr missing, leaves] at isValue
            cases isValue
          rw [put, Members.keys_set, if_pos present]

end Revision

end Operands

/-! ## Pulling -/

/-- Items can be pulled if each of them can be compared with the operand. -/
theorem pullItems_returns_iff {operand : Value} {items : List Value} :
    (∃ kept, pullItems operand items = .ok kept) ↔
      ∀ item ∈ items, ∃ same, item.compareWithinKind operand = .ok same := by
  induction items with
  | nil => simp [pullItems]
  | cons item items ih =>
      rw [List.forall_mem_cons, ← ih]
      simp only [pullItems, Except.bind_eq_ok, Except.pure_eq_ok]
      constructor
      · rintro ⟨_, same, compared, kept, pulled, _⟩
        exact ⟨⟨same, compared⟩, kept, pulled⟩
      · rintro ⟨⟨same, compared⟩, kept, pulled⟩
        exact ⟨_, same, compared, kept, pulled, rfl⟩

/-- What has been pulled once is not there to be pulled again. -/
theorem withoutPulled_idem (operand? current : Option Value) :
    withoutPulled operand? (withoutPulled operand? current) = withoutPulled operand? current := by
  cases operand? with
  | none => rfl
  | some operand =>
      cases current with
      | none => rfl
      | some current => cases current <;> simp [withoutPulled, List.filter_filter]

/-- A list from which items have been pulled was a list with these items before. -/
theorem exists_of_withoutPulled {operand? current : Option Value} {items : List Value}
    (isList : withoutPulled operand? current = some (.list items)) :
    ∃ whole, current = some (.list whole) ∧ items ⊆ whole := by
  unfold withoutPulled at isList
  split at isList
  · rename_i operand whole
    cases isList
    exact ⟨whole, rfl, List.filter_sublist.subset⟩
  · exact ⟨items, isList, List.Subset.refl _⟩

theorem isSome_withoutPulled (operand? current : Option Value) :
    (withoutPulled operand? current).isSome = current.isSome := by
  unfold withoutPulled
  split <;> rfl

/-! ## Settled documents -/

/-- The document is as the update would leave it, field by field: what is removed is missing,
and any other field has the value that setting and pulling give it. -/
structure IsSettled (update document : Members) : Prop where
  removed : ∀ field, Removes update field → document.get? field = none
  revised : ∀ field, ¬ Removes update field →
    withoutPulled ((changesOf .pull update).get? field)
      (setTo ((changesOf .set update).get? field) (document.get? field)) = document.get? field

/-- The update neither increments nor pushes. -/
structure OnlyReplaces (update : Members) : Prop where
  increments : changesOf .increment update = []
  pushes : changesOf .push update = []

/-- The items of the fields that the update pulls from can be compared with its operands. -/
def Pullable (update document : Members) : Prop :=
  ∀ (field : String) operand items, (changesOf .pull update).get? field = some operand →
    setTo ((changesOf .set update).get? field) (document.get? field) = some (.list items) →
      ∀ item ∈ items, ∃ same, item.compareWithinKind operand = .ok same

section Settled

variable {update document result : Members}

/-- An update that only replaces sets, pulls and removes. -/
theorem snapshot_eq (replaces : OnlyReplaces update) (document : Members) :
    snapshot update document =
      Revision.pull.reviseAll (changesOf .pull update)
          (document.merge (changesOf .set update)) >>=
        removeNamed (operandOf .unset update) := by
  have increment (document : Members) :
      Revision.increment.reviseAll (changesOf .increment update) document = .ok document := by
    rw [replaces.increments]
    rfl
  have push (document : Members) :
      Revision.push.reviseAll (changesOf .push update) document = .ok document := by
    rw [replaces.pushes]
    rfl
  simp only [snapshot_eq_bind, increment, push]
  rfl

theorem get?_merge (keyed : update.TextKeyed) (document : Members) (field : String) :
    (document.merge (changesOf .set update)).get? field =
      setTo ((changesOf .set update).get? field) (document.get? field) :=
  get?_afterSet (textKeyed_changesOf keyed .set) field
    (applyFields_eq_reviseAll (show revisionOf .set = some .set from rfl) document _).symm

/-- The items that an update has pulled from could be compared. -/
theorem pullable_of_pulled (keyed : update.TextKeyed) {pulled : Members}
    (isPulled : Revision.pull.reviseAll (changesOf .pull update)
      (document.merge (changesOf .set update)) = .ok pulled) : Pullable update document := by
  intro field operand items named isList
  obtain ⟨value, isValue, _⟩ :=
    Revision.get?_reviseAll (textKeyed_changesOf keyed .pull) named isPulled
  rw [get?_merge keyed, isList] at isValue
  obtain ⟨kept, pulledItems, _⟩ := Except.map_eq_ok.mp (Except.mapError_eq_ok.mp isValue)
  exact pullItems_returns_iff.mp ⟨kept, pulledItems⟩

/-- An update that only replaces leaves a document settled, and its items can be compared
again. -/
theorem isSettled_of_snapshot (keyed : update.TextKeyed) (replaces : OnlyReplaces update)
    (succeeded : snapshot update document = .ok result) :
    IsSettled update result ∧ Pullable update result := by
  rw [snapshot_eq replaces] at succeeded
  obtain ⟨pulled, isPulled, isRemoved⟩ := Except.bind_eq_ok.mp succeeded
  obtain ⟨fields, areRemoved, removal⟩ := removeNamed_eq_ok isRemoved
  obtain rfl := Except.ok.inj ((removal pulled).symm.trans isRemoved)
  have values (field : String) : pulled.get? field =
      withoutPulled ((changesOf .pull update).get? field)
        (setTo ((changesOf .set update).get? field) (document.get? field)) := by
    rw [get?_afterPull (textKeyed_changesOf keyed .pull) field isPulled, get?_merge keyed]
  have stays {field : String} (notRemoved : ¬ Removes update field) :
      (fields.foldl (fun document field => document.erase field.1) pulled).get? field =
        pulled.get? field := by
    rw [get?_foldl_erase, if_neg (mt (areRemoved field).mp notRemoved)]
  have gone {field : String} (removed : Removes update field) :
      (fields.foldl (fun document field => document.erase field.1) pulled).get? field = none := by
    rw [get?_foldl_erase, if_pos ((areRemoved field).mpr removed)]
  refine ⟨⟨fun field => gone, fun field notRemoved => ?_⟩, ?_⟩
  · rw [stays notRemoved, values]
    cases (changesOf .set update).get? field with
    | some value => rfl
    | none => exact withoutPulled_idem _ _
  · intro field operand items named isList item isItem
    obtain ⟨whole, wasList, isPart⟩ : ∃ whole,
        setTo ((changesOf .set update).get? field) (document.get? field) = some (.list whole) ∧
          items ⊆ whole := by
      cases isSet : (changesOf .set update).get? field with
      | some value =>
          rw [isSet] at isList
          exact ⟨items, isList, List.Subset.refl _⟩
      | none =>
          have notRemoved : ¬ Removes update field := by
            intro removed
            rw [isSet, gone removed] at isList
            cases isList
          rw [isSet, stays notRemoved, values, isSet] at isList
          exact exists_of_withoutPulled isList
    exact pullable_of_pulled keyed isPulled field operand whole named wasList item (isPart isItem)

/-- What stands in a settled document is not removed, and what is set besides is. -/
theorem IsSettled.keys_eq (settled : IsSettled update document) (keyed : update.TextKeyed)
    (documentKeyed : document.TextKeyed) {fields : Members}
    (areRemoved : ∀ field, .text field ∈ fields.keys ↔ Removes update field) :
    (document.keys ++ (changesOf .set update).keys.filter fun key => key ∉ document.keys).filter
      (fun key => key ∉ fields.keys) = document.keys := by
  have kept : (document.keys.filter fun key => key ∉ fields.keys) = document.keys := by
    refine List.filter_eq_self.mpr fun key isKey => decide_eq_true fun isRemoved => ?_
    obtain ⟨field, rfl⟩ := documentKeyed.texts key isKey
    have missing := settled.removed field ((areRemoved field).mp isRemoved)
    exact Members.get?_eq_none_iff.mp missing isKey
  have dropped : (((changesOf .set update).keys.filter fun key => key ∉ document.keys).filter
      fun key => key ∉ fields.keys) = [] := by
    refine List.filter_eq_nil_iff.mpr fun key isKey => ?_
    obtain ⟨isSet, missing⟩ := List.mem_filter.mp isKey
    obtain ⟨field, rfl⟩ := (textKeyed_changesOf keyed .set).texts key isSet
    rw [decide_eq_true_iff, not_not, areRemoved]
    by_contra notRemoved
    have stands := congrArg Option.isSome (settled.revised field notRemoved)
    rw [isSome_withoutPulled, Members.get?_eq_none_iff.mpr (of_decide_eq_true missing)] at stands
    cases given : (changesOf .set update).get? field with
    | none => exact Members.get?_eq_none_iff.mp given isSet
    | some value => simp [given, setTo] at stands
  rw [List.filter_append, kept, dropped, List.append_nil]

/-- What can be compared can be pulled. -/
theorem exists_pulled (keyed : update.TextKeyed) (pullable : Pullable update document) :
    ∃ pulled, Revision.pull.reviseAll (changesOf .pull update)
      (document.merge (changesOf .set update)) = .ok pulled := by
  refine Revision.exists_reviseAll (textKeyed_changesOf keyed .pull) fun field operand named => ?_
  rw [get?_merge keyed]
  unfold Revision.pull
  split
  · rename_i items isList
    obtain ⟨kept, pulledItems⟩ :=
      pullItems_returns_iff.mpr (pullable field operand items named isList)
    exact ⟨some (.list kept), by rw [pulledItems]; rfl⟩
  · exact ⟨none, rfl⟩

/-- A settled document is left as it is. -/
theorem snapshot_of_isSettled (keyed : update.TextKeyed) (documentKeyed : document.TextKeyed)
    (replaces : OnlyReplaces update) (settled : IsSettled update document)
    (pullable : Pullable update document) {other : Members}
    (removes : removeNamed (operandOf .unset update) other = .ok result) :
    snapshot update document = .ok document := by
  obtain ⟨fields, areRemoved, removal⟩ := removeNamed_eq_ok removes
  obtain ⟨pulled, isPulled⟩ := exists_pulled keyed pullable
  have pulledKeys : pulled.keys =
      document.keys ++ (changesOf .set update).keys.filter fun key => key ∉ document.keys := by
    rw [Revision.keys_reviseAll (textKeyed_changesOf keyed .pull) (fun _ _ => rfl) isPulled,
      Members.keys_merge (textKeyed_changesOf keyed .set)]
  have pulledTexts : ∀ key ∈ pulled.keys, ∃ content, key = .text content := by
    intro key isKey
    rw [pulledKeys] at isKey
    rcases List.mem_append.mp isKey with old | new
    · exact documentKeyed.texts key old
    · exact (textKeyed_changesOf keyed .set).texts key (List.mem_filter.mp new).1
  have finalKeys : document.keys =
      (fields.foldl (fun document field => document.erase field.1) pulled).keys := by
    rw [Members.keys_foldl_erase fields pulledTexts, pulledKeys,
      settled.keys_eq keyed documentKeyed areRemoved]
  have finalValues (field : String) : document.get? field =
      (fields.foldl (fun document field => document.erase field.1) pulled).get? field := by
    rw [get?_foldl_erase]
    split
    · rename_i isRemoved
      exact settled.removed field ((areRemoved field).mp isRemoved)
    · rename_i notRemoved
      rw [get?_afterPull (textKeyed_changesOf keyed .pull) field isPulled, get?_merge keyed,
        settled.revised field (mt (areRemoved field).mpr notRemoved)]
  have final := Members.ext_of_get? documentKeyed.texts documentKeyed.distinct finalKeys finalValues
  rw [snapshot_eq replaces, isPulled]
  change removeNamed _ pulled = _
  rw [removal, ← final]

end Settled

/-! ## Whole updates -/

/-- All operators among the keys of the update are set, pull and unset. -/
def IsRepeatable (update : Members) : Prop :=
  ∀ entry ∈ update, ∀ operator ∈ UpdateOperator.ofKey? entry.1.shown,
    operator ∈ [UpdateOperator.set, .pull, .unset]

instance (update : Members) : Decidable (IsRepeatable update) :=
  inferInstanceAs (Decidable (∀ entry ∈ update, ∀ operator ∈ UpdateOperator.ofKey? entry.1.shown,
    operator ∈ [UpdateOperator.set, .pull, .unset]))

theorem IsRepeatable.changesOf_eq_nil {update : Members} (repeatable : IsRepeatable update)
    {operator : UpdateOperator} (excluded : operator ∉ [UpdateOperator.set, .pull, .unset]) :
    changesOf operator update.reverse = [] := by
  cases found : operandOf operator update.reverse with
  | none => rw [changesOf, found]; rfl
  | some operand =>
      obtain ⟨entry, isEntry, isOperator, _⟩ := exists_of_operandOf found
      exact absurd (repeatable entry (List.mem_reverse.mp isEntry) operator isOperator) excluded

theorem IsRepeatable.onlyReplaces {update : Members} (repeatable : IsRepeatable update) :
    OnlyReplaces update.reverse where
  increments := repeatable.changesOf_eq_nil (by decide)
  pushes := repeatable.changesOf_eq_nil (by decide)

/-- An update whose operators are set, pull and unset, in any spelling, can be applied again:
what it returned is returned once more, with its fields in their order. -/
theorem apply_repeated {strict : Bool} {update document result : Members}
    (updateKeyed : update.TextKeyed) (documentKeyed : document.TextKeyed)
    (repeatable : IsRepeatable update) {entries log : List LogEntry}
    (returned : (apply strict (.object document) (.object update)).Returns entries result log)
    (others : List LogEntry) :
    ∃ again, (apply strict (.object result) (.object update)).Returns others result again := by
  obtain ⟨recognised, succeeded⟩ := apply_returns_reverse_iff.mp ⟨log, returned⟩
  have keyed := updateKeyed.reverse
  have replaces := repeatable.onlyReplaces
  have resultKeyed : result.TextKeyed :=
    textKeyed_apply documentKeyed (Value.hasTextKeys_object.mpr updateKeyed) returned
  obtain ⟨settled, pullable⟩ := isSettled_of_snapshot keyed replaces succeeded
  obtain ⟨pulled, _, removes⟩ := Except.bind_eq_ok.mp (snapshot_eq replaces document ▸ succeeded)
  exact apply_returns_reverse_iff.mpr
    ⟨recognised, snapshot_of_isSettled keyed resultKeyed replaces settled pullable removes⟩

/-- Fields that are set and pulled from, set and removed, and removed only, under operators
that are spelled twice. -/
theorem apply_repeated_overlapping :
    let update : Members :=
      [ ("$unset", .list [.text "gone", .text "flag"]),
        ("set", .object [("lost", .int 0)]),
        ("pull", .object [("tags", .text "a"), ("rest", .int 1), ("gone", .null)]),
        ("note", .text "unknown"),
        ("$set", .object
          [("gone", .list [.null]), ("tags", .list [.text "a", .text "b"]), ("new", .int 1)]) ]
    let document : Members :=
      [ ("tags", .int 7), ("flag", .bool true),
        ("rest", .list [.int 1, .float 1, .int 2, .int 1]) ]
    let result : Members :=
      [("tags", .list [.text "b"]), ("rest", .list [.float 1, .int 2]), ("new", .int 1)]
    update.TextKeyed ∧ document.TextKeyed ∧ IsRepeatable update ∧
      (∃ log, (apply false (.object document) (.object update)).Returns [] result log) ∧
      ∃ log, (apply false (.object result) (.object update)).Returns [] result log := by
  intro update document result
  have updateKeyed : update.TextKeyed := membersHaveTextKeys_iff.mp (by rfl)
  have documentKeyed : document.TextKeyed := membersHaveTextKeys_iff.mp (by rfl)
  have repeatable : IsRepeatable update := by decide +kernel
  have returned : ∃ log,
      (apply false (.object document) (.object update)).Returns [] result log := ⟨_, rfl⟩
  obtain ⟨log, first⟩ := returned
  exact ⟨updateKeyed, documentKeyed, repeatable, ⟨log, first⟩,
    apply_repeated updateKeyed documentKeyed repeatable first []⟩

end Update

end DocStore
