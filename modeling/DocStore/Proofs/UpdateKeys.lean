import DocStore.Proofs.Outcome
import DocStore.Proofs.TextKeys
import DocStore.Update

/-!
# Updates keep text keys

A document with text keys has text keys after an update whose operands have them, and
so has the document that starts from the equalities of such a filter.
-/

namespace DocStore

open Members (TextKeyed)

namespace Value

variable {left right sum : Value}

theorem hasTextKeys_addToFloat {number : Float} {amount : Int}
    (added : addToFloat number amount = .ok sum) : sum.hasTextKeys = true := by
  unfold addToFloat at added
  split at added
  · cases added
    rfl
  · cases added

theorem hasTextKeys_add (leftKeyed : left.hasTextKeys = true)
    (rightKeyed : right.hasTextKeys = true)
    (added : left.add right = .ok sum) : sum.hasTextKeys = true := by
  unfold add at added
  split at added
  · cases added
    rfl
  · cases added
    rfl
  · cases added
    rfl
  · cases added
    rw [hasTextKeys_list] at leftKeyed rightKeyed ⊢
    intro item member
    exact (List.mem_append.mp member).elim (leftKeyed item) (rightKeyed item)
  · split at added
    · exact hasTextKeys_addToFloat added
    · cases added
  · split at added
    · exact hasTextKeys_addToFloat added
    · cases added
  · split at added
    · obtain ⟨number, _, rfl⟩ := Except.map_eq_ok.mp added
      rfl
    · cases added
  · split at added
    · obtain ⟨number, _, rfl⟩ := Except.map_eq_ok.mp added
      rfl
    · cases added
  · split at added
    · cases added
      rfl
    · cases added

end Value

namespace Update

variable {document changes : Members}

theorem textKeyed_incrementField {field : String} {amount : Value} {after : Members}
    (keyed : TextKeyed document) (valued : amount.hasTextKeys = true)
    (changed : incrementField document field amount = .ok after) : TextKeyed after := by
  have current : (countedFrom document field).hasTextKeys = true := by
    unfold countedFrom
    split
    · rfl
    · rfl
    · rename_i found
      exact keyed.get? found
  unfold incrementField at changed
  dsimp only at changed
  split at changed
  · rename_i sum added
    cases changed
    exact keyed.set field (Value.hasTextKeys_add current valued added)
  · cases changed
  · cases changed

theorem textKeyed_pushField {field : String} {item : Value} (keyed : TextKeyed document)
    (valued : item.hasTextKeys = true) : TextKeyed (pushField document field item) := by
  unfold pushField
  split
  · rename_i items found
    refine keyed.set field (Value.hasTextKeys_list.mpr fun each member => ?_)
    rcases List.mem_append.mp member with old | new
    · exact Value.hasTextKeys_list.mp (keyed.get? found) each old
    · rw [List.mem_singleton.mp new]
      exact valued
  · refine keyed.set field (Value.hasTextKeys_list.mpr fun each member => ?_)
    rw [List.mem_singleton.mp member]
    exact valued

theorem sublist_pullItems {operand : Value} {items kept : List Value}
    (pulled : pullItems operand items = .ok kept) : kept.Sublist items := by
  induction items generalizing kept with
  | nil =>
      cases pulled
      exact .slnil
  | cons item items ih =>
      rw [pullItems] at pulled
      obtain ⟨same, _, rest⟩ := Except.bind_eq_ok.mp pulled
      obtain ⟨others, othersPulled, rest⟩ := Except.bind_eq_ok.mp rest
      cases rest
      split
      · exact (ih othersPulled).cons item
      · exact (ih othersPulled).cons_cons item

theorem textKeyed_pullField {field : String} {operand : Value} {after : Members}
    (keyed : TextKeyed document) (changed : pullField document field operand = .ok after) :
    TextKeyed after := by
  unfold pullField at changed
  split at changed
  · rename_i items found
    obtain ⟨kept, pulled, rfl⟩ := Except.map_eq_ok.mp changed
    refine keyed.set field (Value.hasTextKeys_list.mpr fun each member => ?_)
    exact Value.hasTextKeys_list.mp (keyed.get? found) each
      ((sublist_pullItems pulled).subset member)
  · cases changed
    exact keyed

/-- Removing fields keeps text keys, whatever the fields are. -/
theorem textKeyed_unset (keyed : TextKeyed document) :
    TextKeyed (changes.foldl (fun document change => document.erase change.1) document) := by
  induction changes generalizing document with
  | nil => exact keyed
  | cons change changes ih => exact ih (keyed.erase change.1)

theorem textKeyed_applyFields {operator : UpdateOperator} {after : Members}
    (keyed : TextKeyed document) (operands : operator ≠ .unset → TextKeyed changes)
    (applied : applyFields document changes operator = .ok after) : TextKeyed after := by
  cases operator with
  | set =>
      cases applied
      exact keyed.merge (operands (by decide))
  | increment =>
      exact keyed.foldlM (operands (by decide))
        (fun _ _ _ _ before valued changed => textKeyed_incrementField before valued changed)
        applied
  | push =>
      cases applied
      exact keyed.foldl (operands (by decide)) fun _ _ _ before valued =>
        textKeyed_pushField before valued
  | pull =>
      have folded := Except.mapError_eq_ok.mp applied
      exact keyed.foldlM (operands (by decide))
        (fun _ _ _ _ before _ changed => textKeyed_pullField before changed) folded
  | unset =>
      cases applied
      exact textKeyed_unset keyed

/-! ## Whole updates -/

/-- The operands of an update have text keys. -/
def OperandsKeyed (operators : Operators) : Prop :=
  ∀ entry ∈ operators, entry.2.hasTextKeys = true

variable {operators : Operators} {entries log : List LogEntry}

theorem OperandsKeyed.setOperand (keyed : OperandsKeyed operators) {operand : Value}
    (valued : operand.hasTextKeys = true) (operator : UpdateOperator) :
    OperandsKeyed (setOperand operator operand operators) := by
  induction operators with
  | nil =>
      intro entry member
      rw [List.mem_singleton.mp member]
      exact valued
  | cons first others ih =>
      obtain ⟨known, old⟩ := first
      obtain ⟨firstKeyed, othersKeyed⟩ := List.forall_mem_cons.mp keyed
      rw [Update.setOperand]
      split
      · exact List.forall_mem_cons.mpr ⟨valued, othersKeyed⟩
      · exact List.forall_mem_cons.mpr ⟨firstKeyed, ih othersKeyed⟩

theorem OperandsKeyed.operand? (keyed : OperandsKeyed operators) {operator : UpdateOperator}
    {operand : Value} (found : operand? operator operators = some operand) :
    operand.hasTextKeys = true := by
  induction operators with
  | nil => cases found
  | cons first others ih =>
      obtain ⟨known, old⟩ := first
      obtain ⟨firstKeyed, othersKeyed⟩ := List.forall_mem_cons.mp keyed
      rw [Update.operand?] at found
      split at found
      · cases found
        exact firstKeyed
      · exact ih othersKeyed found

theorem operandsKeyed_of_collect {strict : Bool} {update : Members} {collected : Operators}
    (keyed : OperandsKeyed operators) (values : ∀ member ∈ update, member.2.hasTextKeys = true)
    (returned : (collect strict operators update).Returns entries collected log) :
    OperandsKeyed collected := by
  induction update generalizing operators entries with
  | nil =>
      obtain ⟨rfl, _⟩ := Logged.returns_pure.mp returned
      exact keyed
  | cons member update ih =>
      obtain ⟨key, operand⟩ := member
      obtain ⟨valued, others⟩ := List.forall_mem_cons.mp values
      rw [collect] at returned
      split at returned
      · rename_i operator _
        exact ih (keyed.setOperand valued operator) others returned
      · split at returned
        · exact absurd returned Logged.returns_fail
        · obtain ⟨_, _, _, rest⟩ := Logged.returns_bind.mp returned
          exact ih keyed others rest

theorem textKeyed_applyOperator {operator : UpdateOperator} {after : Members}
    (keyed : TextKeyed document) (operands : OperandsKeyed operators)
    (returned : (applyOperator operators document operator).Returns entries after log) :
    TextKeyed after := by
  unfold applyOperator at returned
  split at returned
  · obtain ⟨rfl, _⟩ := Logged.returns_pure.mp returned
    exact keyed
  · rename_i operand found
    have valued := operands.operand? found
    obtain ⟨named, _, fielded, rest⟩ := Logged.returns_bind.mp returned
    obtain ⟨isNamed, _⟩ := Logged.returns_ofFault.mp fielded
    split at rest
    · rename_i changes
      split at rest
      · rename_i updated applied
        obtain ⟨rfl, _⟩ := Logged.returns_pure.mp rest
        refine textKeyed_applyFields keyed (fun notUnset => ?_) applied
        have same : operand = .object changes := by
          cases operator with
          | unset => exact absurd rfl notUnset
          | _ => exact Except.ok.inj isNamed
        rw [same] at valued
        exact Value.hasTextKeys_object.mp valued
      · exact absurd rest Logged.returns_throw
    · obtain ⟨_, _, _, rest⟩ := Logged.returns_bind.mp rest
      obtain ⟨rfl, _⟩ := Logged.returns_pure.mp rest
      exact keyed

theorem textKeyed_applyOperators {order : List UpdateOperator} {after : Members}
    (keyed : TextKeyed document) (operands : OperandsKeyed operators)
    (returned : (order.foldlM (applyOperator operators) document).Returns entries after log) :
    TextKeyed after := by
  induction order generalizing document entries with
  | nil =>
      obtain ⟨rfl, _⟩ := Logged.returns_pure.mp returned
      exact keyed
  | cons operator order ih =>
      rw [List.foldlM_cons] at returned
      obtain ⟨middle, _, first, rest⟩ := Logged.returns_bind.mp returned
      exact ih (textKeyed_applyOperator keyed operands first) rest

/-- An update of a document with text keys yields one. -/
theorem textKeyed_apply {strict : Bool} {update : Value} {after : Members}
    (keyed : TextKeyed document) (updateKeyed : update.hasTextKeys = true)
    (returned : (apply strict (.object document) update).Returns entries after log) :
    TextKeyed after := by
  unfold apply at returned
  obtain ⟨changes, _, isObject, rest⟩ := Logged.returns_bind.mp returned
  obtain ⟨operators, _, collected, rest⟩ := Logged.returns_bind.mp rest
  obtain ⟨members, _, isDocument, rest⟩ := Logged.returns_bind.mp rest
  obtain ⟨isObject, rfl⟩ := Logged.returns_ofFault.mp isObject
  obtain ⟨isDocument, rfl⟩ := Logged.returns_ofFault.mp isDocument
  cases isDocument
  have changesKeyed : TextKeyed changes := by
    cases update with
    | object members =>
        cases isObject
        exact Value.hasTextKeys_object.mp updateKeyed
    | _ => cases isObject
  have operands : OperandsKeyed operators :=
    operandsKeyed_of_collect (fun _ member => absurd member List.not_mem_nil)
      changesKeyed.values collected
  exact textKeyed_applyOperators keyed operands rest

end Update

end DocStore
