import Mathlib
import DocStore.Proofs.SameOutcome
import DocStore.Proofs.UpdateKeys

/-!
# Outcomes of updates

What is reported does not count towards the outcome of an update.  The outcome is that of
its operators, applied one after the other: all but unset revise the fields that their
operands name, each field by a function of its value, and unset erases fields.  An update
whose keys are spellings of different names has one operand for an operator at most, so that
the order of its keys does not matter.
-/

namespace DocStore

theorem Except.mapError_foldlM {ε ε' σ α : Type} (wrap : ε → ε') (step : σ → α → Except ε σ)
    (items : List α) (state : σ) :
    (items.foldlM step state).mapError wrap =
      items.foldlM (fun state item => (step state item).mapError wrap) state := by
  induction items generalizing state with
  | nil => rfl
  | cons item items ih =>
      rw [List.foldlM_cons, List.foldlM_cons]
      cases step state item with
      | error failure => rfl
      | ok next => exact ih next

/-! ## Outcomes without the log -/

namespace Logged

variable {α β : Type}

/-- The computation has the outcome, whatever has been reported before. -/
def HasOutcome (computation : Logged α) (outcome : Except Failure α) : Prop :=
  ∀ entries, (computation.after entries).1 = outcome

theorem HasOutcome.returns_iff {computation : Logged α} {outcome : Except Failure α}
    (has : HasOutcome computation outcome) {entries : List LogEntry} {result : α} :
    (∃ log, computation.Returns entries result log) ↔ outcome = .ok result := by
  rw [← has entries]
  constructor
  · rintro ⟨log, returned⟩
    rw [returned]
  · intro isResult
    exact ⟨_, Prod.ext isResult rfl⟩

theorem HasOutcome.sameOutcome {left right : Logged α} {outcome : Except Failure α}
    (leftHas : HasOutcome left outcome) (rightHas : HasOutcome right outcome) :
    SameOutcome left right :=
  fun entries others => (leftHas entries).trans (rightHas others).symm

theorem hasOutcome_pure (value : α) : HasOutcome (pure value) (.ok value) := fun _ => rfl

theorem HasOutcome.bind_ok {computation : Logged α} {next : α → Logged β} {value : α}
    {outcome : Except Failure β} (first : HasOutcome computation (.ok value))
    (rest : HasOutcome (next value) outcome) : HasOutcome (computation >>= next) outcome := by
  intro entries
  have isValue := first entries
  rw [after_bind]
  rcases ran : computation.after entries with ⟨reached, log⟩
  rw [ran] at isValue
  subst isValue
  exact rest log

theorem HasOutcome.bind_error {computation : Logged α} {next : α → Logged β} {failure : Failure}
    (first : HasOutcome computation (.error failure)) :
    HasOutcome (computation >>= next) (.error failure) := by
  intro entries
  have isFailure := first entries
  rw [after_bind]
  rcases ran : computation.after entries with ⟨reached, log⟩
  rw [ran] at isFailure
  subst isFailure
  rfl

theorem HasOutcome.bind {computation : Logged α} {next : α → Logged β}
    {outcome : Except Failure α} {continued : α → Except Failure β}
    (first : HasOutcome computation outcome)
    (rest : ∀ value, HasOutcome (next value) (continued value)) :
    HasOutcome (computation >>= next) (outcome >>= continued) := by
  cases outcome with
  | error failure => exact bind_error first
  | ok value => exact bind_ok first (rest value)

theorem HasOutcome.note_bind {entry : LogEntry} {next : Unit → Logged α}
    {outcome : Except Failure α} (rest : HasOutcome (next ()) outcome) :
    HasOutcome (note entry >>= next) outcome :=
  .bind_ok (show HasOutcome (note entry) (.ok ()) from fun _ => rfl) rest

theorem HasOutcome.foldlM {σ : Type} {step : σ → α → Logged σ} {each : σ → α → Except Failure σ}
    (items : List α)
    (steps : ∀ state, ∀ item ∈ items, HasOutcome (step state item) (each state item))
    (state : σ) : HasOutcome (items.foldlM step state) (items.foldlM each state) := by
  induction items generalizing state with
  | nil => exact hasOutcome_pure state
  | cons item items ih =>
      rw [List.foldlM_cons, List.foldlM_cons]
      exact (steps state item List.mem_cons_self).bind fun next =>
        ih (fun state item member => steps state item (List.mem_cons_of_mem _ member)) next

end Logged

namespace Update

/-! ## What an update says about a field -/

/-- The operand of an operator in an update. -/
def operandOf (operator : UpdateOperator) (update : Members) : Option Value :=
  (update.find? fun entry =>
    decide (UpdateOperator.ofKey? entry.1.shown = some operator)).map Prod.snd

/-- What an operator gives for each of its fields; an operand that is no object has none. -/
def changesOf (operator : UpdateOperator) (update : Members) : Members :=
  ((operandOf operator update).bind Value.members?).getD []

def setTo : Option Value → Option Value → Option Value
  | some value, _ => some value
  | none, current => current

/-- The value from which an increment counts. -/
def counted : Option Value → Value
  | none => .int 0
  | some .null => .int 0
  | some value => value

def withPushed : Option Value → Option Value → Option Value
  | some item, some (.list items) => some (.list (items ++ [item]))
  | some item, _ => some (.list [item])
  | none, current => current

/-! ## Changes of single fields -/

/-- What an operator does at a field, from the key, the operand and the value there: it
gives a value to put there, or none to leave the field. -/
abbrev Revision := Key → Value → Option Value → Except Failure (Option Value)

namespace Revision

def set : Revision := fun _ value _ => .ok (some value)

def increment : Revision := fun field amount current =>
  match (counted current).add amount with
  | .ok sum => .ok (some sum)
  | .error .unsuitableKind => .error (.store (cannotIncrement field (counted current)))
  | .error fault => .error (.fault fault)

def push : Revision := fun _ item current => .ok (withPushed (some item) current)

def pull : Revision := fun _ operand current =>
  match current with
  | some (.list items) =>
      ((pullItems operand items).map fun kept => some (.list kept)).mapError .fault
  | _ => .ok none

def put (document : Members) (field : Key) : Option Value → Members
  | some value => document.set field value
  | none => document

/-- Revises one field of a document. -/
def revise (revision : Revision) (document : Members) (change : Key × Value) :
    Except Failure Members :=
  (revision change.1 change.2 (document.get? change.1)).map (put document change.1)

/-- Revises the fields of a document in turn. -/
def reviseAll (revision : Revision) (changes document : Members) : Except Failure Members :=
  changes.foldlM revision.revise document

end Revision

/-! ## The operators as revisions -/

theorem countedFrom_eq (document : Members) (field : Key) :
    countedFrom document field = counted (document.get? field) := by
  unfold countedFrom counted
  split <;> simp_all

theorem revise_increment (document : Members) (change : Key × Value) :
    Revision.increment.revise document change = incrementField document change.1 change.2 := by
  simp only [Revision.revise, Revision.increment, incrementField, countedFrom_eq]
  cases (counted (document.get? change.1)).add change.2 with
  | ok sum => rfl
  | error fault => cases fault <;> rfl

theorem revise_push (document : Members) (change : Key × Value) :
    Revision.push.revise document change = .ok (pushField document change.1 change.2) := by
  simp only [Revision.revise, Revision.push, pushField]
  cases document.get? change.1 with
  | none => rfl
  | some current => cases current <;> rfl

theorem revise_pull (document : Members) (change : Key × Value) :
    Revision.pull.revise document change =
      (pullField document change.1 change.2).mapError .fault := by
  simp only [Revision.revise, Revision.pull, pullField]
  cases document.get? change.1 with
  | none => rfl
  | some current =>
      cases current with
      | list items =>
          dsimp only
          cases pullItems change.2 items <;> rfl
      | _ => rfl

/-! ## Operators -/

/-- The operators of an update other than unset revise fields. -/
def revisionOf : UpdateOperator → Option Revision
  | .set => some .set
  | .increment => some .increment
  | .push => some .push
  | .pull => some .pull
  | .unset => none

theorem applyFields_eq_reviseAll {operator : UpdateOperator} {revision : Revision}
    (revises : revisionOf operator = some revision) (document changes : Members) :
    applyFields document changes operator = revision.reviseAll changes document := by
  cases operator with
  | unset => cases revises
  | set =>
      cases revises
      exact (List.foldlM_pure (m := Except Failure)).symm
  | increment =>
      cases revises
      rw [Revision.reviseAll, funext₂ revise_increment]
      rfl
  | push =>
      cases revises
      rw [Revision.reviseAll, funext₂ revise_push]
      exact (List.foldlM_pure (m := Except Failure)).symm
  | pull =>
      cases revises
      rw [Revision.reviseAll, funext₂ revise_pull]
      exact Except.mapError_foldlM _ _ _ _

/-- The document without the fields that an operand of unset names. -/
def removeNamed (operand? : Option Value) (document : Members) : Except Failure Members :=
  match operand? with
  | none => .ok document
  | some operand =>
      ((unsetOperand operand).mapError .fault).map fun named =>
        match named with
        | .object fields => fields.foldl (fun document field => document.erase field.1) document
        | _ => document

/-- What one operator of an update makes of a document. -/
def operatorOutcome (update document : Members) (operator : UpdateOperator) :
    Except Failure Members :=
  match revisionOf operator with
  | some revision => revision.reviseAll (changesOf operator update) document
  | none => removeNamed (operandOf operator update) document

open Logged (HasOutcome) in
theorem hasOutcome_applyOperator {operators : Operators} {update : Members}
    {operator : UpdateOperator} (given : operand? operator operators = operandOf operator update)
    (document : Members) :
    HasOutcome (applyOperator operators document operator)
      (operatorOutcome update document operator) := by
  unfold applyOperator operatorOutcome
  rw [given, changesOf]
  cases operandOf operator update with
  | none => cases operator <;> exact Logged.hasOutcome_pure _
  | some operand =>
      cases revises : revisionOf operator with
      | none =>
          cases operator with
          | unset =>
              simp only [fields, removeNamed]
              cases unsetOperand operand with
              | error fault => exact fun _ => rfl
              | ok named => cases named <;> exact fun _ => rfl
          | _ => cases revises
      | some revision =>
          have kept : fields operator operand = .ok operand := by
            cases operator <;> first | rfl | cases revises
          simp only [kept]
          cases operand with
          | object changes =>
              have applied := applyFields_eq_reviseAll revises document changes
              simp only [Option.bind_some, Value.members?, Option.getD_some]
              rw [← applied]
              refine .bind_ok (Logged.hasOutcome_pure (Value.object changes)) ?_
              dsimp only
              cases applyFields document changes operator <;> exact fun _ => rfl
          | _ => exact fun _ => rfl

/-! ## Collected operators -/

theorem ofKey?_eq_some_iff {key : String} {operator : UpdateOperator} :
    UpdateOperator.ofKey? key = some operator ↔ canonicalKey key = operator.key := by
  unfold UpdateOperator.ofKey?
  split <;> rename_i isKey <;> cases operator <;> simp_all [UpdateOperator.key]

/-- The keys of the update are spellings of different names. -/
def DistinctNames (update : Members) : Prop :=
  (update.map fun entry => canonicalKey entry.1.shown).Nodup

instance (update : Members) : Decidable (DistinctNames update) :=
  inferInstanceAs (Decidable (List.Nodup _))

/-- All keys of the update are operators, where others are refused. -/
def IsRecognised (strict : Bool) (update : Members) : Prop :=
  strict = true → ∀ entry ∈ update, UpdateOperator.ofKey? entry.1.shown ≠ none

theorem operandOf_cons (operator : UpdateOperator) (entry : Key × Value) (update : Members) :
    operandOf operator (entry :: update) =
      if UpdateOperator.ofKey? entry.1.shown = some operator then some entry.2
      else operandOf operator update := by
  simp only [operandOf, List.find?_cons]
  split <;> simp_all

/-- The operand of an operator stands at one of its keys. -/
theorem exists_of_operandOf {update : Members} {operator : UpdateOperator} {operand : Value}
    (found : operandOf operator update = some operand) :
    ∃ entry ∈ update, UpdateOperator.ofKey? entry.1.shown = some operator ∧
      entry.2 = operand := by
  obtain ⟨entry, isFirst, isOperand⟩ := Option.map_eq_some_iff.mp found
  have isOperator := List.find?_some isFirst
  exact ⟨entry, List.mem_of_find?_eq_some isFirst, of_decide_eq_true isOperator, isOperand⟩

/-- Behind the key of an operator there is no other key of it. -/
theorem operandOf_eq_none {entry : Key × Value} {update : Members}
    (distinct : DistinctNames (entry :: update)) {operator : UpdateOperator}
    (isOperator : UpdateOperator.ofKey? entry.1.shown = some operator) :
    operandOf operator update = none := by
  refine Option.eq_none_iff_forall_not_mem.mpr fun operand found => ?_
  obtain ⟨other, isOther, sameOperator, _⟩ := exists_of_operandOf found
  have same : canonicalKey other.1.shown = canonicalKey entry.1.shown :=
    (ofKey?_eq_some_iff.mp sameOperator).trans (ofKey?_eq_some_iff.mp isOperator).symm
  exact (List.nodup_cons.mp distinct).1 (List.mem_map.mpr ⟨other, isOther, same⟩)

theorem operandOf_eq_some_iff {update : Members} (distinct : DistinctNames update)
    {operator : UpdateOperator} {operand : Value} :
    operandOf operator update = some operand ↔
      ∃ entry ∈ update, UpdateOperator.ofKey? entry.1.shown = some operator ∧
        entry.2 = operand := by
  refine ⟨exists_of_operandOf, ?_⟩
  rintro ⟨entry, isEntry, isOperator, rfl⟩
  induction update with
  | nil => cases isEntry
  | cons first update ih =>
      rw [operandOf_cons]
      rcases List.mem_cons.mp isEntry with rfl | later
      · rw [if_pos isOperator]
      · have found := ih (List.nodup_cons.mp distinct).2 later
        have other : UpdateOperator.ofKey? first.1.shown ≠ some operator := by
          intro same
          rw [operandOf_eq_none distinct same] at found
          cases found
        rw [if_neg other, found]

/-- The operand of an operator does not depend on the order of the keys. -/
theorem operandOf_perm {update other : Members} (distinct : DistinctNames update)
    (permuted : other.Perm update) (operator : UpdateOperator) :
    operandOf operator other = operandOf operator update := by
  have otherDistinct : DistinctNames other := (permuted.map _).nodup_iff.mpr distinct
  refine Option.ext fun operand => ?_
  rw [operandOf_eq_some_iff otherDistinct, operandOf_eq_some_iff distinct]
  simp only [permuted.mem_iff]

theorem operand?_setOperand (operator other : UpdateOperator) (operand : Value)
    (operators : Operators) :
    operand? other (setOperand operator operand operators) =
      if operator = other then some operand else operand? other operators := by
  induction operators with
  | nil => rfl
  | cons first operators ih =>
      obtain ⟨known, old⟩ := first
      rw [setOperand]
      by_cases same : known = operator
      · rw [if_pos same, operand?, operand?, same]
        split <;> rfl
      · rw [if_neg same, operand?, operand?, ih]
        by_cases isOther : known = other
        · rw [if_pos isOther, if_pos isOther, if_neg fun equal => same (isOther.trans equal.symm)]
        · rw [if_neg isOther, if_neg isOther]

open Logged (HasOutcome)

/-- The operators that are collected from an update have the operands that it gives them. -/
theorem hasOutcome_collect {strict : Bool} {update : Members}
    (recognised : IsRecognised strict update) (distinct : DistinctNames update)
    (operators : Operators) :
    ∃ collected, HasOutcome (collect strict operators update) (.ok collected) ∧
      ∀ operator, operand? operator collected =
        (operandOf operator update).or (operand? operator operators) := by
  induction update generalizing operators with
  | nil => exact ⟨operators, Logged.hasOutcome_pure _, fun _ => rfl⟩
  | cons entry update ih =>
      obtain ⟨key, operand⟩ := entry
      have others : DistinctNames update := (List.nodup_cons.mp distinct).2
      have later : IsRecognised strict update :=
        fun isStrict entry member => recognised isStrict entry (List.mem_cons_of_mem _ member)
      unfold collect
      dsimp only
      cases isOperator : UpdateOperator.ofKey? key.shown with
      | some operator =>
          obtain ⟨collected, has, operands⟩ :=
            ih later others (setOperand operator operand operators)
          refine ⟨collected, has, fun other => ?_⟩
          rw [operands, operand?_setOperand, operandOf_cons, isOperator]
          by_cases same : operator = other
          · subst same
            simp [operandOf_eq_none distinct isOperator]
          · simp [same]
      | none =>
          have lenient : strict = false := by
            by_contra isStrict
            exact recognised (by simpa using isStrict) _ List.mem_cons_self isOperator
          subst lenient
          obtain ⟨collected, has, operands⟩ := ih later others operators
          refine ⟨collected, Logged.HasOutcome.note_bind has, fun other => ?_⟩
          rw [operands, operandOf_cons, isOperator, if_neg (Option.some_ne_none other).symm]

theorem isRecognised_of_collect {strict : Bool} {update : Members} {operators collected : Operators}
    {entries log : List LogEntry}
    (returned : (collect strict operators update).Returns entries collected log) :
    IsRecognised strict update := by
  intro isStrict
  subst isStrict
  induction update generalizing operators entries with
  | nil => exact fun _ member => absurd member List.not_mem_nil
  | cons entry update ih =>
      obtain ⟨key, operand⟩ := entry
      unfold collect at returned
      dsimp only at returned
      cases isOperator : UpdateOperator.ofKey? key.shown with
      | some operator =>
          rw [isOperator] at returned
          exact List.forall_mem_cons.mpr ⟨by simp [isOperator], ih returned⟩
      | none =>
          rw [isOperator] at returned
          exact absurd returned Logged.returns_fail

/-! ## Whole updates -/

/-- What an update makes of a document, operator after operator. -/
def snapshot (update document : Members) : Except Failure Members :=
  UpdateOperator.applicationOrder.foldlM (operatorOutcome update) document

/-- Fields are set, incremented, pushed onto, pulled from and removed; setting never fails. -/
theorem snapshot_eq_bind (update document : Members) :
    snapshot update document =
      Revision.increment.reviseAll (changesOf .increment update)
          (document.merge (changesOf .set update)) >>= fun increased =>
        Revision.push.reviseAll (changesOf .push update) increased >>= fun pushed =>
          Revision.pull.reviseAll (changesOf .pull update) pushed >>=
            removeNamed (operandOf .unset update) := by
  have set : operatorOutcome update document .set = .ok (document.merge (changesOf .set update)) :=
    (applyFields_eq_reviseAll (show revisionOf .set = some .set from rfl) document _).symm
  unfold snapshot UpdateOperator.applicationOrder
  simp only [List.foldlM_cons, List.foldlM_nil, bind_pure, set]
  rfl

/-- An update whose keys are recognised has the outcome of its operators. -/
theorem hasOutcome_apply {strict : Bool} {update : Members}
    (recognised : IsRecognised strict update) (distinct : DistinctNames update)
    (document : Members) :
    HasOutcome (apply strict (.object document) (.object update)) (snapshot update document) := by
  obtain ⟨collected, has, operands⟩ := hasOutcome_collect recognised distinct []
  have steps : HasOutcome
      (UpdateOperator.applicationOrder.foldlM (applyOperator collected) document)
      (snapshot update document) :=
    .foldlM _ (fun state operator _ => hasOutcome_applyOperator
      ((operands operator).trans (Option.or_none ..)) state) document
  exact .bind_ok (Logged.hasOutcome_pure update) (.bind_ok has
    (.bind_ok (Logged.hasOutcome_pure document) steps))

/-- An update succeeds if its keys are recognised and its operators succeed. -/
theorem apply_returns_iff {strict : Bool} {update document result : Members}
    (distinct : DistinctNames update) {entries : List LogEntry} :
    (∃ log, (apply strict (.object document) (.object update)).Returns entries result log) ↔
      IsRecognised strict update ∧ snapshot update document = .ok result := by
  constructor
  · rintro ⟨log, returned⟩
    have recognised : IsRecognised strict update := by
      obtain ⟨changes, _, isObject, rest⟩ := Logged.returns_bind.mp returned
      obtain ⟨isObject, rfl⟩ := Logged.returns_ofFault.mp isObject
      cases isObject
      obtain ⟨operators, _, collected, _⟩ := Logged.returns_bind.mp rest
      exact isRecognised_of_collect collected
    exact ⟨recognised,
      (hasOutcome_apply recognised distinct document).returns_iff.mp ⟨log, returned⟩⟩
  · rintro ⟨recognised, succeeded⟩
    exact (hasOutcome_apply recognised distinct document).returns_iff.mpr succeeded

theorem snapshot_perm {update other : Members} (distinct : DistinctNames update)
    (permuted : other.Perm update) (document : Members) :
    snapshot other document = snapshot update document := by
  have same : operatorOutcome other = operatorOutcome update := by
    funext document operator
    simp only [operatorOutcome, changesOf, operandOf_perm distinct permuted]
  rw [snapshot, same]
  rfl

end Update

end DocStore
