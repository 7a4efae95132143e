import DocStore.Proofs.UpdateOutcome

/-!
# Updates act field by field

An update is applied to a whole document, operator after operator.  What it makes of one
field depends on the value of that field and on what its operands give for it: the field
is set, then incremented, then pushed onto, then pulled from, and it is gone if it is
removed.  The order of the keys of the update does not matter, and the only increment
that an update reports as invalid is the first one that fails, if its kinds do not fit.
-/

namespace DocStore

theorem Key.text_same (content : String) (key : Key) :
    (text content).same key = decide (key = text content) := by
  cases key with
  | text other =>
      rw [same, beq_eq_decide]
      exact decide_eq_decide.mpr
        ⟨fun equal => by rw [equal], fun equal => (Key.text.inj equal).symm⟩
  | _ => simp [same, number?]

namespace Members

/-! ## Members at a key -/

theorem get?_eq_none_iff {members : Members} {content : String} :
    members.get? content = none ↔ .text content ∉ members.keys := by
  rw [← contains_text_iff, contains, Bool.not_eq_true, Option.isSome_eq_false_iff,
    Option.isNone_iff_eq_none]

/-- Setting a member leaves alone what is kept of the other members. -/
theorem filter_set {kept : Key → Bool} {content : String} (dropped : kept (.text content) = false)
    (value : Value) (members : Members) :
    (members.set content value).filter (fun member => kept member.1) =
      members.filter fun member => kept member.1 := by
  induction members with
  | nil => simp [set, dropped]
  | cons member members ih =>
      obtain ⟨name, old⟩ := member
      rw [set, Key.same_text]
      by_cases same : name = .text content
      · subst same
        simp [dropped]
      · simp only [decide_eq_true_eq, if_neg same, List.filter_cons, ih]

/-- A text is a key after setting a member if it was one before or is set. -/
theorem text_mem_keys_set {key : Key} {value : Value} {members : Members} {content : String} :
    .text content ∈ (members.set key value).keys ↔
      .text content ∈ members.keys ∨ key = .text content := by
  induction members with
  | nil => simp [set, keys, eq_comm]
  | cons member members ih =>
      obtain ⟨name, old⟩ := member
      simp only [keys] at ih
      by_cases same : name.same key = true
      · rw [set, if_pos same]
        have covers : key = .text content → name = .text content := by
          rintro rfl
          rw [Key.same_text] at same
          exact of_decide_eq_true same
        simp only [keys, List.map_cons, List.mem_cons]
        grind
      · rw [set, if_neg same]
        simp only [keys, List.map_cons, List.mem_cons, ih]
        tauto

theorem text_mem_keys_ofPairs {pairs : List (Key × Value)} {content : String} :
    .text content ∈ (ofPairs pairs).keys ↔ .text content ∈ pairs.map Prod.fst := by
  have folded (members : Members) : .text content ∈ (members.merge pairs).keys ↔
      .text content ∈ members.keys ∨ .text content ∈ pairs.map Prod.fst := by
    induction pairs generalizing members with
    | nil => simp [merge]
    | cons pair pairs ih =>
        have step : members.merge (pair :: pairs) = (members.set pair.1 pair.2).merge pairs := rfl
        rw [step, ih, text_mem_keys_set, List.map_cons, List.mem_cons]
        tauto
  rw [ofPairs, folded]
  simp [keys]

/-- Erasing a key of any kind removes the value at that key only. -/
theorem get?_erase_key (key : Key) (field : String) (members : Members) :
    (members.erase key).get? field = if key = .text field then none else members.get? field := by
  induction members with
  | nil => simp [erase, get?]
  | cons member members ih =>
      obtain ⟨name, value⟩ := member
      simp only [erase] at ih
      rw [erase, List.filter_cons]
      by_cases same : name = .text field
      · subst same
        simp only [Key.text_same]
        split
        · rename_i other
          simp_all [get?, Key.same_text]
        · rename_i erased
          simp_all
      · have passed :
            get? (.text field) ((name, value) :: members) = get? (.text field) members := by
          rw [get?, Key.same_text, if_neg (by simpa using same)]
        rw [passed, ← ih]
        split
        · rw [get?, Key.same_text, if_neg (by simpa using same)]
        · rfl

/-- Erasing a key leaves alone what is kept of the members at other texts. -/
theorem filter_erase {kept : Key → Bool} {key : Key}
    (others : ∀ name, kept name = true → ∃ content, name = .text content ∧ key ≠ .text content)
    (members : Members) :
    (members.erase key).filter (fun member => kept member.1) =
      members.filter fun member => kept member.1 := by
  rw [erase, List.filter_filter]
  refine List.filter_congr fun member _ => ?_
  cases isKept : kept member.1 with
  | false => rfl
  | true =>
      obtain ⟨content, isText, other⟩ := others member.1 isKept
      simp [isText, Key.text_same, other]

end Members

/-- Values of one kind that are equal. -/
def Value.strictlyEqual (left right : Value) : Bool :=
  decide (left.kind = right.kind) && left.equal right

theorem Value.strictlyEqual_of_compareWithinKind {left right : Value} {same : Bool}
    (compared : left.compareWithinKind right = .ok same) : left.strictlyEqual right = same := by
  unfold compareWithinKind at compared
  unfold strictlyEqual
  split at compared
  · rename_i sameKind
    simp [sameKind, equal, compared]
  · rename_i otherKind
    cases compared
    simp [otherKind]

namespace Update

/-! ## The law of one field -/

/-- The update removes the field: it is a key, or an element, of the operand of unset. -/
def Removes (update : Members) (field : String) : Prop :=
  match operandOf .unset update with
  | some (.object fields) => .text field ∈ Members.keys fields
  | some (.list items) => .text field ∈ items
  | _ => False

/-- An operator of the update names the field. -/
def Names (update : Members) (field : String) : Prop :=
  Removes update field ∨ ∃ operator, .text field ∈ (changesOf operator update).keys

def increasedBy : Option Value → Option Value → Except Fault (Option Value)
  | some amount, current => ((counted current).add amount).map some
  | none, current => .ok current

def withoutPulled : Option Value → Option Value → Option Value
  | some operand, some (.list items) =>
      some (.list (items.filter fun item => !item.strictlyEqual operand))
  | _, current => current

/-- What an update makes of a field that it does not remove, from the value before. -/
def revisedField (update : Members) (field : String) (current : Option Value) :
    Except Fault (Option Value) := do
  let increased ← increasedBy ((changesOf .increment update).get? field)
    (setTo ((changesOf .set update).get? field) current)
  pure (withoutPulled ((changesOf .pull update).get? field)
    (withPushed ((changesOf .push update).get? field) increased))

/-- The value from which the increment of a field counts: that of the document, or the one
that the update sets. -/
def incrementedFrom (document update : Members) (field : String) : Value :=
  counted (setTo ((changesOf .set update).get? field) (document.get? field))

/-- Increments that count from some values stop at a field: those before can be done, and the
kinds of its own do not fit. -/
def StopsAt (changes : Members) (current : String → Value) (field : String) : Prop :=
  ∃ earlier amount later, changes = earlier ++ (.text field, amount) :: later ∧
    (∀ name before, (.text name, before) ∈ earlier → ∃ sum, (current name).add before = .ok sum) ∧
    (current field).add amount = .error .unsuitableKind

/-! ## Revisions of fields -/

namespace Revision

variable {revision : Revision} {changes document result : Members}

theorem reviseAll_cons_eq_ok {change : Key × Value} :
    revision.reviseAll (change :: changes) document = .ok result ↔
      ∃ value, revision change.1 change.2 (document.get? change.1) = .ok value ∧
        revision.reviseAll changes (put document change.1 value) = .ok result := by
  rw [reviseAll, List.foldlM_cons, Except.bind_eq_ok]
  simp only [revise, Except.map_eq_ok]
  constructor
  · rintro ⟨_, ⟨value, revised, rfl⟩, rest⟩
    exact ⟨value, revised, rest⟩
  · rintro ⟨value, revised, rest⟩
    exact ⟨_, ⟨value, revised, rfl⟩, rest⟩

theorem get?_put (field other : String) (value : Option Value) :
    (put document field value).get? other =
      if other = field then setTo value (document.get? field) else document.get? other := by
  cases value with
  | none =>
      split
      · rename_i same
        rw [same]
        rfl
      · rfl
  | some value => exact Members.get?_set field other value document

/-- A field that is not among the changes keeps its value. -/
theorem get?_reviseAll_of_notMem {field : String} (keyed : changes.TextKeyed)
    (unnamed : .text field ∉ changes.keys)
    (revised : revision.reviseAll changes document = .ok result) :
    result.get? field = document.get? field := by
  induction changes generalizing document with
  | nil =>
      cases revised
      rfl
  | cons change changes ih =>
      obtain ⟨key, operand⟩ := change
      obtain ⟨content, rfl⟩ := keyed.texts key List.mem_cons_self
      obtain ⟨value, _, rest⟩ := reviseAll_cons_eq_ok.mp revised
      obtain ⟨otherField, unnamed⟩ := not_or.mp (mt List.mem_cons.mpr unnamed)
      rw [ih (keyed.sublist (List.sublist_cons_self _ _)) unnamed rest, get?_put,
        if_neg fun same => otherField (congrArg Key.text same)]

/-- A field among the changes is revised once, from its value in the document. -/
theorem get?_reviseAll {field : String} {operand : Value} (keyed : changes.TextKeyed)
    (named : changes.get? field = some operand)
    (revised : revision.reviseAll changes document = .ok result) :
    ∃ value, revision field operand (document.get? field) = .ok value ∧
      result.get? field = setTo value (document.get? field) := by
  induction changes generalizing document with
  | nil => cases named
  | cons change changes ih =>
      obtain ⟨key, first⟩ := change
      obtain ⟨content, rfl⟩ := keyed.texts key List.mem_cons_self
      obtain ⟨value, isValue, rest⟩ := reviseAll_cons_eq_ok.mp revised
      have later := keyed.sublist (List.sublist_cons_self _ _)
      rw [Members.get?, Key.same_text] at named
      by_cases same : content = field
      · subst same
        simp only [decide_true, if_true, Option.some.injEq] at named
        subst named
        have unnamed := (List.nodup_cons.mp keyed.distinct).1
        refine ⟨value, isValue, ?_⟩
        rw [get?_reviseAll_of_notMem later unnamed rest, get?_put, if_pos rfl]
      · have otherKey : ¬ Key.text content = .text field := fun equal => same (Key.text.inj equal)
        rw [if_neg (by simpa using otherKey)] at named
        obtain ⟨value, isValue, isResult⟩ := ih later named rest
        rw [get?_put, if_neg fun equal => same equal.symm] at isValue isResult
        exact ⟨value, isValue, isResult⟩

/-- What is kept of the fields that are not revised stays, in its order. -/
theorem filter_reviseAll {kept : Key → Bool} (keyed : changes.TextKeyed)
    (dropped : ∀ key ∈ changes.keys, kept key = false)
    (revised : revision.reviseAll changes document = .ok result) :
    result.filter (fun member => kept member.1) = document.filter fun member => kept member.1 := by
  induction changes generalizing document with
  | nil =>
      cases revised
      rfl
  | cons change changes ih =>
      obtain ⟨key, operand⟩ := change
      obtain ⟨content, rfl⟩ := keyed.texts key List.mem_cons_self
      obtain ⟨value, _, rest⟩ := reviseAll_cons_eq_ok.mp revised
      obtain ⟨first, others⟩ := List.forall_mem_cons.mp dropped
      rw [ih (keyed.sublist (List.sublist_cons_self _ _)) others rest]
      cases value with
      | none => rfl
      | some value => exact Members.filter_set first value document

/-- The changes fail at a field: those before it can be made to the document, and the one of
the field cannot. -/
def FailsAt (revision : Revision) (changes document : Members) (field : String)
    (failure : Failure) : Prop :=
  ∃ earlier operand later, changes = earlier ++ (.text field, operand) :: later ∧
    (∀ (name : String) before, (.text name, before) ∈ earlier →
      ∃ value, revision name before (document.get? name) = .ok value) ∧
    revision field operand (document.get? field) = .error failure

variable {field name : String} {operand : Value} {failure : Failure}

theorem failsAt_cons_of_ok {value : Option Value}
    (revised : revision name operand (document.get? name) = .ok value) :
    FailsAt revision ((.text name, operand) :: changes) document field failure ↔
      FailsAt revision changes document field failure := by
  constructor
  · rintro ⟨earlier, stop, later, isList, done, failed⟩
    rcases List.cons_eq_append_iff.mp isList with ⟨rfl, isFirst⟩ | ⟨between, rfl, rfl⟩
    · cases isFirst
      rw [revised] at failed
      cases failed
    · exact ⟨between, stop, later, rfl,
        fun other before isBefore => done other before (List.mem_cons_of_mem _ isBefore), failed⟩
  · rintro ⟨earlier, stop, later, rfl, done, failed⟩
    refine ⟨(.text name, operand) :: earlier, stop, later, rfl, fun other before isBefore => ?_,
      failed⟩
    rcases List.mem_cons.mp isBefore with isFirst | isBefore
    · cases isFirst
      exact ⟨value, revised⟩
    · exact done other before isBefore

theorem failsAt_cons_of_error {first : Failure}
    (refused : revision name operand (document.get? name) = .error first) :
    FailsAt revision ((.text name, operand) :: changes) document field failure ↔
      name = field ∧ first = failure := by
  constructor
  · rintro ⟨earlier, stop, later, isList, done, failed⟩
    rcases List.cons_eq_append_iff.mp isList with ⟨rfl, isFirst⟩ | ⟨between, rfl, rfl⟩
    · cases isFirst
      exact ⟨rfl, Except.error.inj (refused.symm.trans failed)⟩
    · obtain ⟨value, revised⟩ := done name operand List.mem_cons_self
      rw [refused] at revised
      cases revised
  · rintro ⟨rfl, rfl⟩
    exact ⟨[], operand, changes, rfl, fun _ _ isBefore => absurd isBefore List.not_mem_nil,
      refused⟩

/-- Where changes fail depends on the values of their fields. -/
theorem FailsAt.congr {other : Members}
    (same : ∀ name : String, .text name ∈ changes.keys → document.get? name = other.get? name)
    (fails : FailsAt revision changes document field failure) :
    FailsAt revision changes other field failure := by
  obtain ⟨earlier, stop, later, rfl, done, failed⟩ := fails
  refine ⟨earlier, stop, later, rfl, fun name before isBefore => ?_, ?_⟩
  · rw [← same name (List.mem_map_of_mem (List.mem_append_left _ isBefore))]
    exact done name before isBefore
  · rw [← same field (List.mem_map_of_mem (List.mem_append_right _ List.mem_cons_self))]
    exact failed

/-- Changes fail with the failure of the first one that cannot be made. -/
theorem reviseAll_eq_error_iff (keyed : changes.TextKeyed) :
    revision.reviseAll changes document = .error failure ↔
      ∃ field, FailsAt revision changes document field failure := by
  induction changes generalizing document with
  | nil =>
      constructor
      · intro failed
        cases failed
      · rintro ⟨_, earlier, _, _, isList, _⟩
        exact absurd (congrArg List.length isList) (by simp)
  | cons change changes ih =>
      obtain ⟨key, operand⟩ := change
      obtain ⟨name, rfl⟩ := keyed.texts key List.mem_cons_self
      rw [reviseAll, List.foldlM_cons]
      cases revised : revision name operand (document.get? name) with
      | error first =>
          simp only [revise, revised, failsAt_cons_of_error revised]
          simp [Except.map, bind, Except.bind]
      | ok value =>
          -- no later change is of the same field, so each starts from where it did before
          have same : ∀ other : String, .text other ∈ Members.keys changes →
              (put document name value).get? other = document.get? other := by
            intro other isKey
            have apart : other ≠ name := by
              rintro rfl
              exact (List.nodup_cons.mp keyed.distinct).1 isKey
            rw [get?_put, if_neg apart]
          simp only [revise, revised, failsAt_cons_of_ok revised]
          exact (ih (keyed.sublist (List.sublist_cons_self _ _))).trans
            ⟨Exists.imp fun _ fails => fails.congr same,
              Exists.imp fun _ fails => fails.congr fun other isKey => (same other isKey).symm⟩

end Revision

/-! ### The fields that are kept -/

section Fields

variable {update document result : Members}

theorem textKeyed_changesOf (keyed : update.TextKeyed) (operator : UpdateOperator) :
    (changesOf operator update).TextKeyed := by
  unfold changesOf
  cases found : operandOf operator update with
  | none => exact .nil
  | some operand =>
      obtain ⟨entry, isEntry, _, rfl⟩ := exists_of_operandOf found
      have valued := keyed.values entry isEntry
      cases isOperand : entry.2 with
      | object changes =>
          rw [isOperand] at valued
          exact Value.hasTextKeys_object.mp valued
      | _ => exact .nil

/-- A field is revised if it is among the changes, and kept otherwise. -/
theorem revised_cases {revision : Revision} {changes : Members} (keyed : changes.TextKeyed)
    (revised : revision.reviseAll changes document = .ok result) (field : String) :
    (changes.get? field = none ∧ result.get? field = document.get? field) ∨
      ∃ operand value, changes.get? field = some operand ∧
        revision field operand (document.get? field) = .ok value ∧
        result.get? field = setTo value (document.get? field) := by
  cases named : changes.get? field with
  | none =>
      left
      have unnamed := Members.get?_eq_none_iff.mp named
      exact ⟨rfl, Revision.get?_reviseAll_of_notMem keyed unnamed revised⟩
  | some operand =>
      right
      obtain ⟨value, isValue, isResult⟩ := Revision.get?_reviseAll keyed named revised
      exact ⟨operand, value, rfl, isValue, isResult⟩

variable {changes : Members} (keyed : changes.TextKeyed) (field : String)

include keyed

theorem get?_afterSet (revised : Revision.set.reviseAll changes document = .ok result) :
    result.get? field = setTo (changes.get? field) (document.get? field) := by
  rcases revised_cases keyed revised field with
    ⟨unnamed, kept⟩ | ⟨operand, value, named, isValue, isResult⟩
  · rw [unnamed, kept]
    rfl
  · cases isValue
    rw [named, isResult]

theorem get?_afterIncrement (revised : Revision.increment.reviseAll changes document = .ok result) :
    increasedBy (changes.get? field) (document.get? field) = .ok (result.get? field) := by
  rcases revised_cases keyed revised field with
    ⟨unnamed, kept⟩ | ⟨amount, value, named, isValue, isResult⟩
  · rw [unnamed, kept]
    rfl
  · rw [named, isResult, increasedBy]
    unfold Revision.increment at isValue
    split at isValue
    · rename_i sum added
      cases isValue
      rw [added]
      rfl
    · cases isValue
    · cases isValue

theorem get?_afterPush (revised : Revision.push.reviseAll changes document = .ok result) :
    result.get? field = withPushed (changes.get? field) (document.get? field) := by
  rcases revised_cases keyed revised field with
    ⟨unnamed, kept⟩ | ⟨item, value, named, isValue, isResult⟩
  · rw [unnamed, kept]
    rfl
  · obtain rfl := Except.ok.inj isValue
    rw [named, isResult]
    unfold withPushed
    split <;> simp_all [setTo]

omit keyed in
theorem pullItems_eq {operand : Value} {items kept : List Value}
    (pulled : pullItems operand items = .ok kept) :
    kept = items.filter fun item => !item.strictlyEqual operand := by
  induction items generalizing kept with
  | nil =>
      cases pulled
      rfl
  | cons item items ih =>
      rw [pullItems] at pulled
      obtain ⟨same, compared, rest⟩ := Except.bind_eq_ok.mp pulled
      obtain ⟨others, othersPulled, rest⟩ := Except.bind_eq_ok.mp rest
      cases rest
      rw [List.filter_cons, Value.strictlyEqual_of_compareWithinKind compared, ih othersPulled]
      cases same <;> rfl

theorem get?_afterPull (revised : Revision.pull.reviseAll changes document = .ok result) :
    result.get? field = withoutPulled (changes.get? field) (document.get? field) := by
  rcases revised_cases keyed revised field with
    ⟨unnamed, kept⟩ | ⟨operand, value, named, isValue, isResult⟩
  · rw [unnamed, kept]
    rfl
  · rw [named, isResult]
    unfold Revision.pull at isValue
    split at isValue
    · rename_i items found
      obtain ⟨kept, pulled, rfl⟩ := Except.map_eq_ok.mp (Except.mapError_eq_ok.mp isValue)
      rw [found, pullItems_eq pulled]
      rfl
    · rename_i other
      cases isValue
      unfold withoutPulled
      split
      · rename_i items isOperand isList
        exact absurd isList (other items)
      · rfl

end Fields

/-! ### The fields that are removed -/

section Removal

variable {document result : Members}

theorem get?_foldl_erase (fields document : Members) (field : String) :
    (fields.foldl (fun document removed => document.erase removed.1) document).get? field =
      if .text field ∈ fields.keys then none else document.get? field := by
  induction fields generalizing document with
  | nil => simp [Members.keys]
  | cons removed fields ih =>
      have either : .text field ∈ Members.keys (removed :: fields) ↔
          removed.1 = .text field ∨ .text field ∈ Members.keys fields := by
        rw [Members.keys, List.map_cons, List.mem_cons, eq_comm]
        rfl
      rw [List.foldl_cons, ih, Members.get?_erase_key]
      by_cases first : removed.1 = .text field <;>
        by_cases later : .text field ∈ Members.keys fields <;> simp [either, first, later]

theorem filter_foldl_erase {kept : Key → Bool} (fields document : Members)
    (others : ∀ name, kept name = true → ∃ content, name = .text content ∧
      .text content ∉ fields.keys) :
    (fields.foldl (fun document removed => document.erase removed.1) document).filter
        (fun member => kept member.1) = document.filter fun member => kept member.1 := by
  induction fields generalizing document with
  | nil => rfl
  | cons removed fields ih =>
      have apart : ∀ name, kept name = true → ∃ content, name = .text content ∧
          removed.1 ≠ .text content ∧ .text content ∉ Members.keys fields := by
        intro name isKept
        obtain ⟨content, isText, absent⟩ := others name isKept
        obtain ⟨first, later⟩ := not_or.mp (mt List.mem_cons.mpr absent)
        exact ⟨content, isText, fun same => first same.symm, later⟩
      rw [List.foldl_cons, ih, Members.filter_erase]
      · intro name isKept
        obtain ⟨content, isText, first, _⟩ := apart name isKept
        exact ⟨content, isText, first⟩
      · intro name isKept
        obtain ⟨content, isText, _, later⟩ := apart name isKept
        exact ⟨content, isText, later⟩

theorem asKey_eq_text_iff {item : Value} {field : String} :
    item.asKey = .ok (.text field) ↔ item = .text field := by
  cases item with
  | decimal number =>
      unfold Value.asKey
      split <;> simp_all
  | _ => simp [Value.asKey]

theorem text_mem_asKey_iff {items : List Value} {keys : List Key}
    (traversed : items.mapM Value.asKey = .ok keys) {field : String} :
    .text field ∈ keys ↔ .text field ∈ items := by
  have related := Except.mapM_eq_ok.mp traversed
  clear traversed
  induction related with
  | nil => simp
  | @cons item key items keys isKey _ ih =>
      have same : Key.text field = key ↔ Value.text field = item := by
        rw [eq_comm, eq_comm (a := Value.text field), ← asKey_eq_text_iff, isKey]
        simp
      rw [List.mem_cons, List.mem_cons]
      exact or_congr same ih

/-- The fields that are erased are the texts that unset names, whatever the document. -/
theorem removeNamed_eq_ok {update : Members}
    (removed : removeNamed (operandOf .unset update) document = .ok result) :
    ∃ fields : Members, (∀ field, .text field ∈ fields.keys ↔ Removes update field) ∧
      ∀ other, removeNamed (operandOf .unset update) other =
        .ok (fields.foldl (fun document field => document.erase field.1) other) := by
  unfold Removes
  cases given : operandOf .unset update with
  | none => exact ⟨[], fun _ => by simp [Members.keys], fun _ => rfl⟩
  | some operand =>
      rw [given] at removed
      have removal {fields : Members} (named : unsetOperand operand = .ok (.object fields))
          (other : Members) : removeNamed (some operand) other =
            .ok (fields.foldl (fun document field => document.erase field.1) other) := by
        rw [removeNamed, named]
        rfl
      obtain ⟨named, isNamed, _⟩ := Except.map_eq_ok.mp removed
      have isNamed := Except.mapError_eq_ok.mp isNamed
      cases operand with
      | list items =>
          obtain ⟨keys, traversed, isObject⟩ := Except.bind_eq_ok.mp isNamed
          cases isObject
          refine ⟨_, fun field => ?_, removal isNamed⟩
          rw [Members.text_mem_keys_ofPairs, List.map_map]
          simp only [Function.comp_def, List.map_id']
          exact text_mem_asKey_iff traversed
      | object fields => exact ⟨fields, fun _ => Iff.rfl, removal rfl⟩
      | _ => exact ⟨[], fun _ => by simp [Members.keys], fun _ => rfl⟩

end Removal

/-! ### Successful updates -/

section Success

variable {update document result : Members}

/-- The documents between the operators of an update that succeeds. -/
structure Course (update document : Members) where
  set : Members
  increased : Members
  pushed : Members
  pulled : Members
  fields : Members
  isSet : Revision.set.reviseAll (changesOf .set update) document = .ok set
  isIncreased : Revision.increment.reviseAll (changesOf .increment update) set = .ok increased
  isPushed : Revision.push.reviseAll (changesOf .push update) increased = .ok pushed
  isPulled : Revision.pull.reviseAll (changesOf .pull update) pushed = .ok pulled
  isRemoved : ∀ field, .text field ∈ fields.keys ↔ Removes update field

/-- The document at the end of a course. -/
def Course.final (course : Course update document) : Members :=
  course.fields.foldl (fun document field => document.erase field.1) course.pulled

theorem exists_course (succeeded : snapshot update document = .ok result) :
    ∃ course : Course update document, result = course.final := by
  have set : Revision.set.reviseAll (changesOf .set update) document =
      .ok (document.merge (changesOf .set update)) :=
    (applyFields_eq_reviseAll (show revisionOf .set = some .set from rfl) document _).symm
  rw [snapshot_eq_bind] at succeeded
  obtain ⟨increased, isIncreased, rest⟩ := Except.bind_eq_ok.mp succeeded
  obtain ⟨pushed, isPushed, rest⟩ := Except.bind_eq_ok.mp rest
  obtain ⟨pulled, isPulled, isRemoved⟩ := Except.bind_eq_ok.mp rest
  obtain ⟨fields, areRemoved, removal⟩ := removeNamed_eq_ok isRemoved
  have isResult := Except.ok.inj (isRemoved.symm.trans (removal pulled))
  exact ⟨{ increased, pushed, pulled, fields, isSet := set, isIncreased, isPushed, isPulled,
           isRemoved := areRemoved, .. }, isResult⟩

/-- A field that is not removed is set, incremented, pushed onto and pulled from. -/
theorem revisedField_of_course (keyed : update.TextKeyed) (course : Course update document)
    (field : String) :
    revisedField update field (document.get? field) = .ok (course.pulled.get? field) := by
  have set := get?_afterSet (textKeyed_changesOf keyed .set) field course.isSet
  have increased :=
    get?_afterIncrement (textKeyed_changesOf keyed .increment) field course.isIncreased
  have pushed := get?_afterPush (textKeyed_changesOf keyed .push) field course.isPushed
  have pulled := get?_afterPull (textKeyed_changesOf keyed .pull) field course.isPulled
  rw [revisedField, ← set, increased, pulled, pushed]
  rfl

/-- What is kept of the fields that the update does not name stays, in its order. -/
theorem filter_of_course (keyed : update.TextKeyed) (course : Course update document)
    {kept : Key → Bool}
    (unnamed : ∀ key, kept key = true → ∃ field, key = .text field ∧ ¬ Names update field) :
    course.final.filter (fun member => kept member.1) =
      document.filter fun member => kept member.1 := by
  have dropped (operator : UpdateOperator) :
      ∀ key ∈ (changesOf operator update).keys, kept key = false := by
    intro key isKey
    cases isKept : kept key with
    | false => rfl
    | true =>
        obtain ⟨field, rfl, notNamed⟩ := unnamed key isKept
        exact absurd (.inr ⟨operator, isKey⟩) notNamed
  have stays {revision : Revision} {operator : UpdateOperator} {before after : Members}
      (revised : revision.reviseAll (changesOf operator update) before = .ok after) :
      after.filter (fun member => kept member.1) = before.filter fun member => kept member.1 :=
    Revision.filter_reviseAll (textKeyed_changesOf keyed operator) (dropped operator) revised
  have apart : ∀ key, kept key = true →
      ∃ field, key = .text field ∧ .text field ∉ course.fields.keys := by
    intro key isKept
    obtain ⟨field, isText, notNamed⟩ := unnamed key isKept
    exact ⟨field, isText, fun removed => notNamed (.inl ((course.isRemoved field).mp removed))⟩
  calc course.final.filter (fun member => kept member.1)
      = course.pulled.filter fun member => kept member.1 :=
          filter_foldl_erase course.fields course.pulled apart
    _ = course.pushed.filter fun member => kept member.1 := stays course.isPulled
    _ = course.increased.filter fun member => kept member.1 := stays course.isPushed
    _ = course.set.filter fun member => kept member.1 := stays course.isIncreased
    _ = document.filter fun member => kept member.1 := stays course.isSet

end Success

/-! ### Invalid increments -/

section Invalid

variable {update document : Members}

variable {changes : Members} {field : String}

theorem increment_returns_iff {key : Key} {amount : Value} {current : Option Value} :
    (∃ value, Revision.increment key amount current = .ok value) ↔
      ∃ sum, (counted current).add amount = .ok sum := by
  unfold Revision.increment
  cases (counted current).add amount with
  | ok sum => simp
  | error fault => cases fault <;> simp

theorem increment_invalid_iff {name : String} {amount : Value} {current : Option Value} :
    (∃ message original, Revision.increment name amount current =
        .error (.store (.invalidUpdate message field original))) ↔
      name = field ∧ (counted current).add amount = .error .unsuitableKind := by
  unfold Revision.increment
  cases (counted current).add amount with
  | ok sum => simp
  | error fault => cases fault <;> simp [cannotIncrement, Key.shown]

/-- Increments are invalid exactly where they stop. -/
theorem reviseAll_increment_invalid_iff (keyed : changes.TextKeyed) :
    (∃ message original, Revision.increment.reviseAll changes document =
        .error (.store (.invalidUpdate message field original))) ↔
      StopsAt changes (fun name : String => counted (document.get? name)) field := by
  simp only [Revision.reviseAll_eq_error_iff keyed]
  constructor
  · rintro ⟨message, original, name, earlier, amount, later, isList, done, failed⟩
    obtain ⟨rfl, refused⟩ := increment_invalid_iff.mp ⟨message, original, failed⟩
    exact ⟨earlier, amount, later, isList,
      fun other before isBefore => increment_returns_iff.mp (done other before isBefore), refused⟩
  · rintro ⟨earlier, amount, later, isList, done, refused⟩
    obtain ⟨message, original, failed⟩ := increment_invalid_iff.mpr ⟨rfl, refused⟩
    exact ⟨message, original, field, earlier, amount, later, isList,
      fun other before isBefore => increment_returns_iff.mpr (done other before isBefore), failed⟩

/-- Once the increments are done, an update fails with faults only. -/
theorem snapshot_eq_store_error_iff {error : StoreError} :
    snapshot update document = .error (.store error) ↔
      Revision.increment.reviseAll (changesOf .increment update)
        (document.merge (changesOf .set update)) = .error (.store error) := by
  have push (increased : Members) : ∃ pushed,
      Revision.push.reviseAll (changesOf .push update) increased = .ok pushed :=
    ⟨_, (applyFields_eq_reviseAll (show revisionOf .push = some .push from rfl) increased _).symm⟩
  have pull (pushed : Members) : ∃ outcome : Except Fault Members,
      Revision.pull.reviseAll (changesOf .pull update) pushed = outcome.mapError .fault :=
    ⟨_, (applyFields_eq_reviseAll (show revisionOf .pull = some .pull from rfl) pushed _).symm⟩
  have unset (pulled : Members) : ∃ outcome : Except Fault Members,
      removeNamed (operandOf .unset update) pulled = outcome.mapError .fault := by
    unfold removeNamed
    cases operandOf .unset update with
    | none => exact ⟨.ok pulled, rfl⟩
    | some operand =>
        dsimp only
        cases unsetOperand operand with
        | error fault => exact ⟨.error fault, rfl⟩
        | ok named => exact ⟨.ok _, rfl⟩
  rw [snapshot_eq_bind]
  cases Revision.increment.reviseAll (changesOf .increment update)
      (document.merge (changesOf .set update)) with
  | error failure => rfl
  | ok increased =>
      obtain ⟨pushed, isPushed⟩ := push increased
      obtain ⟨pulls, isPulled⟩ := pull pushed
      simp only [bind, Except.bind, isPushed, isPulled]
      cases pulls with
      | error fault => simp
      | ok pulled =>
          obtain ⟨removals, isRemoved⟩ := unset pulled
          simp only [Except.mapError_ok, isRemoved]
          cases removals <;> simp

/-- An update is reported as invalid at the field where its increments stop, and only there. -/
theorem snapshot_invalid_iff (keyed : update.TextKeyed) :
    (∃ message original, snapshot update document =
        .error (.store (.invalidUpdate message field original))) ↔
      StopsAt (changesOf .increment update) (incrementedFrom document update) field := by
  have set : Revision.set.reviseAll (changesOf .set update) document =
      .ok (document.merge (changesOf .set update)) :=
    (applyFields_eq_reviseAll (show revisionOf .set = some .set from rfl) document _).symm
  have current : incrementedFrom document update =
      fun name : String => counted ((document.merge (changesOf .set update)).get? name) :=
    funext fun name => congrArg counted
      (get?_afterSet (textKeyed_changesOf keyed .set) name set).symm
  rw [current, ← reviseAll_increment_invalid_iff (textKeyed_changesOf keyed .increment)]
  simp only [snapshot_eq_store_error_iff]

end Invalid

/-- An update that succeeds acts on each field alone, and leaves the fields that it does not
name as they are and in their order.  The order of its keys does not matter.  Where unknown
operators are passed over, it is invalid at the field at which its increments stop, and only
then. -/
theorem apply_fieldwise {update document : Members} (keyed : update.TextKeyed)
    (distinct : DistinctNames update) :
    (∀ strict result entries log,
      (apply strict (.object document) (.object update)).Returns entries result log →
        (∀ field : String,
          (Removes update field → result.get? field = none) ∧
          (¬ Removes update field →
            revisedField update field (document.get? field) = .ok (result.get? field))) ∧
        ∀ kept : Key → Bool,
          (∀ key, kept key = true → ∃ field, key = .text field ∧ ¬ Names update field) →
          result.filter (fun member => kept member.1) =
            document.filter fun member => kept member.1) ∧
    (∀ other : Members, other.Perm update →
      (∀ strict result entries,
        (∃ log, (apply strict (.object document) (.object other)).Returns entries result log) ↔
          ∃ log, (apply strict (.object document) (.object update)).Returns entries result log) ∧
      Logged.SameOutcome (apply false (.object document) (.object other))
        (apply false (.object document) (.object update))) ∧
    ∀ entries field,
      (∃ message original, ((apply false (.object document) (.object update)).after entries).1 =
        .error (.store (.invalidUpdate message field original))) ↔
        StopsAt (changesOf .increment update) (incrementedFrom document update) field := by
  refine ⟨?_, ?_, ?_⟩
  · intro strict result entries log returned
    obtain ⟨_, succeeded⟩ := (apply_returns_iff distinct).mp ⟨log, returned⟩
    obtain ⟨course, rfl⟩ := exists_course succeeded
    refine ⟨fun field => ?_, fun kept unnamed => filter_of_course keyed course unnamed⟩
    rw [Course.final, get?_foldl_erase, ← course.isRemoved]
    refine ⟨fun removed => if_pos removed, fun stays => ?_⟩
    rw [if_neg stays]
    exact revisedField_of_course keyed course field
  · intro other permuted
    have otherDistinct : DistinctNames other := (permuted.map _).nodup_iff.mpr distinct
    have same := snapshot_perm distinct permuted document
    have lenient (update : Members) : IsRecognised false update := nofun
    refine ⟨fun strict result entries => ?_, ?_⟩
    · have recognised : IsRecognised strict other ↔ IsRecognised strict update := by
        simp only [IsRecognised, permuted.mem_iff]
      rw [apply_returns_iff otherDistinct, apply_returns_iff distinct, recognised, same]
    · exact (hasOutcome_apply (lenient other) otherDistinct document).sameOutcome
        (same ▸ hasOutcome_apply (lenient update) distinct document)
  · intro entries field
    rw [hasOutcome_apply (show IsRecognised false update from nofun) distinct document entries]
    exact snapshot_invalid_iff keyed

/-- Three operators with their keys in another order than they are applied in. -/
theorem apply_fieldwise_threeOperators :
    let update : Members :=
      [("$unset", .list [.text "old"]), ("push", .object [("tags", .text "b")]),
        ("$inc", .object [("n", .int 2), ("id", .text "x")])]
    let document : Members := [("tags", .list [.text "a"]), ("old", .int 1), ("id", .text "d")]
    let result : Members :=
      [("tags", .list [.text "a", .text "b"]), ("id", .text "dx"), ("n", .int 2)]
    update.TextKeyed ∧ DistinctNames update ∧
      (apply false (.object document) (.object update)).Returns [] result [] ∧
      (∀ field : String, ¬ Removes update field →
        revisedField update field (document.get? field) = .ok (result.get? field)) ∧
      ∀ field, ¬ StopsAt (changesOf .increment update) (incrementedFrom document update) field := by
  intro update document result
  have keyed : update.TextKeyed := membersHaveTextKeys_iff.mp (by rfl)
  have distinct : DistinctNames update := by decide
  have returned : (apply false (.object document) (.object update)).Returns [] result [] := rfl
  obtain ⟨fieldwise, _, invalid⟩ := @apply_fieldwise update document keyed distinct
  refine ⟨keyed, distinct, returned, fun field stays => ?_, fun field stops => ?_⟩
  · exact ((fieldwise false result [] [] returned).1 field).2 stays
  · obtain ⟨message, original, failed⟩ := (invalid [] field).mpr stops
    rw [returned] at failed
    cases failed

end Update

end DocStore
