import DocStore.Pipeline.Plan
import DocStore.Proofs.Double.Bits
import DocStore.Proofs.FilterLeaves
import DocStore.Update

/-!
# Strict mode

Strict mode refuses what lenient mode reports and leaves out.  A strict computation either
ends with an unsupported operator or does what the lenient one does, its log included;
that passes from the steps of a computation to the whole.  A filter compiles strictly unless
its traversal comes upon an unknown operator, whose first one is refused, or before it upon an
operand with too many digits, at which a lenient compilation fails too.

A refused count is named with its value, and the naming fails at an integer with too many
digits.  The integer that a double amounts to has a text.
-/

namespace DocStore

namespace Logged

variable {α β : Type}

/-- The strict computation ends with an unsupported operator, or it does what the lenient
one does. -/
def RefusesOrAgrees (strict lenient : Logged α) : Prop :=
  ∀ entries,
    (∃ operator kind,
      (strict.after entries).1 = .error (.store (.unsupported operator kind))) ∨
    strict.after entries = lenient.after entries

namespace RefusesOrAgrees

theorem refl (computation : Logged α) : RefusesOrAgrees computation computation :=
  fun _ => .inr rfl

theorem refusal (operator kind : String) (lenient : Logged α) :
    RefusesOrAgrees (fail (.unsupported operator kind)) lenient :=
  fun _ => .inl ⟨operator, kind, rfl⟩

theorem refusal_bind (operator kind : String) (next : α → Logged β) (lenient : Logged β) :
    RefusesOrAgrees (fail (.unsupported operator kind) >>= next) lenient :=
  fun _ => .inl ⟨operator, kind, rfl⟩

theorem bind {strict lenient : Logged α} {strictNext lenientNext : α → Logged β}
    (first : RefusesOrAgrees strict lenient)
    (next : ∀ value, RefusesOrAgrees (strictNext value) (lenientNext value)) :
    RefusesOrAgrees (strict >>= strictNext) (lenient >>= lenientNext) := by
  intro entries
  rw [after_bind, after_bind]
  rcases first entries with ⟨operator, kind, refused⟩ | same
  · left
    refine ⟨operator, kind, ?_⟩
    rcases ran : strict.after entries with ⟨outcome, log⟩
    rw [ran] at refused
    rw [show outcome = _ from refused]
  · rw [same]
    rcases lenient.after entries with ⟨outcome, log⟩
    cases outcome with
    | error failure => exact .inr rfl
    | ok value => exact next value log

/-- Where both go on with the result of a computation on values, only its results count. -/
theorem ofFault_bind {outcome : Except Fault α} {strictNext lenientNext : α → Logged β}
    (next : ∀ value, outcome = .ok value →
      RefusesOrAgrees (strictNext value) (lenientNext value)) :
    RefusesOrAgrees (ofFault outcome >>= strictNext) (ofFault outcome >>= lenientNext) := by
  cases outcome with
  | error fault => exact fun _ => .inr rfl
  | ok value => exact next value rfl

end RefusesOrAgrees

end Logged

open Logged (RefusesOrAgrees)

/-! ## Filters -/

namespace Filter

/-- The unknown operators that the traversal of a filter comes upon, in its order. -/
def unknownOperators (filter : Value) : List String :=
  (leaves filter).filterMap FilterLeaf.unknown?

theorem follow_strict (events : List FilterEvent) :
    (∃ operator, (follow true events).failure = some (.store (.unsupported operator "filter"))) ∨
      follow true events = follow false events := by
  induction events with
  | nil => exact .inr rfl
  | cons event events ih =>
      cases event with
      | unwritable fault => exact .inr rfl
      | bind value =>
          rcases ih with ⟨operator, refused⟩ | same
          · exact .inl ⟨operator, by simpa [follow] using refused⟩
          · exact .inr (by simp only [follow, same])
      | note note =>
          cases note with
          | unsupported operator => exact .inl ⟨operator, rfl⟩
          | notSequence operator path =>
              rcases ih with ⟨unknown, refused⟩ | same
              · exact .inl ⟨unknown, by simpa [follow, FilterNote.refusal?] using refused⟩
              · exact .inr (by simp only [follow, FilterNote.refusal?, same])

theorem compile_refusesOrAgrees (dialect : Dialect) (filter : Value) :
    RefusesOrAgrees (compile dialect true filter) (compile dialect false filter) := by
  intro entries
  rcases follow_strict (condition filter).events with ⟨operator, refused⟩ | same
  · left
    refine ⟨operator, "filter", ?_⟩
    rw [after_compile, trail, refused]
  · right
    change compile dialect true filter entries = compile dialect false filter entries
    simp only [compile, trail, same]

theorem ending?_test {test : FieldTest} (writable : Writable test.events) :
    test.events.findSome? (ending? true) = none := by
  cases test with
  | sameJson path operand =>
      unfold Writable at writable
      cases obstacle : Json.obstacle? operand <;>
        simp_all [FieldTest.events, Json.encode, ending?]
  | oneOf path type operands => simp [FieldTest.events, ending?]
  | _ => rfl

theorem failure_follow_leaves {found : List FilterLeaf}
    (writable : Writable (found.flatMap FilterLeaf.events)) :
    (follow true (found.flatMap FilterLeaf.events)).failure =
      (found.filterMap FilterLeaf.unknown?).head?.map
        fun operator => .store (.unsupported operator "filter") := by
  rw [failure_follow, List.head?_filterMap]
  induction found with
  | nil => rfl
  | cons leaf found ih =>
      rw [List.flatMap_cons] at writable ⊢
      obtain ⟨first, rest⟩ := writable_append.mp writable
      rw [List.findSome?_append, ih rest, List.findSome?_cons]
      cases leaf with
      | test fieldTest =>
          rw [FilterLeaf.events, ending?_test first]
          rfl
      | note note => cases note <;> rfl

/-- A filter that can be written as JSON compiles strictly unless its traversal comes upon
an unknown operator; the first one is refused. -/
theorem after_compile_strict {filter : Value} (writable : Json.obstacle? filter = none)
    (dialect : Dialect) (entries : List LogEntry) :
    ((compile dialect true filter).after entries).1 =
      match (unknownOperators filter).head? with
      | some operator => .error (.store (.unsupported operator "filter"))
      | none => .ok ((condition filter).fragment? dialect) := by
  have events := writable_condition filter writable
  rw [Condition.events_eq_flatMap_leaves, leaves_condition] at events
  rw [after_compile, trail_eq_follow_leaves, failure_follow_leaves events, unknownOperators]
  cases ((leaves filter).filterMap FilterLeaf.unknown?).head? <;> rfl

end Filter

/-! ## Updates -/

namespace Update

end Update

/-! ## Counts with a text -/

theorem Key.isWritable_of_obstacle {key : Key} (writable : Json.keyObstacle? key = none) :
    key.isWritable = true := by
  cases key with
  | int number => simpa [Json.keyObstacle?, Json.integerObstacle?, Key.isWritable] using writable
  | _ => rfl

mutual

/-- What can be written as JSON can be shown. -/
theorem Value.isWritable_of_obstacle :
    (value : Value) → Json.obstacle? value = none → value.isWritable = true
  | .int number => fun writable => by
      simpa [Json.obstacle?, Json.integerObstacle?, Value.isWritable] using writable
  | .list items => fun writable => by
      rw [Value.isWritable, Value.areWritable_of_obstacle items writable]
  | .object members => fun writable => by
      rw [Value.isWritable, Value.areWritableMembers_of_obstacle members writable]
  | .null => fun _ => rfl
  | .bool flag => fun _ => rfl
  | .float number => fun _ => rfl
  | .decimal number => fun _ => rfl
  | .bytes content => fun _ => rfl
  | .text content => fun _ => rfl

theorem Value.areWritable_of_obstacle :
    (items : List Value) → Json.itemsObstacle? items = none → Value.areWritable items = true
  | [] => fun _ => rfl
  | item :: items => fun writable => by
      obtain ⟨first, others⟩ := Json.obstacle?_of_items_cons writable
      rw [Value.areWritable, Value.isWritable_of_obstacle item first,
        Value.areWritable_of_obstacle items others]
      rfl

theorem Value.areWritableMembers_of_obstacle :
    (members : List (Key × Value)) → Json.membersObstacle? members = none →
      Value.areWritableMembers members = true
  | [] => fun _ => rfl
  | (key, value) :: members => fun writable => by
      obtain ⟨named, first, others⟩ := Json.obstacle?_of_members_cons writable
      rw [Value.areWritableMembers, Key.isWritable_of_obstacle named,
        Value.isWritable_of_obstacle value first,
        Value.areWritableMembers_of_obstacle members others]
      rfl

end

namespace Double

variable {number : Float} {whole : Int}

/-- The integer part of a double has fewer bits than an integer with a text has digits. -/
theorem natAbs_lt_of_truncate? (truncated : (ofFloat number).truncate? = some whole) :
    ∃ bits ≤ longestNumeral, whole.natAbs < 2 ^ bits := by
  cases read : ofFloat number with
  | nan => simp [read, truncate?] at truncated
  | infinite negative => simp [read, truncate?] at truncated
  | finite negative significand exponent =>
      rw [read] at truncated
      obtain ⟨bounded, greatest⟩ : significand < 2 ^ 53 ∧ exponent ≤ 971 := by
        rcases (hasBits_of_finite read).value with ⟨rfl, rfl⟩ | isPositive
        · decide
        · exact ⟨isPositive.bounded, isPositive.greatest⟩
      have signed (magnitude : Nat) :
          (if negative then -Int.ofNat magnitude else Int.ofNat magnitude).natAbs =
            magnitude := by
        cases negative <;> simp
      rw [← Option.some.inj truncated, signed]
      cases exponent with
      | ofNat amount =>
          have few : 53 + amount ≤ longestNumeral := by
            have : amount ≤ 971 := Int.ofNat_le.mp greatest
            simp only [longestNumeral]
            omega
          refine ⟨53 + amount, few, ?_⟩
          rw [Nat.pow_add]
          exact Nat.mul_lt_mul_of_pos_right bounded (Nat.pow_pos (by decide))
      | negSucc amount => exact ⟨53, by decide, (Nat.div_le_self _ _).trans_lt bounded⟩

theorem isWritableInteger_of_truncate?
    (truncated : (ofFloat number).truncate? = some whole) : isWritableInteger whole = true := by
  obtain ⟨bits, few, below⟩ := natAbs_lt_of_truncate? truncated
  have powers (digits : Nat) (few : bits ≤ digits) : 2 ^ bits ≤ Nat.pow 10 digits :=
    calc 2 ^ bits ≤ 10 ^ bits := Nat.pow_le_pow_left (by decide) bits
      _ ≤ 10 ^ digits := Nat.pow_le_pow_right (by decide) few
  exact decide_eq_true (below.trans_le (powers longestNumeral few))

end Double

/-! ## Stages -/

namespace Stage

/-- Whether a stage can be named in a message. -/
def IsShowable : Stage → Prop
  | malformedCount _ specification => specification.isWritable = true
  | _ => True

theorem isWritable_integralForm {value : Value} (writable : value.isWritable = true) :
    (integralForm value).isWritable = true := by
  cases value with
  | float number =>
      unfold integralForm
      dsimp only
      split
      · rename_i truncated
        exact Double.isWritableInteger_of_truncate? truncated
      · rfl
  | _ => exact writable

theorem isShowable_read {specification : Value} (writable : Json.obstacle? specification = none)
    (key : String) : (read key specification).IsShowable := by
  have counted (make : Nat → Stage) (showable : ∀ count, (make count).IsShowable) :
      (counted make key specification).IsShowable := by
    unfold counted
    dsimp only
    split
    · exact showable _
    · exact isWritable_integralForm (Value.isWritable_of_obstacle specification writable)
  unfold read
  split
  case h_3 => exact counted _ fun _ => trivial
  case h_4 => exact counted _ fun _ => trivial
  all_goals trivial

theorem isShowable_ofEntry {entry : Value} (writable : Json.obstacle? entry = none) :
    ∀ stage ∈ ofEntry entry, stage.IsShowable := by
  intro stage member
  cases entry with
  | object members =>
      obtain ⟨⟨key, specification⟩, present, rfl⟩ := List.mem_map.mp member
      exact isShowable_read (Json.obstacle?_of_mem_members writable _ present) key.shown
  | _ => cases member

theorem isShowable_ofEntries {pipeline : Value} {entries : List Value}
    (writable : Json.obstacle? pipeline = none) (walked : pipeline.walk = .ok entries) :
    ∀ stage ∈ ofEntries entries, stage.IsShowable := by
  intro stage member
  obtain ⟨entry, present, member⟩ := List.mem_flatMap.mp member
  cases pipeline with
  | list items =>
      cases walked
      exact isShowable_ofEntry (Json.obstacle?_of_mem_items writable entry present) stage member
  | text content =>
      cases walked
      obtain ⟨character, _, rfl⟩ := List.mem_map.mp present
      cases member
  | object members =>
      cases walked
      obtain ⟨key, _, rfl⟩ := List.mem_map.mp present
      cases key <;> cases member
  | bytes content => cases writable
  | _ => cases walked

end Stage

namespace PipelineShape

theorem refusal?_cases (stage : Stage) :
    refusal? stage = none ∨
      (∃ operator kind, refusal? stage = some (.store (.unsupported operator kind))) ∨
      ¬ stage.IsShowable ∧ refusal? stage = some (.fault .malformedValue) := by
  cases stage with
  | unsupported key => exact .inr (.inl ⟨_, _, rfl⟩)
  | malformedCount key specification =>
      rw [Stage.IsShowable]
      by_cases showable : specification.isWritable = true
      · have worded : specification.wording = .ok specification.display := if_pos showable
        refine .inr (.inl ⟨key ++ ": " ++ specification.display, "pipeline stage", ?_⟩)
        rw [refusal?, worded]
        rfl
      · have unworded : specification.wording = .error .malformedValue := if_neg showable
        refine .inr (.inr ⟨showable, ?_⟩)
        rw [refusal?, unworded]
        rfl
  | _ => exact .inl rfl

/-- A strict reading of stages also ends at a count that cannot be named. -/
theorem addAll_refusesOrAgrees_or (stages : List Stage) (shape : PipelineShape) :
    RefusesOrAgrees (shape.addAll true stages) (shape.addAll false stages) ∨
      (∃ stage ∈ stages, ¬ stage.IsShowable) ∧
        ∀ entries, ((shape.addAll true stages).after entries).1 =
          .error (.fault .malformedValue) := by
  induction stages generalizing shape with
  | nil => exact .inl (.refl _)
  | cons stage stages ih =>
      rcases refusal?_cases stage with accepted | ⟨operator, kind, refused⟩ | ⟨hidden, fails⟩
      · unfold addAll
        rw [accepted]
        dsimp only
        rcases ih (shape.add stage) with goesOn | ⟨⟨later, isLater, hidden⟩, ends⟩
        · left
          cases shape.remark? stage with
          | none => exact goesOn
          | some text => exact .bind (.refl _) fun _ => goesOn
        · refine .inr ⟨⟨later, List.mem_cons_of_mem _ isLater, hidden⟩, fun entries => ?_⟩
          cases shape.remark? stage with
          | none => exact ends entries
          | some text => exact ends _
      · left
        unfold addAll
        rw [refused]
        exact .refusal_bind operator kind _ _
      · refine .inr ⟨⟨stage, List.mem_cons_self, hidden⟩, fun entries => ?_⟩
        unfold addAll
        rw [fails]
        rfl

end PipelineShape

/-! ## Statements -/

variable (dialect : Dialect)

theorem Query.whereLine_refusesOrAgrees (filter : Value) :
    RefusesOrAgrees (whereLine ⟨dialect, true⟩ filter) (whereLine ⟨dialect, false⟩ filter) :=
  .bind (Filter.compile_refusesOrAgrees dialect filter) fun _ => .refl _

theorem Query.select_refusesOrAgrees (collection : String) (filter sort limit skip : Value) :
    RefusesOrAgrees (select ⟨dialect, true⟩ collection filter sort limit skip)
      (select ⟨dialect, false⟩ collection filter sort limit skip) :=
  .bind (.bind (whereLine_refusesOrAgrees dialect filter) fun _ => .refl _) fun _ => .refl _

namespace PipelinePlan

theorem column?_refusesOrAgrees (name : String) (specification : Value) :
    RefusesOrAgrees (column? ⟨dialect, true⟩ name specification)
      (column? ⟨dialect, false⟩ name specification) := by
  unfold column?
  split
  · dsimp only
    split <;> refine .bind (.refl _) fun expression => ?_
    all_goals
      cases expression with
      | some expression => exact .refl _
      | none => exact .refusal _ _ _
  · exact .refl _

theorem columns_refusesOrAgrees (group : Members) :
    RefusesOrAgrees (columns ⟨dialect, true⟩ group) (columns ⟨dialect, false⟩ group) := by
  induction group with
  | nil => exact .refl _
  | cons member group ih =>
      obtain ⟨name, specification⟩ := member
      unfold columns
      dsimp only
      split
      · exact ih
      · exact .bind (column?_refusesOrAgrees dialect _ _) fun _ => .bind ih fun _ => .refl _

theorem groupedStatement_refusesOrAgrees (collection : String) (group : Value)
    (shape : PipelineShape) :
    RefusesOrAgrees (groupedStatement ⟨dialect, true⟩ collection group shape)
      (groupedStatement ⟨dialect, false⟩ collection group shape) :=
  .bind (.refl _) fun _ => .bind (columns_refusesOrAgrees dialect _) fun _ =>
    .bind (Query.whereLine_refusesOrAgrees dialect _) fun _ => .refl _

theorem ofShape_refusesOrAgrees (collection : String) (shape : PipelineShape) :
    RefusesOrAgrees (ofShape ⟨dialect, true⟩ collection shape)
      (ofShape ⟨dialect, false⟩ collection shape) := by
  unfold ofShape
  split
  · exact .bind (Query.select_refusesOrAgrees dialect _ _ _ _ _) fun _ => .refl _
  · have grouped := groupedStatement_refusesOrAgrees dialect collection shape.group shape
    dsimp only
    split
    · exact .bind (.refl _) fun _ => .bind grouped fun _ => .refl _
    · exact .bind grouped fun _ => .refl _

/-- A stage of the pipeline limits or skips by what is no count and holds an integer with too many
digits. -/
def CountsTooLong (pipeline : Value) : Prop :=
  ∃ entries, pipeline.walk = .ok entries ∧
    ∃ stage ∈ Stage.ofEntries entries, ¬ stage.IsShowable

theorem compile_refusesOrAgrees_or (pipeline : Value) (collection : String) :
    RefusesOrAgrees (compile ⟨dialect, true⟩ collection pipeline)
        (compile ⟨dialect, false⟩ collection pipeline) ∨
      CountsTooLong pipeline ∧
        ∀ entries, ((compile ⟨dialect, true⟩ collection pipeline).after entries).1 =
          .error (.fault .malformedValue) := by
  unfold compile
  cases walked : pipeline.walk with
  | error fault => exact .inl (.ofFault_bind fun value isValue => by cases isValue)
  | ok entries =>
      rcases PipelineShape.addAll_refusesOrAgrees_or (Stage.ofEntries entries) .empty with
        agrees | ⟨hidden, ends⟩
      · exact .inl (.ofFault_bind fun value isValue => by
          cases isValue
          exact .bind agrees fun shape => ofShape_refusesOrAgrees dialect collection shape)
      · refine .inr ⟨⟨entries, walked, hidden⟩, fun log => ?_⟩
        have fails := ends log
        rcases read : (PipelineShape.empty.addAll true (Stage.ofEntries entries)).after log with
          ⟨outcome, later⟩
        rw [read] at fails
        obtain rfl : outcome = .error (.fault .malformedValue) := fails
        simp only [Logged.after_bind, Logged.after_ofFault, Except.mapError, read]

theorem not_countsTooLong_of_writable {pipeline : Value}
    (writable : Json.obstacle? pipeline = none) : ¬ CountsTooLong pipeline := by
  rintro ⟨entries, walked, stage, isStage, hidden⟩
  exact hidden (Stage.isShowable_ofEntries writable walked stage isStage)

theorem compile_refusesOrAgrees {pipeline : Value} (writable : Json.obstacle? pipeline = none)
    (collection : String) :
    RefusesOrAgrees (compile ⟨dialect, true⟩ collection pipeline)
      (compile ⟨dialect, false⟩ collection pipeline) :=
  (compile_refusesOrAgrees_or dialect pipeline collection).resolve_right fun ends =>
    not_countsTooLong_of_writable writable ends.1

end PipelinePlan

/-! ## Refusal and agreement -/

end DocStore
