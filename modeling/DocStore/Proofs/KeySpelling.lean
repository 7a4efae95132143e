import DocStore.Proofs.PipelineNormalForm
import DocStore.Update

/-!
# The spelling of keys

The keys of operators, combinators, stages and accumulators may be written with or without
their dollar sign.  `Respelled` relates a filter to one with other spellings, however deep:
below a field all keys are operators; among the entries of a filter only a combinator with
its operand is one, and any other key is a field and stays.  A respelled filter has the same
condition.  Respelled updates and pipelines differ in what they report at most.
-/

namespace DocStore

open Sql
open Logged (SameOutcome)

/-! ## Keys -/

/-- The keys are spellings of one: equal, or apart from a dollar sign at the front. -/
def Key.Respelled (left right : Key) : Prop := canonicalKey left.shown = canonicalKey right.shown

instance (left right : Key) : Decidable (left.Respelled right) :=
  inferInstanceAs (Decidable (canonicalKey left.shown = canonicalKey right.shown))

theorem Key.Respelled.refl (key : Key) : Respelled key key := rfl

theorem Key.Respelled.same {left right : Key} (respelled : left.Respelled right) :
    canonicalKey left.shown = canonicalKey right.shown := respelled

theorem canonicalKey_of_plain {name : String} (plain : hasDollar name = false) :
    canonicalKey name = String.ofList ('$' :: name.toList) := by
  rw [canonicalKey, plain]
  rfl

theorem canonicalKey_dollar (name : String) :
    canonicalKey (String.ofList ('$' :: name.toList)) = String.ofList ('$' :: name.toList) :=
  canonicalKey_of_hasDollar (by simp [hasDollar])

/-- Two names are spellings of one key if one of them is the other, or the other with a
dollar sign put in front. -/
theorem Key.respelled_iff {left right : String} :
    Respelled (.text left) (.text right) ↔
      left = right ∨
        (hasDollar left = false ∧ right = String.ofList ('$' :: left.toList)) ∨
        (hasDollar right = false ∧ left = String.ofList ('$' :: right.toList)) := by
  constructor
  · intro respelled
    have same : canonicalKey left = canonicalKey right := respelled
    cases leftDollar : hasDollar left <;> cases rightDollar : hasDollar right
    · rw [canonicalKey_of_plain leftDollar, canonicalKey_of_plain rightDollar] at same
      have characters := (List.cons.inj (String.ofList_injective same)).2
      exact .inl (String.toList_injective characters)
    · rw [canonicalKey_of_plain leftDollar, canonicalKey_of_hasDollar rightDollar] at same
      exact .inr (.inl ⟨rfl, same.symm⟩)
    · rw [canonicalKey_of_hasDollar leftDollar, canonicalKey_of_plain rightDollar] at same
      exact .inr (.inr ⟨rfl, same⟩)
    · rw [canonicalKey_of_hasDollar leftDollar, canonicalKey_of_hasDollar rightDollar] at same
      exact .inl same
  · rintro (rfl | ⟨plain, rfl⟩ | ⟨plain, rfl⟩)
    · exact .refl _
    · exact (canonicalKey_of_plain plain).trans (canonicalKey_dollar left).symm
    · exact (canonicalKey_dollar right).trans (canonicalKey_of_plain plain).symm

theorem Key.Respelled.fieldOperator {left right : Key} (respelled : left.Respelled right) :
    FieldOperator.ofKey? left.shown = FieldOperator.ofKey? right.shown := by
  rw [FieldOperator.ofKey?, FieldOperator.ofKey?, respelled.same]

theorem Key.Respelled.combinator {left right : Key} (respelled : left.Respelled right) :
    Combinator.ofKey? left.shown = Combinator.ofKey? right.shown := by
  rw [Combinator.ofKey?, Combinator.ofKey?, respelled.same]

theorem Key.Respelled.updateOperator {left right : Key} (respelled : left.Respelled right) :
    UpdateOperator.ofKey? left.shown = UpdateOperator.ofKey? right.shown := by
  rw [UpdateOperator.ofKey?, UpdateOperator.ofKey?, respelled.same]

theorem Key.Respelled.stageKind {left right : Key} (respelled : left.Respelled right) :
    StageKind.ofKey? left.shown = StageKind.ofKey? right.shown := by
  rw [StageKind.ofKey?, StageKind.ofKey?, respelled.same]

theorem Key.Respelled.accumulator {left right : Key} (respelled : left.Respelled right) :
    Accumulator.ofKey? left.shown = Accumulator.ofKey? right.shown := by
  rw [Accumulator.ofKey?, Accumulator.ofKey?, respelled.same]

/-! ## Filters -/

namespace Filter

mutual

/-- What stands below a field, with other spellings of its operators. -/
inductive RespelledBelow : Value → Value → Prop where
  | value (operand : Value) : RespelledBelow operand operand
  | operators {left right : List (Key × Value)} :
      RespelledOperators left right → RespelledBelow (.object left) (.object right)

inductive RespelledOperators : List (Key × Value) → List (Key × Value) → Prop where
  | nil : RespelledOperators [] []
  | operator {leftKey rightKey : Key} {left right : List (Key × Value)} (operand : Value)
      (key : leftKey.Respelled rightKey) :
      RespelledOperators left right →
        RespelledOperators ((leftKey, operand) :: left) ((rightKey, operand) :: right)
  | negation {leftKey rightKey : Key} {leftOperand rightOperand : Value}
      {left right : List (Key × Value)} (key : leftKey.Respelled rightKey)
      (negates : FieldOperator.ofKey? leftKey.shown = some .not) :
      RespelledBelow leftOperand rightOperand → RespelledOperators left right →
        RespelledOperators ((leftKey, leftOperand) :: left) ((rightKey, rightOperand) :: right)

end

mutual

/-- A filter with other spellings of its combinators and of the operators below its
fields. -/
inductive Respelled : Value → Value → Prop where
  | value (filter : Value) : Respelled filter filter
  | entries {left right : List (Key × Value)} :
      RespelledEntries left right → Respelled (.object left) (.object right)

inductive RespelledEntries : List (Key × Value) → List (Key × Value) → Prop where
  | nil : RespelledEntries [] []
  | entry {left right : List (Key × Value)} (entry : Key × Value) :
      RespelledEntries left right → RespelledEntries (entry :: left) (entry :: right)
  | field {key : Key} {leftValue rightValue : Value} {left right : List (Key × Value)}
      (isField : combinator? key.shown leftValue = none) :
      RespelledBelow leftValue rightValue → RespelledEntries left right →
        RespelledEntries ((key, leftValue) :: left) ((key, rightValue) :: right)
  | combination {leftKey rightKey : Key} {combinator : Combinator}
      {leftItems rightItems : List Value} {left right : List (Key × Value)}
      (key : leftKey.Respelled rightKey)
      (combines : Combinator.ofKey? leftKey.shown = some combinator) (ofLists : combinator ≠ .not) :
      RespelledItems leftItems rightItems → RespelledEntries left right →
        RespelledEntries ((leftKey, .list leftItems) :: left)
          ((rightKey, .list rightItems) :: right)
  | negation {leftKey rightKey : Key} {leftEntries rightEntries left right : List (Key × Value)}
      (key : leftKey.Respelled rightKey)
      (negates : Combinator.ofKey? leftKey.shown = some .not) :
      RespelledEntries leftEntries rightEntries → RespelledEntries left right →
        RespelledEntries ((leftKey, .object leftEntries) :: left)
          ((rightKey, .object rightEntries) :: right)

inductive RespelledItems : List Value → List Value → Prop where
  | nil : RespelledItems [] []
  | cons {leftItem rightItem : Value} {left right : List Value} :
      Respelled leftItem rightItem → RespelledItems left right →
        RespelledItems (leftItem :: left) (rightItem :: right)

end

mutual

theorem fieldCondition_respelled (path : String) {left right : Value} :
    RespelledBelow left right → fieldCondition path left = fieldCondition path right
  | .value operand => rfl
  | .operators operators => by
      rw [fieldCondition, fieldCondition, operatorConditions_respelled path operators]

theorem operatorConditions_respelled (path : String) {left right : List (Key × Value)} :
    RespelledOperators left right →
      operatorConditions path left = operatorConditions path right
  | .nil => rfl
  | .operator operand key rest => by
      rw [operatorConditions, operatorConditions, operatorConditions_respelled path rest,
        key.fieldOperator, show canonicalKey _ = canonicalKey _ from key]
  | .negation key negates inner rest => by
      rw [operatorConditions, operatorConditions, operatorConditions_respelled path rest,
        ← key.fieldOperator, negates]
      dsimp only
      rw [fieldCondition_respelled path inner]

end

theorem takes_respelledBelow {left right : Value} (respelled : RespelledBelow left right)
    (combinator : Combinator) : takes combinator left = takes combinator right := by
  cases respelled with
  | value operand => rfl
  | operators operators => cases combinator <;> rfl

mutual

/-- A respelled filter has the same condition. -/
theorem condition_respelled {left right : Value} :
    Respelled left right → condition left = condition right
  | .value filter => rfl
  | .entries entries => by rw [condition, condition, entryConditions_respelled entries]

theorem entryConditions_respelled {left right : List (Key × Value)} :
    RespelledEntries left right → entryConditions left = entryConditions right
  | .nil => rfl
  | .entry (key, value) rest => by
      rw [entryConditions_cons, entryConditions_cons, entryConditions_respelled rest]
  | @RespelledEntries.field key leftValue rightValue _ _ isField below rest => by
      have isFieldToo : combinator? key.shown rightValue = none := by
        rw [← combinator?_congr (takes_respelledBelow below), isField]
      rw [entryConditions_cons, entryConditions_cons, entryConditions_respelled rest,
        entryCondition, entryCondition, isField, isFieldToo]
      dsimp only
      rw [unrecognised, unrecognised, fieldCondition_respelled _ below]
  | @RespelledEntries.combination leftKey rightKey combinator leftItems rightItems _ _ key
      combines ofLists items rest => by
      rw [entryConditions, entryConditions, entryConditions_respelled rest,
        ← key.combinator, combines, subconditions, subconditions,
        itemConditions_respelled items]
      cases combinator with
      | not => exact absurd rfl ofLists
      | _ => rfl
  | .negation key negates entries rest => by
      rw [entryConditions, entryConditions, entryConditions_respelled rest,
        ← key.combinator, negates, condition, condition, entryConditions_respelled entries]
      rfl

theorem itemConditions_respelled {left right : List Value} :
    RespelledItems left right → itemConditions left = itemConditions right
  | .nil => rfl
  | .cons item rest => by
      rw [itemConditions, itemConditions, condition_respelled item,
        itemConditions_respelled rest]

end

end Filter

/-! ## Updates -/

/-- Members with other spellings of their keys. -/
def Members.Respelled (left right : Members) : Prop :=
  List.Forall₂ (fun first second => first.1.Respelled second.1 ∧ first.2 = second.2) left right

namespace Update

theorem sameOutcome_collect {left right : Members} (respelled : left.Respelled right)
    (operators : Operators) :
    SameOutcome (collect false operators left) (collect false operators right) := by
  induction respelled generalizing operators with
  | nil => exact .pure _
  | @cons first second left right member _ ih =>
      obtain ⟨leftKey, operand⟩ := first
      obtain ⟨rightKey, _⟩ := second
      obtain ⟨key, rfl⟩ := member
      unfold collect
      dsimp only
      rw [key.updateOperator]
      cases UpdateOperator.ofKey? rightKey.shown with
      | some operator => exact ih _
      | none => exact .bind (.note _ _) fun _ => ih _

theorem sameOutcome_applyOperator (operators : Operators) (document : Members)
    (operator : UpdateOperator) :
    SameOutcome (applyOperator operators document operator)
      (applyOperator operators document operator) := by
  unfold applyOperator
  split
  · exact .pure _
  · refine .bind (.ofFault _) fun changes => ?_
    split
    · split
      · exact .pure _
      · exact .throw _
    · exact .bind (.note _ _) fun _ => .pure _

/-- A respelled update makes the same document. -/
theorem sameOutcome_apply {left right : Members} (respelled : left.Respelled right)
    (document : Value) :
    SameOutcome (apply false document (.object left)) (apply false document (.object right)) := by
  have applied (changes : Members) : apply false document (.object changes) = (do
      let operators ← collect false [] changes
      let members ← Logged.ofFault document.toMembers
      UpdateOperator.applicationOrder.foldlM (applyOperator operators) members) := by
    simp only [apply, Value.asObject, Logged.ofFault, pure_bind]
  rw [applied, applied]
  refine .bind (sameOutcome_collect respelled []) fun operators => .bind (.ofFault _) fun _ => ?_
  exact .foldlM (sameOutcome_applyOperator operators) _ _

end Update

/-! ## Pipelines -/

namespace PipelinePlan

/-- An output column with another spelling of its accumulator. -/
inductive RespelledColumn : Value → Value → Prop where
  | value (specification : Value) : RespelledColumn specification specification
  | accumulator {leftKey rightKey : Key} (operand : Value) (key : leftKey.Respelled rightKey) :
      RespelledColumn (.object [(leftKey, operand)]) (.object [(rightKey, operand)])

/-- A group with other spellings of its accumulators. -/
inductive RespelledGroup : Value → Value → Prop where
  | value (group : Value) : RespelledGroup group group
  | columns {left right : Members}
      (each : List.Forall₂
        (fun first second => first.1 = second.1 ∧ RespelledColumn first.2 second.2) left right) :
      RespelledGroup (.object left) (.object right)

theorem RespelledGroup.isNull_eq {left right : Value} (respelled : RespelledGroup left right) :
    left.isNull = right.isNull := by
  cases respelled <;> rfl

theorem sameOutcome_respelledColumn (dialect : Dialect) (name : String) {left right : Value}
    (respelled : RespelledColumn left right) :
    SameOutcome (column? ⟨dialect, false⟩ name left) (column? ⟨dialect, false⟩ name right) := by
  cases respelled with
  | value => exact sameOutcome_column? _ _ _
  | accumulator operand key =>
      unfold column?
      dsimp only
      rw [key.accumulator]
      split <;> refine .bind (by first | exact .ofFault _ | exact .pure _) fun expression => ?_
      all_goals
        cases expression with
        | some expression => exact .pure _
        | none => exact .bind (.note _ _) fun _ => .pure _

theorem sameOutcome_respelledColumns (dialect : Dialect) {left right : Members}
    (each : List.Forall₂
      (fun first second => first.1 = second.1 ∧ RespelledColumn first.2 second.2) left right) :
    SameOutcome (columns ⟨dialect, false⟩ left) (columns ⟨dialect, false⟩ right) := by
  induction each with
  | nil => exact .pure _
  | @cons first second left right member _ ih =>
      obtain ⟨name, leftColumn⟩ := first
      obtain ⟨_, rightColumn⟩ := second
      obtain ⟨rfl, column⟩ := member
      unfold columns
      dsimp only
      split
      · exact ih
      · exact .bind (sameOutcome_respelledColumn dialect _ column) fun _ =>
          .bind ih fun _ => .pure _

theorem groupKey?_respelled (dialect : Dialect) {left right : Members}
    (each : List.Forall₂
      (fun first second => first.1 = second.1 ∧ RespelledColumn first.2 second.2) left right) :
    groupKey? dialect left = groupKey? dialect right := by
  induction each with
  | nil => rfl
  | @cons first second left right member _ ih =>
      obtain ⟨name, leftColumn⟩ := first
      obtain ⟨_, rightColumn⟩ := second
      obtain ⟨rfl, column⟩ := member
      unfold groupKey? at ih ⊢
      simp only [Members.get?]
      cases name.same (.text groupColumn) with
      | true => cases column <;> rfl
      | false => exact ih

theorem sameOutcome_respelledOutputs (dialect : Dialect) {left right : Value}
    (respelled : RespelledGroup left right) :
    SameOutcome (outputs ⟨dialect, false⟩ left) (outputs ⟨dialect, false⟩ right) := by
  cases respelled with
  | value => exact sameOutcome_outputs _ _
  | @columns left right each =>
      have applied (members : Members) : outputs ⟨dialect, false⟩ (.object members) = (do
          let columns ← columns ⟨dialect, false⟩ members
          pure (groupKey? dialect members, columns)) := by
        simp only [outputs, Value.asObject, Logged.ofFault, pure_bind]
      rw [applied, applied, groupKey?_respelled dialect each]
      exact .bind (sameOutcome_respelledColumns dialect each) fun _ => .pure _

end PipelinePlan

open PipelinePlan (RespelledGroup)
open Stage (specifications)

namespace Stage

/-- The specification of a stage with other spellings of its keys: those of the filter
of a filter stage, and the accumulators of a group. -/
inductive RespelledSpecification : Option StageKind → Value → Value → Prop where
  | value (kind : Option StageKind) (specification : Value) :
      RespelledSpecification kind specification specification
  | filter {left right : Value} :
      Filter.Respelled left right → RespelledSpecification (some .filter) left right
  | group {left right : Value} :
      RespelledGroup left right → RespelledSpecification (some .group) left right

def Respelled (left right : Key × Value) : Prop :=
  left.1.Respelled right.1 ∧
    RespelledSpecification (StageKind.ofKey? left.1.shown) left.2 right.2

/-- An entry of a pipeline with other spellings of its stages. -/
inductive RespelledEntry : Value → Value → Prop where
  | value (entry : Value) : RespelledEntry entry entry
  | stages {left right : Members} (each : List.Forall₂ Respelled left right) :
      RespelledEntry (.object left) (.object right)

theorem Respelled.refl (stage : Key × Value) : Respelled stage stage :=
  ⟨.refl _, .value _ _⟩

theorem respelled_members {left right : List Value}
    (entries : List.Forall₂ RespelledEntry left right) :
    List.Forall₂ Respelled (members left) (members right) := by
  induction entries with
  | nil => exact .nil
  | @cons entry _ left right respelled _ ih =>
      cases respelled with
      | value =>
          cases entry with
          | object stages =>
              exact List.rel_append (List.forall₂_same.mpr fun stage _ => .refl stage) ih
          | _ => exact ih
      | stages each => exact List.rel_append each ih

theorem respelled_specifications {left right : Members} (kind : StageKind)
    (stages : List.Forall₂ Respelled left right) :
    List.Forall₂ (RespelledSpecification (some kind)) (specifications kind left)
      (specifications kind right) := by
  induction stages with
  | nil => exact .nil
  | @cons first second left right stage _ ih =>
      obtain ⟨key, specification⟩ := stage
      simp only [specifications, List.forall₂_map_left_iff, List.forall₂_map_right_iff] at ih ⊢
      by_cases named : StageKind.ofKey? first.1.shown = some kind
      · rw [named] at specification
        have namedToo : StageKind.ofKey? second.1.shown = some kind := key.stageKind ▸ named
        simpa [named, namedToo] using ⟨specification, ih⟩
      · have namedNeither : ¬StageKind.ofKey? second.1.shown = some kind := key.stageKind ▸ named
        simpa [named, namedNeither] using ih

/-- Only filters and groups have keys that can be spelled in another way. -/
theorem specifications_eq {left right : Members} (kind : StageKind) (noFilter : kind ≠ .filter)
    (noGroup : kind ≠ .group) (stages : List.Forall₂ Respelled left right) :
    specifications kind left = specifications kind right := by
  rw [← List.forall₂_eq_eq_eq]
  refine (respelled_specifications kind stages).imp fun first second specification => ?_
  cases specification with
  | value => rfl
  | filter => exact absurd rfl noFilter
  | group => exact absurd rfl noGroup

theorem filterMap_post?_respelled {left right : Members}
    (stages : List.Forall₂ Respelled left right) :
    left.filterMap post? = right.filterMap post? := by
  induction stages with
  | nil => rfl
  | @cons first second left right stage _ ih =>
      obtain ⟨leftKey, leftSpecification⟩ := first
      obtain ⟨rightKey, rightSpecification⟩ := second
      obtain ⟨key, specification⟩ := stage
      have same : post? (leftKey, leftSpecification) = post? (rightKey, rightSpecification) := by
        have kinds : StageKind.ofKey? leftKey.shown = StageKind.ofKey? rightKey.shown :=
          key.stageKind
        unfold post?
        dsimp only at specification ⊢
        rw [← kinds]
        generalize StageKind.ofKey? leftKey.shown = kind at specification
        cases specification <;> rfl
      rw [List.filterMap_cons, List.filterMap_cons, same, ih]

end Stage

namespace PipelineShape

theorem respelled_conjoined {left right : List Value}
    (filters : List.Forall₂ Filter.Respelled left right) :
    Filter.Respelled (conjoined left) (conjoined right) := by
  have items {left right : List Value} (filters : List.Forall₂ Filter.Respelled left right) :
      Filter.RespelledItems left right := by
    induction filters with
    | nil => exact .nil
    | cons filter _ ih => exact .cons filter ih
  have combines : Combinator.ofKey? (Key.text "$and").shown = some .and := by decide +kernel
  cases filters with
  | nil => exact .value _
  | cons filter rest =>
      cases rest with
      | nil => exact filter
      | cons second others =>
          exact .entries (.combination (.refl _) combines (by decide)
            (items (.cons filter (.cons second others))) .nil)

theorem respelled_firstPresent {left right : List Value}
    (groups : List.Forall₂ RespelledGroup left right) :
    RespelledGroup (firstPresent left) (firstPresent right) := by
  unfold firstPresent
  induction groups with
  | nil => exact .value _
  | @cons first second left right group _ ih =>
      rw [List.find?_cons, List.find?_cons, group.isNull_eq]
      cases second.isNull with
      | true => exact ih
      | false => exact group

/-- Respelled stages have the same normal form, but for spellings in its filters and in its
group. -/
theorem alike_of_respelled {left right : Members} (dialect : Dialect)
    (stages : List.Forall₂ Stage.Respelled left right) :
    (ofMembers left).Alike ⟨dialect, false⟩ (ofMembers right) := by
  have filters : List.Forall₂ Filter.Respelled (specifications .filter left)
      (specifications .filter right) := by
    refine (Stage.respelled_specifications .filter stages).imp fun first second respelled => ?_
    cases respelled with
    | value => exact .value _
    | filter filter => exact filter
  have groups : List.Forall₂ RespelledGroup (specifications .group left)
      (specifications .group right) := by
    refine (Stage.respelled_specifications .group stages).imp fun first second respelled => ?_
    cases respelled with
    | value => exact .value _
    | group group => exact group
  have counted : ∀ first second, Filter.Respelled first second →
      ((first.isObject && first.isTruthy) = true ↔
        (second.isObject && second.isTruthy) = true) := by
    rintro _ _ (filter | ⟨entries⟩)
    · rfl
    · cases entries <;> rfl
  have group := respelled_firstPresent groups
  exact {
    filters := Filter.condition_respelled
      (respelled_conjoined (List.rel_filter counted filters))
    sort := by simp only [ofMembers, Stage.specifications_eq .sort (by decide) (by decide) stages]
    limit := by simp only [ofMembers, Stage.specifications_eq .limit (by decide) (by decide) stages]
    skip := by simp only [ofMembers, Stage.specifications_eq .skip (by decide) (by decide) stages]
    grouped := group.isNull_eq
    outputs := PipelinePlan.sameOutcome_respelledOutputs dialect group
    post := Stage.filterMap_post?_respelled stages }

end PipelineShape

/-- The spelling of keys does not count.  A respelled filter compiles to the same clause, with
the same report.  Leniently, respelled updates make the same document and respelled pipelines
the same plan. -/
theorem compile_respelled (dialect : Dialect) :
    (∀ strict left right, Filter.Respelled left right →
      Filter.compile dialect strict left = Filter.compile dialect strict right) ∧
    (∀ document left right, Members.Respelled left right →
      SameOutcome (Update.apply false document (.object left))
        (Update.apply false document (.object right))) ∧
    ∀ collection left right, List.Forall₂ Stage.RespelledEntry left right →
      SameOutcome (PipelinePlan.compile ⟨dialect, false⟩ collection (.list left))
        (PipelinePlan.compile ⟨dialect, false⟩ collection (.list right)) := by
  refine ⟨fun strict left right filter => ?_, fun document left right => ?_, ?_⟩
  · unfold Filter.compile Filter.trail
    rw [Filter.condition_respelled filter]
  · exact fun update => Update.sameOutcome_apply update document
  · intro collection left right entries
    have alike := PipelineShape.alike_of_respelled dialect (Stage.respelled_members entries)
    have normal := PipelinePlan.sameOutcome_compile_ofShape dialect collection
    exact (normal left).trans
      ((PipelinePlan.sameOutcome_ofShape alike collection).trans (normal right).symm)

/-- Operators below a negation below a field below a combinator, in a filter by itself and in
a pipeline with a group; and the operators of an update. -/
theorem compile_respelled_nested :
    let filter (or not gt inside : Key) : Value :=
      .object [(or, .list [.object [("qty", .object [(not, .object [(gt, .int 1)])])],
        .object [("tags", .object [(inside, .list [.text "red"])])]])]
    let left := filter "or" "not" "gt" "in"
    let right := filter "$or" "$not" "$gt" "$in"
    let pipeline (stage group sum : Key) (filter : Value) : List Value :=
      [ .object [(stage, filter)],
        .object [(group, .object [("_id", .text "$kind"),
          ("total", .object [(sum, .text "$qty")])])] ]
    left ≠ right ∧ Filter.compile .mysql true left = Filter.compile .mysql true right ∧
      SameOutcome
        (Update.apply false (.object []) (.object [("set", .object [("qty", .int 2)])]))
        (Update.apply false (.object []) (.object [("$set", .object [("qty", .int 2)])])) ∧
      SameOutcome
        (PipelinePlan.compile ⟨.mysql, false⟩ "orders"
          (.list (pipeline "match" "group" "sum" left)))
        (PipelinePlan.compile ⟨.mysql, false⟩ "orders"
          (.list (pipeline "$match" "$group" "$sum" right))) := by
  intro filter left right pipeline
  obtain ⟨filters, updates, pipelines⟩ := compile_respelled .mysql
  have quantity : Filter.Respelled (.object [("qty", .object [("not", .object [("gt", .int 1)])])])
      (.object [("qty", .object [("$not", .object [("$gt", .int 1)])])]) := by
    refine .entries (.field (by decide +kernel) (.operators ?_) .nil)
    have greater : Filter.RespelledOperators [("gt", .int 1)] [("$gt", .int 1)] :=
      .operator _ (by decide +kernel) .nil
    exact .negation (by decide +kernel) (by decide +kernel) (.operators greater) .nil
  have tagged : Filter.Respelled (.object [("tags", .object [("in", .list [.text "red"])])])
      (.object [("tags", .object [("$in", .list [.text "red"])])]) := by
    refine .entries (.field (by decide +kernel) (.operators ?_) .nil)
    exact .operator _ (by decide +kernel) .nil
  have disjunction : Combinator.ofKey? (Key.text "or").shown = some .or := by decide +kernel
  have respelled : Filter.Respelled left right :=
    .entries (.combination (by decide +kernel) disjunction (by decide)
      (.cons quantity (.cons tagged .nil)) .nil)
  refine ⟨by simp [left, right, filter], filters true left right respelled, ?_, ?_⟩
  · exact updates _ _ _ (.cons ⟨by decide +kernel, rfl⟩ .nil)
  · refine pipelines "orders" _ _ (.cons (.stages (.cons ⟨by decide +kernel, ?_⟩ .nil))
      (.cons (.stages (.cons ⟨by decide +kernel, ?_⟩ .nil)) .nil))
    · have kind : StageKind.ofKey? (Key.text "match").shown = some .filter := by decide +kernel
      rw [kind]
      exact .filter respelled
    · have kind : StageKind.ofKey? (Key.text "group").shown = some .group := by decide +kernel
      rw [kind]
      exact .group (.columns (.cons ⟨rfl, .value _⟩
        (.cons ⟨rfl, .accumulator _ (by decide +kernel)⟩ .nil)))

end DocStore
