import DocStore.Pipeline.Plan
import DocStore.Proofs.FilterMapping

/-!
# Computations that come to the same

Two logged computations come to the same if they have one outcome, whatever stands in the
log before either of them; what they report themselves may differ.  No step of a compilation
reads the log, so each comes to the same as itself, and sequences of steps inherit that.

The statement of a pipeline depends on its filters through the condition of their
conjunction, and on its group through the group key and the columns.
-/

namespace DocStore

open Sql

namespace Logged

variable {α β : Type}

/-- The computations have one outcome, whatever has been reported before. -/
def SameOutcome (left right : Logged α) : Prop :=
  ∀ entries others, (left.after entries).1 = (right.after others).1

theorem Returns.unique {computation : Logged α} {first second : α}
    {entries firstLog secondLog : List LogEntry}
    (firstReturned : computation.Returns entries first firstLog)
    (secondReturned : computation.Returns entries second secondLog) : first = second := by
  have outcomes := firstReturned.symm.trans secondReturned
  cases outcomes
  rfl

namespace SameOutcome

theorem symm {left right : Logged α} (same : SameOutcome left right) : SameOutcome right left :=
  fun entries others => (same others entries).symm

theorem trans {left middle right : Logged α} (first : SameOutcome left middle)
    (second : SameOutcome middle right) : SameOutcome left right :=
  fun entries others => (first entries entries).trans (second entries others)

theorem pure (value : α) : SameOutcome (pure value) (pure value) := fun _ _ => rfl

theorem throw (failure : Failure) : SameOutcome (throw failure : Logged α) (throw failure) :=
  fun _ _ => rfl

theorem note (left right : LogEntry) : SameOutcome (note left) (note right) := fun _ _ => rfl

theorem ofFault (outcome : Except Fault α) : SameOutcome (ofFault outcome) (ofFault outcome) := by
  intro entries others
  rw [after_ofFault, after_ofFault]

theorem bind {left right : Logged α} {leftNext rightNext : α → Logged β}
    (first : SameOutcome left right)
    (next : ∀ value, SameOutcome (leftNext value) (rightNext value)) :
    SameOutcome (left >>= leftNext) (right >>= rightNext) := by
  intro entries others
  have same := first entries others
  rw [after_bind, after_bind]
  rcases leftRan : left.after entries with ⟨leftOutcome, leftLog⟩
  rcases rightRan : right.after others with ⟨rightOutcome, rightLog⟩
  rw [leftRan, rightRan] at same
  obtain rfl : leftOutcome = rightOutcome := same
  cases leftOutcome with
  | error failure => rfl
  | ok value => exact next value leftLog rightLog

theorem foldlM {σ : Type} {step : σ → α → Logged σ}
    (each : ∀ state item, SameOutcome (step state item) (step state item)) (items : List α)
    (state : σ) : SameOutcome (items.foldlM step state) (items.foldlM step state) := by
  induction items generalizing state with
  | nil => exact .pure _
  | cons item items ih =>
      rw [List.foldlM_cons]
      exact .bind (each state item) fun next => ih next

/-- A report does not count. -/
theorem note_bind {entry : LogEntry} {next : Unit → Logged α} {right : Logged α}
    (same : SameOutcome (next ()) right) : SameOutcome (Logged.note entry >>= next) right := by
  intro entries others
  rw [after_bind, after_note]
  exact same _ _

/-- Where one computation returns, the other returns the same. -/
theorem returns {left right : Logged α} (same : SameOutcome left right) {result : α}
    {entries log : List LogEntry} (returned : left.Returns entries result log)
    (others : List LogEntry) : ∃ log, right.Returns others result log := by
  have outcome := same entries others
  rw [returned] at outcome
  exact ⟨(right.after others).2, Prod.ext outcome.symm rfl⟩

end SameOutcome

end Logged

open Logged (SameOutcome)

/-! ## Filters -/

namespace Filter

/-- What a filter compiles to depends on its condition only. -/
theorem sameOutcome_compile {left right : Value} (same : condition left = condition right)
    (dialect : Dialect) (strict : Bool) :
    SameOutcome (compile dialect strict left) (compile dialect strict right) := by
  intro entries others
  rw [after_compile, after_compile, trail, trail, same]

end Filter

theorem Query.sameOutcome_whereLine {left right : Value}
    (same : Filter.condition left = Filter.condition right) (settings : CompileSettings) :
    SameOutcome (whereLine settings left) (whereLine settings right) :=
  .bind (Filter.sameOutcome_compile same settings.dialect settings.strict) fun text => by
    cases text <;> exact .pure _

theorem Query.sameOutcome_select {left right : Value}
    (same : Filter.condition left = Filter.condition right) (settings : CompileSettings)
    (collection : String) (sort limit skip : Value) :
    SameOutcome (select settings collection left sort limit skip)
      (select settings collection right sort limit skip) :=
  .bind
    (.bind (sameOutcome_whereLine same settings) fun _ =>
      .bind (.ofFault _) fun _ => .bind (.ofFault _) fun _ => .pure _)
    fun _ => .pure _

/-! ## Pipelines -/

namespace PipelinePlan

variable (settings : CompileSettings)

theorem sameOutcome_column? (name : String) (specification : Value) :
    SameOutcome (column? settings name specification) (column? settings name specification) := by
  unfold column?
  split
  · dsimp only
    split <;> refine .bind (by first | exact .ofFault _ | exact .pure _) fun expression => ?_
    all_goals
      cases expression with
      | some expression => exact .pure _
      | none =>
          dsimp only
          split
          · exact .throw _
          · exact .bind (.note _ _) fun _ => .pure _
  · exact .bind (.note _ _) fun _ => .pure _

theorem sameOutcome_columns (group : Members) :
    SameOutcome (columns settings group) (columns settings group) := by
  induction group with
  | nil => exact .pure _
  | cons member group ih =>
      obtain ⟨name, specification⟩ := member
      unfold columns
      dsimp only
      split
      · exact ih
      · exact .bind (sameOutcome_column? settings _ _) fun _ => .bind ih fun _ => .pure _

/-- The group key and the columns of a group. -/
def outputs (group : Value) : Logged (Option Fragment × List (String × Fragment)) := do
  let members ← Logged.ofFault group.asObject
  let columns ← columns settings members
  pure (groupKey? settings.dialect members, columns)

theorem sameOutcome_outputs (group : Value) :
    SameOutcome (outputs settings group) (outputs settings group) :=
  .bind (.ofFault _) fun members => .bind (sameOutcome_columns settings members) fun _ => .pure _

end PipelinePlan

open PipelinePlan (outputs)

/-- The statements of the shapes cannot differ. -/
structure PipelineShape.Alike (settings : CompileSettings) (left right : PipelineShape) :
    Prop where
  filters : Filter.condition left.combined = Filter.condition right.combined
  sort : left.sort = right.sort
  limit : left.limit = right.limit
  skip : left.skip = right.skip
  grouped : left.group.isNull = right.group.isNull
  outputs : SameOutcome (outputs settings left.group) (outputs settings right.group)
  post : left.post = right.post

theorem PipelineShape.Alike.refl (settings : CompileSettings) (shape : PipelineShape) :
    Alike settings shape shape :=
  ⟨rfl, rfl, rfl, rfl, rfl, PipelinePlan.sameOutcome_outputs settings _, rfl⟩

namespace PipelinePlan

variable {settings : CompileSettings}

/-- The lines of a grouped statement after its columns are known. -/
def groupedLines (settings : CompileSettings) (collection : String) (shape : PipelineShape)
    (key : Option Fragment) (columns : List (String × Fragment)) : Logged (List Fragment) := do
  let items := (groupColumn, key.getD [.raw "NULL"]) :: columns
  let condition ← Query.whereLine settings shape.combined
  let ordering ← Logged.ofFault
    (Query.orderLine settings.dialect (items.map Prod.fst) shape.sort)
  let paging ← Logged.ofFault
    (settings.dialect.paging (.optional .natural shape.limit) (.optional .natural shape.skip))
  pure
    ([ .raw "SELECT " :: Fragment.joined ", " (items.map fun item => named item.1 item.2),
       [.raw "FROM ", .identifier collection],
       condition,
       (match key with
        | some expression => .raw "GROUP BY " :: expression
        | none => []),
       ordering ]
      ++ paging.map fun line => [.raw line])

theorem groupedStatement_eq (collection : String) (shape : PipelineShape) :
    groupedStatement settings collection shape.group shape = (do
      let (key, columns) ← outputs settings shape.group
      let lines ← groupedLines settings collection shape key columns
      pure (Query.assemble settings.dialect lines)) := by
  simp only [outputs, groupedLines, bind_assoc, pure_bind]
  rfl

theorem sameOutcome_groupedLines {left right : PipelineShape}
    (alike : left.Alike settings right) (collection : String) (key : Option Fragment)
    (columns : List (String × Fragment)) :
    SameOutcome (groupedLines settings collection left key columns)
      (groupedLines settings collection right key columns) := by
  unfold groupedLines
  rw [alike.sort, alike.limit, alike.skip]
  refine .bind (Query.sameOutcome_whereLine alike.filters settings) fun _ => ?_
  exact .bind (.ofFault _) fun _ => .bind (.ofFault _) fun _ => .pure _

theorem sameOutcome_groupedStatement {left right : PipelineShape}
    (alike : left.Alike settings right) (collection : String) :
    SameOutcome (groupedStatement settings collection left.group left)
      (groupedStatement settings collection right.group right) := by
  rw [groupedStatement_eq, groupedStatement_eq]
  exact .bind alike.outputs fun _ =>
    .bind (sameOutcome_groupedLines alike collection _ _) fun _ => .pure _

/-- Shapes whose statements cannot differ have the same plan. -/
theorem sameOutcome_ofShape {left right : PipelineShape} (alike : left.Alike settings right)
    (collection : String) :
    SameOutcome (ofShape settings collection left) (ofShape settings collection right) := by
  have grouped : SameOutcome
      (groupedStatement settings collection left.group left >>= fun statement =>
        pure { statement, grouped := true, post := [] : PipelinePlan })
      (groupedStatement settings collection right.group right >>= fun statement =>
        pure { statement, grouped := true, post := [] : PipelinePlan }) :=
    .bind (sameOutcome_groupedStatement alike collection) fun _ => .pure _
  unfold ofShape
  rw [alike.grouped, alike.post]
  split
  · rw [alike.sort, alike.limit, alike.skip]
    exact .bind (Query.sameOutcome_select alike.filters settings _ _ _ _) fun _ => .pure _
  · dsimp only
    split
    · exact .bind (.note _ _) fun _ => grouped
    · exact grouped

end PipelinePlan

end DocStore
