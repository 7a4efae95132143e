import DocStore.Pipeline.Plan
import DocStore.Proofs.Alignment.Expression
import DocStore.Proofs.FilterLeaves

/-!
# Lines of searches

A selection, a count and a pipeline compile to the line of a condition between lines of a
few forms: a head, an ordering, paging, and for a group its columns and its key.  Every
statement of a search is taken apart into these once, so what holds of each form holds of
the statement.  Only the condition binds values.
-/

namespace DocStore

open Sql Fragment

/-! ## Parts of lines -/

namespace PipelinePlan

/-- The expression of an output column of a group: its key, if it has one, and what the
accumulators give. -/
inductive IsColumn (dialect : Dialect) : Fragment → Prop where
  | missing : IsColumn dialect [.raw "NULL"]
  | field (path : String) : IsColumn dialect (dialect.fieldPath path)
  | rows : IsColumn dialect [.raw "COUNT(*)"]
  | constant {operand : Value} {shown : String} (isNumber : operand.isNumber = true)
      (worded : operand.wording = .ok shown) : IsColumn dialect [.raw ("SUM(" ++ shown ++ ")")]
  | numbers (function : NumericAccumulator) (path : String) :
      IsColumn dialect
        (.raw (function.function ++ "(") :: (dialect.numericValue path ++ [.raw ")"]))

theorem isColumn_accumulation {dialect : Dialect} {accumulator : Accumulator}
    {operand : Value} {text : Fragment}
    (accumulated : accumulation dialect accumulator operand = .ok (some text)) :
    IsColumn dialect text := by
  unfold accumulation at accumulated
  split at accumulated
  · cases accumulated
    exact .rows
  · cases accumulated
    exact .numbers _ _
  · split at accumulated
    · rename_i isNumber
      obtain ⟨summed, constant, same⟩ := Except.map_eq_ok.mp accumulated
      cases same
      unfold constantSum at constant
      split at constant
      · cases constant
        exact .rows
      · obtain ⟨shown, worded, rfl⟩ := Except.map_eq_ok.mp constant
        exact .constant isNumber worded
    · cases accumulated
  · cases accumulated

theorem isColumn_column? {settings : CompileSettings} {name : String} {specification : Value}
    {entries log : List LogEntry} {text : Fragment}
    (returned : (column? settings name specification).Returns entries (some text) log) :
    IsColumn settings.dialect text := by
  unfold column? at returned
  split at returned
  · dsimp only at returned
    split at returned
    · simp only [Logged.returns_bind, Logged.returns_ofFault] at returned
      obtain ⟨expression, _, ⟨accumulated, _⟩, returned⟩ := returned
      cases expression with
      | some expression =>
          obtain ⟨same, _⟩ := Logged.returns_pure.mp returned
          cases same
          exact isColumn_accumulation accumulated
      | none =>
          dsimp only at returned
          split at returned <;> simp at returned
    · simp only [pure_bind] at returned
      split at returned <;> simp at returned
  · simp at returned

theorem isColumn_of_mem_columns {settings : CompileSettings} {group : Members}
    {entries log : List LogEntry} {outputs : List (String × Fragment)}
    (returned : (columns settings group).Returns entries outputs log) :
    ∀ output ∈ outputs, IsColumn settings.dialect output.2 := by
  induction group generalizing entries outputs with
  | nil =>
      obtain ⟨rfl, _⟩ := Logged.returns_pure.mp returned
      simp
  | cons member group ih =>
      obtain ⟨name, specification⟩ := member
      unfold columns at returned
      dsimp only at returned
      split at returned
      · exact ih returned
      · simp only [Logged.returns_bind, Logged.returns_pure] at returned
        obtain ⟨expression, _, expressionReturned, others, _, othersReturned, collected, rfl⟩ :=
          returned
        subst collected
        cases expression with
        | none => exact ih othersReturned
        | some expression =>
            intro output outputMember
            rcases List.mem_cons.mp outputMember with rfl | later
            · exact isColumn_column? expressionReturned
            · exact ih othersReturned output later

theorem eq_fieldPath_of_groupKey? {dialect : Dialect} {group : Members} {text : Fragment}
    (found : groupKey? dialect group = some text) : ∃ path, text = dialect.fieldPath path := by
  unfold groupKey? at found
  split at found
  · cases found
    exact ⟨_, rfl⟩
  · cases found

theorem isColumn_groupKey? (dialect : Dialect) (group : Members) :
    IsColumn dialect ((groupKey? dialect group).getD [.raw "NULL"]) := by
  cases found : groupKey? dialect group with
  | none => exact .missing
  | some text =>
      obtain ⟨path, rfl⟩ := eq_fieldPath_of_groupKey? found
      exact .field path

end PipelinePlan

namespace Query

/-- One item of an ordering: an output column or a field, with its direction. -/
inductive IsOrderItem (dialect : Dialect) : Fragment → Prop where
  | column (name : String) (ascending : Bool) :
      IsOrderItem dialect
        ([.identifier name] ++ [.raw (if ascending then " ASC" else " DESC")])
  | field (path : String) (ascending : Bool) :
      IsOrderItem dialect
        (dialect.jsonPath path ++ [.raw (if ascending then " ASC" else " DESC")])

theorem isOrderItem_orderItem {dialect : Dialect} {columns : List String} {item : Key × Value}
    {text : Fragment} (ordered : orderItem dialect columns item = .ok text) :
    IsOrderItem dialect text := by
  obtain ⟨ascending, _, ordered⟩ := Except.bind_eq_ok.mp ordered
  cases ordered
  split
  · exact .column _ ascending
  · exact .field _ ascending

/-- A line of a search besides that of its condition. -/
inductive IsFrame (dialect : Dialect) : Fragment → Prop where
  | empty : IsFrame dialect []
  | selection (collection : String) :
      IsFrame dialect
        [.raw ("SELECT " ++ Dialect.documentColumn ++ " FROM "), .identifier collection]
  | counting (collection : String) :
      IsFrame dialect [.raw "SELECT COUNT(*) AS count FROM ", .identifier collection]
  | columns {items : List (String × Fragment)}
      (each : ∀ item ∈ items, PipelinePlan.IsColumn dialect item.2) :
      IsFrame dialect
        (.raw "SELECT "
          :: joined ", " (items.map fun item => PipelinePlan.named item.1 item.2))
  | source (collection : String) : IsFrame dialect [.raw "FROM ", .identifier collection]
  | grouping (path : String) : IsFrame dialect (.raw "GROUP BY " :: dialect.fieldPath path)
  | ordering {items : List Fragment} (each : ∀ item ∈ items, IsOrderItem dialect item) :
      IsFrame dialect (.raw "ORDER BY " :: joined ", " items)
  | paging {text : String} (isAmount : IsAmount text) : IsFrame dialect [.raw text]

theorem isFrame_orderLine {dialect : Dialect} {columns : List String} {sort : Value}
    {line : Fragment} (ordered : orderLine dialect columns sort = .ok line) :
    IsFrame dialect line := by
  unfold orderLine at ordered
  split at ordered
  · cases ordered
    exact .empty
  · obtain ⟨items, _, ordered⟩ := Except.bind_eq_ok.mp ordered
    obtain ⟨ordering, traversed, ordered⟩ := Except.bind_eq_ok.mp ordered
    cases ordered
    refine .ordering fun text member => ?_
    obtain ⟨item, _, itemOrdered⟩ := Except.exists_of_mem_mapM traversed text member
    exact isOrderItem_orderItem itemOrdered

end Query

namespace Dialect

theorem pagingLine_eq_ok {word line : String} {amount : Value}
    (written : pagingLine word amount = .ok line) :
    ∃ count : Int, line = word ++ toString count := by
  obtain ⟨count, _, written⟩ := Except.bind_eq_ok.mp written
  split at written
  · cases written
    exact ⟨count, rfl⟩
  · cases written

theorem isAmount_of_mem_paging {dialect : Dialect} {limit offset : Value}
    {lines : List String} (paged : dialect.paging limit offset = .ok lines) :
    ∀ line ∈ lines, IsAmount line := by
  have limitAmount {line : String} {amount : Value}
      (written : pagingLine "LIMIT " amount = .ok line) : IsAmount line := by
    obtain ⟨count, rfl⟩ := pagingLine_eq_ok written
    exact .limit count
  have offsetAmount {line : String} {amount : Value}
      (written : pagingLine "OFFSET " amount = .ok line) : IsAmount line := by
    obtain ⟨count, rfl⟩ := pagingLine_eq_ok written
    exact .offset count
  unfold paging at paged
  dsimp only at paged
  split at paged <;> split at paged <;>
    simp only [pure_bind, Except.bind_eq_ok, Except.map_eq_ok, Except.pure_eq_ok] at paged
  · obtain ⟨_, ⟨offsetLine, offsetWritten, rfl⟩, rfl⟩ := paged
    simpa using offsetAmount offsetWritten
  · subst paged
    simp
  · obtain ⟨_, ⟨limitLine, limitWritten, rfl⟩, _, ⟨offsetLine, offsetWritten, rfl⟩, rfl⟩ := paged
    simpa using ⟨limitAmount limitWritten, offsetAmount offsetWritten⟩
  · obtain ⟨_, ⟨limitLine, limitWritten, rfl⟩, rfl⟩ := paged
    simpa using limitAmount limitWritten

end Dialect

/-! ## Statements -/

namespace Query

/-- The statement of a search: the line of its condition between other lines. -/
inductive IsSearch (dialect : Dialect) (condition : Fragment) : Statement → Prop where
  | intro (before after : List Fragment)
      (frames : ∀ line ∈ before ++ after, IsFrame dialect line) :
      IsSearch dialect condition (assemble dialect (before ++ condition :: after))

theorem isFrame_of_mem_paging {dialect : Dialect} {limit offset : Value} {lines : List String}
    (paged : dialect.paging limit offset = .ok lines) :
    ∀ line ∈ lines.map (fun line => [Piece.raw line]), IsFrame dialect line :=
  List.forall_mem_map.mpr fun line member =>
    .paging (Dialect.isAmount_of_mem_paging paged line member)

variable {settings : CompileSettings} {collection : String} {entries log : List LogEntry}
  {statement : Statement}

theorem whereLine_returns_iff {filter : Value} {line : Fragment} :
    (whereLine settings filter).Returns entries line log ↔
      ∃ text, (Filter.compile settings.dialect settings.strict filter).Returns entries text log ∧
        (match text with
          | some condition => .raw "WHERE " :: condition
          | none => []) = line := by
  simp only [whereLine, Logged.returns_bind]
  constructor
  · rintro ⟨text, middle, compiled, returned⟩
    cases text <;>
      (obtain ⟨rfl, rfl⟩ := Logged.returns_pure.mp returned; exact ⟨_, compiled, rfl⟩)
  · rintro ⟨text, compiled, rfl⟩
    exact ⟨text, log, compiled, by cases text <;> exact Logged.returns_pure.mpr ⟨rfl, rfl⟩⟩

/-- A condition with a text has a line, and no other condition has one. -/
theorem whereLine_cases {filter : Value} {line : Fragment}
    (returned : (whereLine settings filter).Returns entries line log) :
    (Filter.condition filter).fragment? settings.dialect = none ∧ line = [] ∨
      ∃ text, (Filter.condition filter).fragment? settings.dialect = some text ∧
        line = .raw "WHERE " :: text := by
  obtain ⟨text, compiled, rfl⟩ := whereLine_returns_iff.mp returned
  obtain ⟨_, written, _⟩ := Filter.compile_returns_iff.mp compiled
  cases text with
  | none => exact .inl ⟨written, rfl⟩
  | some text => exact .inr ⟨text, written, rfl⟩

theorem isSearch_select {filter sort limit skip : Value}
    (returned : (select settings collection filter sort limit skip).Returns entries
      statement log) :
    ∃ condition middle, (whereLine settings filter).Returns entries condition middle ∧
      IsSearch settings.dialect condition statement := by
  simp only [select, selectionTail, Logged.returns_bind, Logged.returns_ofFault,
    Logged.returns_pure] at returned
  obtain ⟨_, _, ⟨condition, middle, conditionReturned, ordering, _, ⟨ordered, _⟩, paging, _,
    ⟨paged, _⟩, rfl, _⟩, rfl, _⟩ := returned
  refine ⟨condition, middle, conditionReturned, .intro [_] (ordering :: _) ?_⟩
  intro line member
  rcases List.mem_cons.mp member with rfl | later
  · exact .selection collection
  · rcases List.mem_cons.mp later with rfl | later
    · exact isFrame_orderLine ordered
    · exact isFrame_of_mem_paging paged line later

theorem isSearch_count {filter : Value}
    (returned : (count settings collection filter).Returns entries statement log) :
    ∃ condition middle, (whereLine settings filter).Returns entries condition middle ∧
      IsSearch settings.dialect condition statement := by
  simp only [count, Logged.returns_bind, Logged.returns_pure] at returned
  obtain ⟨condition, middle, conditionReturned, rfl, _⟩ := returned
  refine ⟨condition, middle, conditionReturned, .intro [_] [] ?_⟩
  simpa using .counting collection

end Query

namespace PipelinePlan

variable {settings : CompileSettings} {collection : String} {entries log : List LogEntry}

theorem isSearch_groupedStatement {group : Value} {shape : PipelineShape} {statement : Statement}
    (returned :
      (groupedStatement settings collection group shape).Returns entries statement log) :
    ∃ condition earlier middle,
      (Query.whereLine settings shape.combined).Returns earlier condition middle ∧
        Query.IsSearch settings.dialect condition statement := by
  unfold groupedStatement at returned
  simp only [Logged.returns_bind, Logged.returns_ofFault, Logged.returns_pure] at returned
  obtain ⟨members, _, _, outputs, earlier, columnsReturned, condition, middle,
    conditionReturned, ordering, _, ⟨ordered, _⟩, paging, _, ⟨paged, _⟩, rfl, _⟩ := returned
  refine ⟨condition, earlier, middle, conditionReturned, .intro [_, _] (_ :: ordering :: _) ?_⟩
  have columns : ∀ item ∈ (groupColumn, (groupKey? settings.dialect members).getD [.raw "NULL"])
      :: outputs, IsColumn settings.dialect item.2 :=
    List.forall_mem_cons.mpr
      ⟨isColumn_groupKey? settings.dialect members, isColumn_of_mem_columns columnsReturned⟩
  intro line member
  simp only [List.cons_append, List.nil_append, List.mem_cons] at member
  rcases member with rfl | rfl | rfl | rfl | later
  · exact .columns columns
  · exact .source collection
  · cases found : groupKey? settings.dialect members with
    | none => exact .empty
    | some text =>
        obtain ⟨path, rfl⟩ := eq_fieldPath_of_groupKey? found
        exact .grouping path
  · exact Query.isFrame_orderLine ordered
  · exact Query.isFrame_of_mem_paging paged line later

theorem isSearch_ofShape {shape : PipelineShape} {plan : PipelinePlan}
    (returned : (ofShape settings collection shape).Returns entries plan log) :
    ∃ condition earlier middle,
      (Query.whereLine settings shape.combined).Returns earlier condition middle ∧
        Query.IsSearch settings.dialect condition plan.statement := by
  unfold ofShape at returned
  split at returned
  · simp only [Logged.returns_bind, Logged.returns_pure] at returned
    obtain ⟨statement, _, selected, rfl, _⟩ := returned
    obtain ⟨condition, middle, conditionReturned, isSearch⟩ := Query.isSearch_select selected
    exact ⟨condition, entries, middle, conditionReturned, isSearch⟩
  · dsimp only at returned
    split at returned <;> simp only [Logged.returns_bind, Logged.returns_pure] at returned
    · obtain ⟨_, _, _, statement, _, groupedReturned, rfl, _⟩ := returned
      exact isSearch_groupedStatement groupedReturned
    · obtain ⟨statement, _, groupedReturned, rfl, _⟩ := returned
      exact isSearch_groupedStatement groupedReturned

end PipelinePlan

/-! ## Bound values -/

theorem PipelinePlan.IsColumn.params_eq_nil {dialect : Dialect} {text : Fragment}
    (isColumn : IsColumn dialect text) : text.params = [] := by
  cases isColumn with
  | field path => exact Dialect.params_fieldPath dialect path
  | numbers function path =>
      have numbers : (dialect.numericValue path).params = [] :=
        Dialect.params_typedValue dialect path .number
      rw [params_cons, params_append, numbers]
      rfl
  | _ => rfl

theorem Query.IsFrame.params_eq_nil {dialect : Dialect} {line : Fragment}
    (isFrame : IsFrame dialect line) : line.params = [] := by
  cases isFrame with
  | columns each =>
      rename_i items
      rw [params_cons, params_joined]
      simp only [Piece.bound?, Option.toList, List.nil_append, List.flatten_eq_nil_iff,
        List.forall_mem_map]
      intro item member
      rw [PipelinePlan.named, params_append, (each item member).params_eq_nil]
      rfl
  | grouping path => simp [params_cons, Piece.bound?]
  | ordering each =>
      rename_i items
      rw [params_cons, params_joined]
      simp only [Piece.bound?, Option.toList, List.nil_append, List.flatten_eq_nil_iff,
        List.forall_mem_map]
      intro item member
      cases each item member <;> simp [params_append, params_cons, Piece.bound?]
  | _ => rfl

namespace Query

theorem params_assemble (dialect : Dialect) (lines : List Fragment) :
    (assemble dialect lines).params = (lines.map params).flatten := by
  rw [Statement.params, assemble, params_joined]
  induction lines with
  | nil => rfl
  | cons line lines ih => cases line <;> simpa using ih

/-- A search binds what its condition binds. -/
theorem IsSearch.params_eq {dialect : Dialect} {condition : Fragment} {statement : Statement}
    (isSearch : IsSearch dialect condition statement) : statement.params = condition.params := by
  obtain ⟨before, after, frames⟩ := isSearch
  have unbound {lines : List Fragment} (frames : ∀ line ∈ lines, IsFrame dialect line) :
      (lines.map params).flatten = [] := by
    rw [List.flatten_eq_nil_iff, List.forall_mem_map]
    exact fun line member => (frames line member).params_eq_nil
  obtain ⟨front, back⟩ := List.forall_mem_append.mp frames
  rw [params_assemble, List.map_append, List.map_cons, List.flatten_append, List.flatten_cons,
    unbound front, unbound back, List.nil_append, List.append_nil]

end Query

end DocStore
