import DocStore.Proofs.PipelineFailures

/-!
# Grouped statements

The statement of a group has a column for its key and one for each accumulator that is
recognised, in the order of the group.  The expression of the key stands in two places, in the
columns and behind `GROUP BY`, and the names of the columns count again for the ordering.  So a
grouped statement is told by its parts, each of them once, and by what each part comes from.
-/

namespace DocStore

open Sql

/-! ## Parts -/

/-- The parts of a grouped statement. -/
structure GroupedParts where
  /-- The expression that the rows are grouped by; without one they are one group. -/
  key : Option Fragment
  /-- The columns after the key, under their names. -/
  outputs : List (String × Fragment)
  condition : Option Fragment
  /-- The items of the ordering, and whether they ascend. -/
  ordering : List (Fragment × Bool)
  paging : List String

namespace GroupedParts

/-- All columns under their names, the key first. -/
def columns (parts : GroupedParts) : List (String × Fragment) :=
  (PipelinePlan.groupColumn, parts.key.getD [.raw "NULL"]) :: parts.outputs

def names (parts : GroupedParts) : List String := parts.columns.map Prod.fst

def orderingText (item : Fragment × Bool) : Fragment :=
  item.1 ++ [.raw (if item.2 then " ASC" else " DESC")]

/-- The lines of the statement.  A part that is missing has no line. -/
def lines (parts : GroupedParts) (collection : String) : List Fragment :=
  [ .raw "SELECT " :: Fragment.joined ", "
      (parts.columns.map fun column => PipelinePlan.named column.1 column.2),
    [.raw "FROM ", .identifier collection] ]
  ++ (parts.condition.map fun condition => .raw "WHERE " :: condition).toList
  ++ (parts.key.map fun expression => .raw "GROUP BY " :: expression).toList
  ++ (if parts.ordering.isEmpty then []
      else [.raw "ORDER BY " :: Fragment.joined ", " (parts.ordering.map orderingText)])
  ++ parts.paging.map fun line => [.raw line]

def statement (parts : GroupedParts) (dialect : Dialect) (collection : String) : Statement :=
  { dialect, body := Fragment.joined "\n" (parts.lines collection) }

/-- What the condition binds. -/
def bound (parts : GroupedParts) : List Value := parts.condition.elim [] Fragment.params

end GroupedParts

/-! ## Where the parts come from -/

namespace PipelinePlan

/-- A recognised accumulator and its expression: a count, the sum of a constant, or a function
of the numbers at a field. -/
inductive Accumulates (dialect : Dialect) : Value → Fragment → Prop where
  | count {key : Key} {operand : Value} (named : Accumulator.ofKey? key.shown = some .count) :
      Accumulates dialect (.object [(key, operand)]) [.raw "COUNT(*)"]
  /-- The sum of ones counts the rows. -/
  | ones {key : Key} {operand : Value}
      (named : Accumulator.ofKey? key.shown = some (.numeric .sum))
      (isNumber : operand.isNumber = true) (isOne : operand.equal (.int 1) = true) :
      Accumulates dialect (.object [(key, operand)]) [.raw "COUNT(*)"]
  | constant {key : Key} {operand : Value} {text : String}
      (named : Accumulator.ofKey? key.shown = some (.numeric .sum))
      (isNumber : operand.isNumber = true) (notOne : operand.equal (.int 1) = false)
      (worded : operand.wording = .ok text) :
      Accumulates dialect (.object [(key, operand)]) [.raw ("SUM(" ++ text ++ ")")]
  | numbers {key : Key} {function : NumericAccumulator} (reference : String)
      (named : Accumulator.ofKey? key.shown = some (.numeric function)) :
      Accumulates dialect (.object [(key, .text reference)])
        (.raw (function.function ++ "(")
          :: (dialect.numericValue (fieldOfReference reference) ++ [.raw ")"]))

/-- The columns of the entries of a group, in their order: one for each entry besides the key
whose accumulator is recognised, under the name of the entry. -/
inductive Outputs (dialect : Dialect) : Members → List (String × Fragment) → Prop where
  | nil : Outputs dialect [] []
  | key {name : Key} {specification : Value} {group : Members}
      {outputs : List (String × Fragment)} (isKey : name.shown = groupColumn)
      (others : Outputs dialect group outputs) :
      Outputs dialect ((name, specification) :: group) outputs
  | column {name : Key} {specification : Value} {expression : Fragment} {group : Members}
      {outputs : List (String × Fragment)} (isOther : name.shown ≠ groupColumn)
      (accumulates : Accumulates dialect specification expression)
      (others : Outputs dialect group outputs) :
      Outputs dialect ((name, specification) :: group) ((name.shown, expression) :: outputs)
  | dropped {name : Key} {specification : Value} {group : Members}
      {outputs : List (String × Fragment)} (isOther : name.shown ≠ groupColumn)
      (unknown : ∀ expression, ¬Accumulates dialect specification expression)
      (others : Outputs dialect group outputs) :
      Outputs dialect ((name, specification) :: group) outputs

/-- An item of an ordering: the column that an entry names, or else the JSON value at the path
that it names; one sorts ascending. -/
structure OrdersBy (dialect : Dialect) (columns : List String) (entry : Key × Value)
    (item : Fragment × Bool) : Prop where
  column : entry.1.shown ∈ columns → item.1 = [.identifier entry.1.shown]
  path : entry.1.shown ∉ columns → item.1 = dialect.jsonPath entry.1.shown
  direction : entry.2.compare (.int 1) = .ok item.2

end PipelinePlan

open PipelinePlan

/-- The parts are those of a group. -/
structure GroupedParts.AreOf (parts : GroupedParts) (dialect : Dialect) (group : Members)
    (shape : PipelineShape) : Prop where
  /-- There is a key exactly if the group names a field. -/
  key : parts.key = match group.get? groupColumn with
    | some (.text reference) => some (dialect.fieldPath (fieldOfReference reference))
    | _ => none
  outputs : Outputs dialect group parts.outputs
  ordering : List.Forall₂ (OrdersBy dialect parts.names) (shape.sort.members?.getD [])
    parts.ordering
  paging : dialect.paging (.optional .natural shape.limit) (.optional .natural shape.skip) =
    .ok parts.paging

/-! ## Accumulators -/

namespace PipelinePlan

variable {dialect : Dialect} {settings : CompileSettings} {entries log : List LogEntry}

theorem accumulates_iff {key : Key} {operand : Value} {expression : Fragment} :
    Accumulates dialect (.object [(key, operand)]) expression ↔
      ∃ accumulator, Accumulator.ofKey? key.shown = some accumulator ∧
        accumulation dialect accumulator operand = .ok (some expression) := by
  constructor
  · intro accumulates
    cases accumulates with
    | count named => exact ⟨_, named, rfl⟩
    | ones named isNumber isOne =>
        refine ⟨_, named, ?_⟩
        cases operand <;> cases isNumber <;>
          simp [accumulation, constantSum, isOne, Value.isNumber, Except.map]
    | constant named isNumber notOne worded =>
        refine ⟨_, named, ?_⟩
        cases operand <;> cases isNumber <;>
          simp [accumulation, constantSum, notOne, worded, Value.isNumber, Except.map]
    | numbers reference named => exact ⟨_, named, rfl⟩
  · rintro ⟨accumulator, named, accumulated⟩
    unfold accumulation at accumulated
    split at accumulated
    · cases accumulated
      exact .count named
    · cases accumulated
      exact .numbers _ named
    · split at accumulated
      · rename_i isNumber
        obtain ⟨summed, isConstant, same⟩ := Except.map_eq_ok.mp accumulated
        cases same
        unfold constantSum at isConstant
        split at isConstant
        · rename_i isOne
          cases isConstant
          exact .ones named isNumber isOne
        · rename_i notOne
          obtain ⟨text, worded, rfl⟩ := Except.map_eq_ok.mp isConstant
          exact .constant named isNumber (by simpa using notOne) worded
      · cases accumulated
    · cases accumulated

/-- A constant that cannot be written has no sum. -/
theorem accumulation_of_unwritable (dialect : Dialect) {operand : Value}
    (isNumber : operand.isNumber = true) (notOne : operand.equal (.int 1) = false)
    (unwritable : operand.isWritable = false) :
    accumulation dialect (.numeric .sum) operand = .error .malformedValue := by
  have refused : operand.wording = .error .malformedValue := by
    rw [Value.wording, unwritable]
    rfl
  cases operand <;> cases isNumber <;>
    simp [accumulation, constantSum, notOne, refused, Value.isNumber, Except.map]

/-- Only objects with one entry accumulate. -/
theorem Accumulates.single {specification : Value} {expression : Fragment}
    (accumulates : Accumulates dialect specification expression) :
    ∃ key operand, specification = .object [(key, operand)] := by
  cases accumulates <;> exact ⟨_, _, rfl⟩

/-- The column of an entry is there exactly if its accumulator is recognised. -/
theorem accumulates_iff_of_column? {name : String} {specification : Value}
    {result : Option Fragment}
    (returned : (column? settings name specification).Returns entries result log)
    (expression : Fragment) :
    Accumulates settings.dialect specification expression ↔ result = some expression := by
  unfold column? at returned
  split at returned
  · rename_i key operand
    rw [accumulates_iff]
    dsimp only at returned
    split at returned
    · rename_i accumulator named
      simp only [Logged.returns_bind, Logged.returns_ofFault] at returned
      obtain ⟨expression?, _, ⟨accumulated, _⟩, returned⟩ := returned
      have same : result = expression? := by
        cases expression? with
        | some expression => exact (Logged.returns_pure.mp returned).1.symm
        | none =>
            dsimp only at returned
            split at returned
            · exact absurd returned Logged.returns_fail
            · simp only [Logged.returns_bind, Logged.returns_pure] at returned
              obtain ⟨_, _, _, same, _⟩ := returned
              exact same.symm
      simp [named, accumulated, same]
    · rename_i unnamed
      simp only [pure_bind] at returned
      split at returned
      · exact absurd returned Logged.returns_fail
      · simp only [Logged.returns_bind, Logged.returns_pure] at returned
        obtain ⟨_, _, _, rfl, _⟩ := returned
        simp [unnamed]
  · rename_i malformed
    simp only [Logged.returns_bind, Logged.returns_pure] at returned
    obtain ⟨_, _, _, rfl, _⟩ := returned
    refine iff_of_false (fun accumulates => ?_) (Option.some_ne_none _).symm
    obtain ⟨key, operand, rfl⟩ := accumulates.single
    exact malformed key operand rfl

theorem outputs_of_columns {group : Members} {outputs : List (String × Fragment)}
    (returned : (columns settings group).Returns entries outputs log) :
    Outputs settings.dialect group outputs := by
  induction group generalizing entries outputs with
  | nil =>
      obtain ⟨rfl, _⟩ := Logged.returns_pure.mp returned
      exact .nil
  | cons member group ih =>
      obtain ⟨name, specification⟩ := member
      unfold columns at returned
      dsimp only at returned
      split at returned
      · rename_i isKey
        exact .key isKey (ih returned)
      · rename_i isOther
        simp only [Logged.returns_bind, Logged.returns_pure] at returned
        obtain ⟨result, _, columnReturned, others, _, othersReturned, rfl, rfl⟩ := returned
        have recognised := accumulates_iff_of_column? columnReturned
        cases result with
        | some expression =>
            exact .column isOther ((recognised expression).mpr rfl) (ih othersReturned)
        | none =>
            refine .dropped isOther (fun expression accumulates => ?_) (ih othersReturned)
            cases (recognised expression).mp accumulates

end PipelinePlan

/-! ## Orderings -/

namespace PipelinePlan

variable {dialect : Dialect} {columns : List String}

theorem ordersBy_of_orderItem {entry : Key × Value} {text : Fragment}
    (ordered : Query.orderItem dialect columns entry = .ok text) :
    ∃ item, GroupedParts.orderingText item = text ∧ OrdersBy dialect columns entry item := by
  obtain ⟨ascending, direction, written⟩ := Except.bind_eq_ok.mp ordered
  refine ⟨(if columns.contains entry.1.shown then [.identifier entry.1.shown]
    else dialect.jsonPath entry.1.shown, ascending), Except.pure_eq_ok.mp written, ?_, ?_,
    direction⟩
  · exact fun isColumn => if_pos (List.contains_iff_mem.mpr isColumn)
  · exact fun noColumn => if_neg (List.contains_iff_mem.not.mpr noColumn)

theorem exists_items {entries : Members} {texts : List Fragment}
    (ordered : List.Forall₂ (fun entry text => Query.orderItem dialect columns entry = .ok text)
      entries texts) :
    ∃ items, List.Forall₂ (OrdersBy dialect columns) entries items ∧
      items.map GroupedParts.orderingText = texts := by
  induction ordered with
  | nil => exact ⟨[], .nil, rfl⟩
  | cons first _ ih =>
      obtain ⟨item, rfl, ordersBy⟩ := ordersBy_of_orderItem first
      obtain ⟨items, areItems, rfl⟩ := ih
      exact ⟨item :: items, .cons ordersBy areItems, rfl⟩

/-- The line of an ordering is that of its items, and an ordering without items has none. -/
theorem exists_ordering {sort : Value} {line : Fragment}
    (ordered : Query.orderLine dialect columns sort = .ok line) :
    ∃ items : List (Fragment × Bool),
      List.Forall₂ (OrdersBy dialect columns) (sort.members?.getD []) items ∧
      line = if items.isEmpty then []
        else .raw "ORDER BY " :: Fragment.joined ", " (items.map GroupedParts.orderingText) := by
  unfold Query.orderLine at ordered
  split at ordered
  · rename_i falsy
    have noEntries : sort.members?.getD [] = [] := by
      cases sort with
      | object members =>
          cases members with
          | nil => rfl
          | cons => cases falsy
      | _ => rfl
    cases ordered
    exact ⟨[], by rw [noEntries]; exact .nil, rfl⟩
  · rename_i truthy
    obtain ⟨members, isObject, ordered⟩ := Except.bind_eq_ok.mp ordered
    obtain ⟨texts, traversed, written⟩ := Except.bind_eq_ok.mp ordered
    obtain rfl : sort = .object members := by
      cases sort with
      | object => exact congrArg Value.object (Except.ok.inj isObject)
      | _ => cases isObject
    obtain ⟨items, areItems, rfl⟩ := exists_items (Except.mapM_eq_ok.mp traversed)
    refine ⟨items, areItems, ?_⟩
    have nonempty : items.isEmpty = false := by
      cases areItems with
      | nil => exact absurd rfl truthy
      | cons => rfl
    rw [nonempty]
    exact (Except.pure_eq_ok.mp written).symm

end PipelinePlan

/-! ## Statements -/

/-- Empty lines are left out, so the parts that are missing may have empty ones. -/
theorem GroupedParts.statement_eq (parts : GroupedParts) (dialect : Dialect)
    (collection : String) :
    parts.statement dialect collection = Query.assemble dialect
      ([ .raw "SELECT " :: Fragment.joined ", "
           (parts.columns.map fun column => named column.1 column.2),
         [.raw "FROM ", .identifier collection],
         (match parts.condition with
          | some condition => .raw "WHERE " :: condition
          | none => []),
         (match parts.key with
          | some expression => .raw "GROUP BY " :: expression
          | none => []),
         if parts.ordering.isEmpty then []
         else .raw "ORDER BY " :: Fragment.joined ", " (parts.ordering.map orderingText) ]
        ++ parts.paging.map fun line => [.raw line]) := by
  have pagingLines : (parts.paging.map fun line => [Piece.raw line]).filter
      (fun line : Fragment => !line.isEmpty) = parts.paging.map fun line => [Piece.raw line] := by
    rw [List.filter_eq_self, List.forall_mem_map]
    exact fun _ _ => rfl
  rw [Query.assemble, statement, lines, List.filter_append, pagingLines]
  refine congrArg (fun front => Statement.mk _ (Fragment.joined "\n" (front ++ _))) ?_
  obtain ⟨key, outputs, condition, ordering, paging⟩ := parts
  cases condition <;> cases key <;> cases ordering <;> rfl

namespace PipelinePlan

variable {settings : CompileSettings} {collection : String} {entries log : List LogEntry}
  {shape : PipelineShape} {group : Members} {statement : Statement} {plan : PipelinePlan}

/-- A grouped statement has the parts of its group. -/
theorem exists_parts_of_groupedStatement
    (returned : (groupedStatement settings collection (.object group) shape).Returns entries
      statement log) :
    ∃ parts : GroupedParts, statement = parts.statement settings.dialect collection ∧
      parts.AreOf settings.dialect group shape ∧
      ∃ earlier middle, (Filter.compile settings.dialect settings.strict shape.combined).Returns
        earlier parts.condition middle := by
  unfold groupedStatement at returned
  simp only [Logged.returns_bind, Logged.returns_ofFault, Logged.returns_pure] at returned
  obtain ⟨members, _, ⟨isGroup, rfl⟩, outputs, earlier, columnsReturned, line, middle,
    conditionReturned, ordering, _, ⟨ordered, _⟩, paging, _, ⟨paged, _⟩, rfl, _⟩ := returned
  obtain rfl : group = members := Except.ok.inj isGroup
  obtain ⟨condition, compiled, rfl⟩ := Query.whereLine_returns_iff.mp conditionReturned
  obtain ⟨items, areItems, rfl⟩ := exists_ordering ordered
  let parts : GroupedParts :=
    { key := groupKey? settings.dialect group, outputs, condition, ordering := items, paging }
  refine ⟨parts, ?_, ⟨rfl, outputs_of_columns columnsReturned, areItems, paged⟩, earlier, middle,
    compiled⟩
  exact (GroupedParts.statement_eq parts settings.dialect collection).symm

/-- A grouped statement binds what its condition binds. -/
theorem params_groupedStatement {parts : GroupedParts} {earlier middle : List LogEntry}
    (returned : (groupedStatement settings collection (.object group) shape).Returns entries
      statement log)
    (compiled : (Filter.compile settings.dialect settings.strict shape.combined).Returns earlier
      parts.condition middle) :
    statement.params = parts.bound := by
  obtain ⟨line, _, _, lineReturned, isSearch⟩ := isSearch_groupedStatement returned
  obtain ⟨_, written, _⟩ := Filter.compile_returns_iff.mp compiled
  have isCondition : parts.condition =
      (Filter.condition shape.combined).fragment? settings.dialect := written.symm
  rw [isSearch.params_eq, GroupedParts.bound, isCondition]
  rcases Query.whereLine_cases lineReturned with ⟨missing, rfl⟩ | ⟨text, found, rfl⟩
  · rw [missing]
    rfl
  · rw [found]
    rfl

/-- The plan of a group is its statement and no stage. -/
theorem groupedStatement_of_ofShape (isGroup : shape.group = .object group)
    (returned : (ofShape settings collection shape).Returns entries plan log) :
    plan.grouped = true ∧ plan.post = [] ∧ ∃ earlier,
      (groupedStatement settings collection (.object group) shape).Returns earlier
        plan.statement log := by
  unfold ofShape at returned
  rw [isGroup, if_neg (by simp [Value.isNull])] at returned
  dsimp only at returned
  split at returned <;> simp only [Logged.returns_bind, Logged.returns_pure] at returned
  · obtain ⟨_, _, _, statement, _, groupedReturned, rfl, rfl⟩ := returned
    exact ⟨rfl, rfl, _, groupedReturned⟩
  · obtain ⟨statement, _, groupedReturned, rfl, rfl⟩ := returned
    exact ⟨rfl, rfl, _, groupedReturned⟩

end PipelinePlan

/-- What a grouped shape puts into its statement can be written: the constants that its group
sums, the filters as JSON, and the counts; and its sort is a JSON object if there is one. -/
structure PipelineShape.CanBeGrouped (shape : PipelineShape) : Prop where
  sums : ∀ group, shape.group = .object group → ∀ entry ∈ group,
    entry.1.shown ≠ groupColumn → SumsWritable entry.2
  filters : ∀ filter ∈ shape.filters, Json.obstacle? filter = none
  sortJson : shape.sort.IsJson
  sort : shape.sort.isTruthy = true → shape.sort.isObject = true
  limit : Dialect.IsWritableCount (.optional .natural shape.limit)
  skip : Dialect.IsWritableCount (.optional .natural shape.skip)

namespace PipelinePlan

/-- Grouped statements are self-consistent.  Whatever the group, the filters, the sort and the
counts, the statement of a grouped plan is made of parts of the group: the expression of the key
stands in the columns and behind `GROUP BY` or in neither place, the other columns are those of
the recognised accumulators, the ordering is by columns where it names one, and only the
condition of the filters binds values.  There is such a plan unless an integer cannot be
written. -/
theorem ofShape_areOf (dialect : Dialect) (collection : String) {shape : PipelineShape}
    {group : Members} (isGroup : shape.group = .object group) :
    (∀ entries plan log, (ofShape ⟨dialect, false⟩ collection shape).Returns entries plan log →
      plan.grouped = true ∧ plan.post = [] ∧
      ∃ parts : GroupedParts, plan.statement = parts.statement dialect collection ∧
        parts.AreOf dialect group shape ∧
        (∃ earlier middle, (Filter.compile dialect false shape.combined).Returns earlier
          parts.condition middle) ∧
        plan.statement.params = parts.bound) ∧
    (shape.CanBeGrouped →
      Logged.AlwaysReturns (ofShape ⟨dialect, false⟩ collection shape)) := by
  constructor
  · intro entries plan log returned
    obtain ⟨grouped, noStages, earlier, statementReturned⟩ :=
      groupedStatement_of_ofShape isGroup returned
    obtain ⟨parts, isStatement, areOf, before, middle, compiled⟩ :=
      exists_parts_of_groupedStatement statementReturned
    exact ⟨grouped, noStages, parts, isStatement, areOf, ⟨before, middle, compiled⟩,
      params_groupedStatement statementReturned compiled⟩
  · intro writable
    exact ofShape_alwaysReturns_of_group dialect collection (by simp [isGroup, Value.isNull])
      (groupedStatement_alwaysReturns dialect collection isGroup
        (writable.sums group isGroup)
        (Query.whereLine_alwaysReturns dialect (PipelineShape.writable_combined writable.filters))
        (fun columns => (Query.orderLine_returns_iff writable.sortJson dialect columns).mpr
          writable.sort)
        (Dialect.paging_returns dialect writable.limit writable.skip))

/-- An ordering by an output column and by the field of a dropped entry. -/
theorem ofShape_areOf_dropped :
    let group : Members :=
      [ ("_id", .text "$city"), ("n", .object [("$sum", .int 1)]),
        ("m", .object [("$median", .text "$age")]) ]
    let shape : PipelineShape :=
      { PipelineShape.empty with
        filters := [.object [("city", .text "Rome")]]
        sort := .object [("n", .int (-1)), ("m", .int 1)], limit := some 5
        group := .object group }
    let text :=
      "SELECT data->>'city' AS \"_id\", COUNT(*) AS \"n\"\nFROM \"users\"\n"
        ++ "WHERE (CASE WHEN jsonb_typeof(data->'city') = 'string' THEN data->>'city' END = %s)\n"
        ++ "GROUP BY data->>'city'\nORDER BY \"n\" DESC, data->'m' ASC\nLIMIT 5"
    shape.CanBeGrouped ∧ ∃ plan log,
      (ofShape ⟨.postgres, false⟩ "users" shape).Returns [] plan log ∧
      (∃ parts : GroupedParts, plan.statement = parts.statement .postgres "users" ∧
        parts.AreOf .postgres group shape ∧ plan.statement.params = parts.bound) ∧
      plan.statement.sql = text := by
  intro group shape text
  have json : shape.sort.IsJson :=
    Value.isJson_object_iff.mpr (by
      simp [Members.keys, Value.IsJson.int])
  have sums : ∀ entry ∈ group, entry.1.shown ≠ groupColumn → SumsWritable entry.2 := by
    have whole : Json.membersObstacle? group = none := by decide +kernel
    intro entry member _
    exact .of_obstacle (Json.obstacle?_of_mem_members whole entry member)
  have writable : shape.CanBeGrouped :=
    { sums := fun _ same => (Value.object.inj same : group = _) ▸ sums
      filters := List.forall_mem_singleton.mpr (by decide +kernel)
      sortJson := json, sort := fun _ => rfl
      limit := .inr ⟨5, rfl, by decide +kernel⟩, skip := .inl rfl }
  have isGroup : shape.group = .object group := rfl
  obtain ⟨areOf, returns⟩ := ofShape_areOf .postgres "users" isGroup
  obtain ⟨plan, log, returned⟩ := returns writable []
  obtain ⟨_, _, parts, isStatement, isOf, _, bound⟩ := areOf _ _ _ returned
  have written : ((ofShape ⟨.postgres, false⟩ "users" shape).after []).1.toOption.map
      (fun plan => plan.statement.sql) = some text := by decide +kernel
  refine ⟨writable, plan, log, returned, ⟨parts, isStatement, isOf, bound⟩, ?_⟩
  rw [show _ = _ from returned] at written
  exact Option.some.inj written

/-- A constant of 4301 digits is the operand of a recognised accumulator, but there is no
statement with its sum. -/
theorem ofShape_longConstant :
    let group : Members :=
      [("_id", .text "$a"), ("n", .object [("$sum", .int (10 ^ 4300))])]
    let shape : PipelineShape := { PipelineShape.empty with group := .object group }
    (Value.object group).IsJson ∧
      ¬∃ plan log, (ofShape ⟨.postgres, false⟩ "c" shape).Returns [] plan log := by
  intro group shape
  constructor
  · have sum : (Value.object [("$sum", .int (10 ^ 4300))]).IsJson :=
      .object (List.forall_mem_singleton.mpr ⟨_, rfl⟩) (List.nodup_singleton _)
        (List.forall_mem_singleton.mpr (.int _))
    exact .object (List.forall_mem_cons.mpr ⟨⟨_, rfl⟩, List.forall_mem_singleton.mpr ⟨_, rfl⟩⟩)
      (by decide : [Key.text "_id", .text "n"].Nodup)
      (List.forall_mem_cons.mpr ⟨.text _, List.forall_mem_singleton.mpr sum⟩)
  · rintro ⟨plan, log, returned⟩
    have refused : accumulation .postgres (.numeric .sum) (.int (10 ^ 4300)) =
        .error .malformedValue :=
      accumulation_of_unwritable .postgres rfl (by decide +kernel) (by decide +kernel)
    obtain ⟨_, _, _, statementReturned⟩ := groupedStatement_of_ofShape rfl returned
    obtain ⟨members, _, isGroup, statementReturned⟩ := Logged.returns_bind.mp statementReturned
    obtain ⟨outputs, _, columnsReturned, _⟩ := Logged.returns_bind.mp statementReturned
    obtain rfl : group = members := Except.ok.inj (Logged.returns_ofFault.mp isGroup).1
    obtain ⟨column, _, columnReturned, _⟩ := Logged.returns_bind.mp columnsReturned
    obtain ⟨expression, _, accumulated, _⟩ := Logged.returns_bind.mp columnReturned
    cases refused.symm.trans (Logged.returns_ofFault.mp accumulated).1

end PipelinePlan

end DocStore
