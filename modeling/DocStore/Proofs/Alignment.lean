import DocStore.Proofs.SearchLines

/-!
# Placeholders of generated statements

Every generated statement is well joined: all user text in it stands in quotes,
where percent signs are doubled, and the texts between the quotes hold no percent
sign.  Therefore it takes exactly its own parameters, whatever names, paths,
filters and documents it is made of.
-/

namespace DocStore

open Sql Fragment

/-! ## Lines

Each line of a selection or of a grouped pipeline begins with a word.  Its only texts
that are neither fixed nor quoted are numbers: the counts of its paging and the
constants of its sums.
-/

namespace PipelinePlan

theorem IsColumn.wellJoined {dialect : Dialect} {text : Fragment}
    (isColumn : IsColumn dialect text) : WellJoined dialect true text := by
  cases isColumn with
  | missing => exact .phrase (.inl (by simp [phrases])) .nil
  | field path => exact dialect.wellJoined_fieldPath path
  | rows => exact .lead (by simp [commonLeads]) .nil
  | constant isNumber worded => exact .phrase (.inr (.sum isNumber worded)) .nil
  | numbers function path =>
      refine .lead ?_ ((dialect.wellJoined_typedValue path .number).append
        (.joint (by simp [joints]) .nil))
      cases function <;> simp [commonLeads, NumericAccumulator.function]

theorem wellJoined_named {dialect : Dialect} (name : String) {expression : Fragment}
    (inner : WellJoined dialect true expression) :
    WellJoined dialect true (named name expression) := by
  have column : WellJoined dialect true [.identifier name] := .identifier .nil
  exact inner.append (.joint (by simp [joints]) column)

end PipelinePlan

namespace Query

theorem wellJoined_whereLine {settings : CompileSettings} {filter : Value}
    {entries log : List LogEntry} {line : Fragment}
    (returned : (whereLine settings filter).Returns entries line log) :
    WellJoined settings.dialect true line := by
  obtain ⟨_, rfl⟩ | ⟨text, written, rfl⟩ := whereLine_cases returned
  · exact .nil
  · exact .lead (by simp [commonLeads]) (Condition.wellJoined_fragment? settings.dialect _ written)

theorem IsOrderItem.wellJoined {dialect : Dialect} {text : Fragment}
    (isItem : IsOrderItem dialect text) : WellJoined dialect true text := by
  have direction (ascending : Bool) :
      WellJoined dialect false [.raw (if ascending then " ASC" else " DESC")] :=
    .tail (by cases ascending <;> simp [tails]) .nil
  cases isItem with
  | column name ascending => exact .identifier (direction ascending)
  | field path ascending => exact (dialect.wellJoined_jsonPath path).append (direction ascending)

theorem IsFrame.wellJoined {dialect : Dialect} {line : Fragment}
    (isFrame : IsFrame dialect line) : WellJoined dialect true line := by
  cases isFrame with
  | empty => exact .nil
  | selection collection =>
      exact .lead (by simp [commonLeads, Dialect.documentColumn]) (.identifier .nil)
  | counting collection => exact .lead (by simp [commonLeads]) (.identifier .nil)
  | columns each =>
      refine .lead (by simp [commonLeads]) (.joined (by simp [joints]) ?_)
      exact List.forall_mem_map.mpr fun item member =>
        PipelinePlan.wellJoined_named item.1 (each item member).wellJoined
  | source collection => exact .lead (by simp [commonLeads]) (.identifier .nil)
  | grouping path => exact .lead (by simp [commonLeads]) (dialect.wellJoined_fieldPath path)
  | ordering each =>
      exact .lead (by simp [commonLeads])
        (.joined (by simp [joints]) fun text member => (each text member).wellJoined)
  | paging isAmount => exact .phrase (.inr isAmount) .nil

theorem wellJoined_assemble (dialect : Dialect) {lines : List Fragment}
    (each : ∀ line ∈ lines, WellJoined dialect true line) :
    WellJoined dialect true (assemble dialect lines).body := by
  refine .joined (by simp [joints]) ?_
  intro line member
  exact each line (List.mem_filter.mp member).1

theorem IsSearch.wellJoined {dialect : Dialect} {condition : Fragment} {statement : Statement}
    (isSearch : IsSearch dialect condition statement)
    (conditionJoined : WellJoined dialect true condition) :
    WellJoined statement.dialect true statement.body := by
  obtain ⟨before, after, frames⟩ := isSearch
  refine wellJoined_assemble dialect fun line member => ?_
  rcases List.mem_append.mp member with early | late
  · exact (frames line (List.mem_append_left _ early)).wellJoined
  · rcases List.mem_cons.mp late with rfl | late
    · exact conditionJoined
    · exact (frames line (List.mem_append_right _ late)).wellJoined

end Query

/-! ## Statements -/

namespace Query

variable {settings : CompileSettings} {collection : String} {entries log : List LogEntry}
  {statement : Statement}

theorem wellJoined_select {filter sort limit skip : Value}
    (returned : (select settings collection filter sort limit skip).Returns entries
      statement log) :
    WellJoined statement.dialect true statement.body := by
  obtain ⟨condition, middle, conditionReturned, isSearch⟩ := isSearch_select returned
  exact isSearch.wellJoined (wellJoined_whereLine conditionReturned)

/-- A head with the line of a condition. -/
theorem wellJoined_conditioned {filter : Value} {head condition : Fragment}
    (headJoined : WellJoined settings.dialect true head)
    (conditionReturned : (whereLine settings filter).Returns entries condition log) :
    WellJoined settings.dialect true (assemble settings.dialect [head, condition]).body := by
  refine wellJoined_assemble settings.dialect ?_
  simp [headJoined, wellJoined_whereLine conditionReturned]

theorem wellJoined_count {filter : Value}
    (returned : (count settings collection filter).Returns entries statement log) :
    WellJoined statement.dialect true statement.body := by
  obtain ⟨condition, middle, conditionReturned, isSearch⟩ := isSearch_count returned
  exact isSearch.wellJoined (wellJoined_whereLine conditionReturned)

theorem wellJoined_update {id document : Value}
    (returned : (update settings collection id document).Returns entries statement log) :
    WellJoined statement.dialect true statement.body := by
  simp only [update, Logged.returns_bind, Logged.returns_pure] at returned
  obtain ⟨encoded, _, _, condition, _, conditionReturned, rfl, _⟩ := returned
  have assignment : WellJoined settings.dialect false
      [.raw (" SET " ++ Dialect.documentColumn ++ " = "), .document encoded] :=
    .joint (by simp [joints, Dialect.documentColumn]) (.document .nil)
  exact wellJoined_conditioned (.lead (by simp [commonLeads]) (.identifier assignment))
    conditionReturned

theorem wellJoined_delete {id : Value}
    (returned : (delete settings collection id).Returns entries statement log) :
    WellJoined statement.dialect true statement.body := by
  simp only [delete, Logged.returns_bind, Logged.returns_pure] at returned
  obtain ⟨condition, _, conditionReturned, rfl, _⟩ := returned
  exact wellJoined_conditioned (.lead (by simp [commonLeads]) (.identifier .nil))
    conditionReturned

end Query

namespace PipelinePlan

theorem wellJoined_of_compile {settings : CompileSettings} {collection : String}
    {pipeline : Value} {entries log : List LogEntry} {plan : PipelinePlan}
    (returned : (compile settings collection pipeline).Returns entries plan log) :
    WellJoined plan.statement.dialect true plan.statement.body := by
  simp only [compile, Logged.returns_bind, Logged.returns_ofFault] at returned
  obtain ⟨_, _, _, shape, _, _, shapeReturned⟩ := returned
  obtain ⟨condition, _, _, conditionReturned, isSearch⟩ := isSearch_ofShape shapeReturned
  exact isSearch.wellJoined (Query.wellJoined_whereLine conditionReturned)

end PipelinePlan

namespace Statement

/-- A statement that takes no parameters: the definition of a table or an index,
or a statement on a savepoint. -/
inductive IsDefinition : Statement → Prop where
  | createTable (dialect : Dialect) (table : String) : IsDefinition (createTable dialect table)
  | dropTable (dialect : Dialect) (table : String) : IsDefinition (dropTable dialect table)
  | createIndex (dialect : Dialect) (table name : String) (keys : List (String × Bool))
      (unique : Bool) : IsDefinition (createIndex dialect table name keys unique)
  | dropIndex (dialect : Dialect) (table name : String) :
      IsDefinition (dropIndex dialect table name)
  | savepoint (dialect : Dialect) (action : SavepointAction) (name : String) :
      IsDefinition (savepoint dialect action name)

/-- The statements of the library: those of the statement builder and of
pipelines, whenever they are produced, and those of the dialects. -/
inductive Generated : Statement → Prop where
  | select {settings : CompileSettings} {collection : String}
      {filter sort limit skip : Value} {entries log : List LogEntry} {statement : Statement} :
      (Query.select settings collection filter sort limit skip).Returns entries statement log →
      Generated statement
  | count {settings : CompileSettings} {collection : String} {filter : Value}
      {entries log : List LogEntry} {statement : Statement} :
      (Query.count settings collection filter).Returns entries statement log →
      Generated statement
  | insert {settings : CompileSettings} {collection : String} {documents : List Value}
      {entries log : List LogEntry} {statement : Statement} :
      (Query.insert settings collection documents).Returns entries statement log →
      Generated statement
  | update {settings : CompileSettings} {collection : String} {id document : Value}
      {entries log : List LogEntry} {statement : Statement} :
      (Query.update settings collection id document).Returns entries statement log →
      Generated statement
  | delete {settings : CompileSettings} {collection : String} {id : Value}
      {entries log : List LogEntry} {statement : Statement} :
      (Query.delete settings collection id).Returns entries statement log →
      Generated statement
  | pipeline {settings : CompileSettings} {collection : String} {stages : Value}
      {entries log : List LogEntry} {plan : PipelinePlan} :
      (PipelinePlan.compile settings collection stages).Returns entries plan log →
      Generated plan.statement
  | insertion (dialect : Dialect) (table : String) (documents : List String) :
      Generated (Statement.insert dialect table documents)
  | tableExists (dialect : Dialect) (table : String) : Generated (tableExists dialect table)
  | countTables (table : Value) : Generated (countTables table)
  | listTables (dialect : Dialect) : Generated (listTables dialect)
  | listIndexes (dialect : Dialect) (table : Value) : Generated (listIndexes dialect table)
  | definition {statement : Statement} : IsDefinition statement → Generated statement

theorem wellJoined_insert (dialect : Dialect) (table : String) (documents : List String) :
    WellJoined dialect true (Statement.insert dialect table documents).body := by
  have values : WellJoined dialect true (joined ", "
      (documents.map fun json => parenthesised [.document json])) :=
    .joined (by simp [joints])
      (List.forall_mem_map.mpr fun json _ => .parenthesised (.document .nil))
  have head : WellJoined dialect true ([.raw "INSERT INTO ", .identifier table,
      .raw (" (" ++ Dialect.documentColumn ++ ") VALUES ")] ++
        joined ", " (documents.map fun json => parenthesised [.document json])) :=
    .lead (by simp [commonLeads])
      (.identifier (.joint (by simp [joints, Dialect.documentColumn]) values))
  refine head.append ?_
  cases dialect with
  | postgres => exact .tail (by simp [tails, Dialect.rowColumn]) .nil
  | mysql => exact .nil

theorem wellJoined_indexKey (dialect : Dialect) (path : String) (direction : Bool) :
    WellJoined dialect true (indexKey dialect path direction) := by
  have expression := dialect.wellJoined_fieldPath path
  refine WellJoined.append ?_ ?_
  · cases dialect with
    | postgres => exact expression.parenthesised
    | mysql =>
        exact .joint (by simp [joints]) (expression.append (.joint (by simp [joints]) .nil))
  · cases direction with
    | false => exact .nil
    | true => exact .tail (by simp [tails]) .nil

theorem wellJoined_createIndex (dialect : Dialect) (table name : String)
    (keys : List (String × Bool)) (unique : Bool) :
    WellJoined dialect true (Statement.createIndex dialect table name keys unique).body := by
  have keysJoined : WellJoined dialect true (joined ", "
      (keys.map fun key => indexKey dialect key.1 key.2)) :=
    .joined (by simp [joints])
      (List.forall_mem_map.mpr fun key _ => wellJoined_indexKey dialect key.1 key.2)
  have names : WellJoined dialect true ([.identifier name, .raw " ON ", .identifier table,
      .raw " ("] ++ joined ", " (keys.map fun key => indexKey dialect key.1 key.2)) :=
    .identifier (.joint (by simp [joints])
      (.identifier (.joint (by simp [joints]) keysJoined)))
  refine WellJoined.append (.lead ?_ ?_) (.joint (by simp [joints]) .nil)
  · cases unique <;> simp [commonLeads]
  · cases dialect with
    | postgres => exact .lead (by simp [leads]) names
    | mysql => exact .empty names

theorem IsDefinition.wellJoined {statement : Statement} (definition : IsDefinition statement) :
    WellJoined statement.dialect true statement.body := by
  cases definition with
  | createTable dialect table =>
      refine .lead (by simp [commonLeads]) (.identifier (.joint ?_ .nil))
      cases dialect <;> simp [joints]
  | dropTable dialect table => exact .lead (by simp [commonLeads]) (.identifier .nil)
  | createIndex dialect table name keys unique =>
      exact wellJoined_createIndex dialect table name keys unique
  | dropIndex dialect table name =>
      cases dialect with
      | postgres => exact .lead (by simp [leads, Statement.dropIndex]) (.identifier .nil)
      | mysql =>
          have place : WellJoined .mysql true [.identifier table] := .identifier .nil
          exact .lead (by simp [leads, Statement.dropIndex])
            (.identifier (.joint (by simp [joints]) place))
  | savepoint dialect action name =>
      refine .lead ?_ (.identifier .nil)
      cases action <;> simp [commonLeads, SavepointAction.words]

theorem wellJoined_countTables (table : Value) :
    WellJoined .mysql true (countTables table).body :=
  .lead (by simp [leads]) (.parameter .nil)

/-- The pieces of every statement of the library stay apart. -/
theorem Generated.wellJoined {statement : Statement} (generated : Generated statement) :
    WellJoined statement.dialect true statement.body := by
  cases generated with
  | select returned => exact Query.wellJoined_select returned
  | count returned => exact Query.wellJoined_count returned
  | insert returned =>
      simp only [Query.insert, Logged.returns_bind, Logged.returns_pure] at returned
      obtain ⟨encoded, _, _, rfl, _⟩ := returned
      exact wellJoined_insert _ _ _
  | update returned => exact Query.wellJoined_update returned
  | delete returned => exact Query.wellJoined_delete returned
  | pipeline returned => exact PipelinePlan.wellJoined_of_compile returned
  | insertion dialect table documents => exact wellJoined_insert dialect table documents
  | tableExists dialect table =>
      cases dialect with
      | postgres =>
          exact .lead (by simp [leads, Statement.tableExists])
            (.parameter (.tail (by simp [tails]) .nil))
      | mysql => exact wellJoined_countTables (.text table)
  | countTables table => exact wellJoined_countTables table
  | listTables dialect =>
      cases dialect with
      | postgres => exact .lead (by simp [leads, Statement.listTables]) .nil
      | mysql => exact .phrase (.inl (by simp [phrases])) .nil
  | listIndexes dialect table =>
      cases dialect with
      | postgres => exact .lead (by simp [leads, Statement.listIndexes]) (.parameter .nil)
      | mysql =>
          exact .lead (by simp [leads, Statement.listIndexes])
            (.parameter (.tail (by simp [tails]) .nil))
  | definition isDefinition => exact isDefinition.wellJoined

theorem Generated.percentFree {statement : Statement} (generated : Generated statement) :
    PercentFree statement.body :=
  generated.wellJoined.percentFree

theorem params_indexKey (dialect : Dialect) (path : String) (direction : Bool) :
    Fragment.params (indexKey dialect path direction) = [] := by
  cases dialect <;> cases direction <;>
    simp [indexKey, params_cons, params_append, Piece.bound?]

theorem IsDefinition.params_eq_nil {statement : Statement}
    (definition : IsDefinition statement) : statement.params = [] := by
  cases definition with
  | createTable dialect table => rfl
  | dropTable dialect table => rfl
  | createIndex dialect table name keys unique =>
      have keyParams (key : String × Bool) : Fragment.params (indexKey dialect key.1 key.2) = [] :=
        params_indexKey dialect key.1 key.2
      cases dialect <;>
        simp [Statement.createIndex, Statement.params, params_cons, params_append, params_joined,
          Piece.bound?, Function.comp_def, keyParams]
  | dropIndex dialect table name => cases dialect <;> rfl
  | savepoint dialect action name => rfl

/-- In the text of a generated statement every percent sign begins `%%` or
`%s`, and there is one `%s` for each parameter; a definition has none. -/
theorem placeholders?_sql {statement : Statement} (generated : Generated statement) :
    placeholders? statement.sql.toList = some statement.params.length ∧
      (IsDefinition statement → placeholders? statement.sql.toList = some 0) := by
  have aligned : placeholders? statement.sql.toList = some statement.params.length :=
    placeholders?_render statement.dialect generated.percentFree
  refine ⟨aligned, ?_⟩
  intro definition
  rw [aligned, definition.params_eq_nil]
  rfl

/-- Names and paths of percent signs align too. -/
theorem placeholders?_sql_percentNames :
    ∃ statement log,
      (Query.count { dialect := .mysql, strict := true } "100%s"
        (.object [("%s", .object [("$in", .list [.bool true, .text "%s"])])])).Returns []
          statement log ∧
      placeholders? statement.sql.toList = some statement.params.length ∧
      statement.params.length = 2 := by
  have returned : (Query.count { dialect := .mysql, strict := true } "100%s"
      (.object [("%s", .object [("$in", .list [.bool true, .text "%s"])])])).Returns [] _ _ := rfl
  exact ⟨_, _, returned, (placeholders?_sql (.count returned)).1, rfl⟩

end Statement

end DocStore
