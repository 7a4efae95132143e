import DocStore.Pipeline.Stage
import DocStore.Query

/-!
# Pipeline plans

A pipeline compiles to one statement and the stages that are applied to its
rows.  A group replaces the shape of the statement by an aggregate, whose rows
are returned without further stages.
-/

namespace DocStore

structure PipelinePlan where
  statement : Statement
  grouped : Bool
  post : List PostStage

namespace PipelinePlan

open Sql

def groupColumn : String := "_id"

/-- The operand of a sum of constants: one counts the rows. -/
def constantSum (operand : Value) : Except Fault Fragment :=
  if operand.equal (.int 1) then .ok [.raw "COUNT(*)"]
  else operand.wording.map fun shown => [.raw ("SUM(" ++ shown ++ ")")]

/-- The expression of an accumulator applied to an operand that it takes. -/
def accumulation (dialect : Dialect) (accumulator : Accumulator) (operand : Value) :
    Except Fault (Option Fragment) :=
  match accumulator, operand with
  | .count, _ => .ok (some [.raw "COUNT(*)"])
  | .numeric function, .text reference =>
      .ok (some (.raw (function.function ++ "(")
        :: (dialect.numericValue (fieldOfReference reference) ++ [.raw ")"])))
  | .numeric .sum, operand =>
      if operand.isNumber then (constantSum operand).map some else .ok none
  | _, _ => .ok none

/-- The expression of one output column of a group, if its accumulator is known.
-/
def column? (settings : CompileSettings) (name : String) (specification : Value) :
    Logged (Option Fragment) := do
  match specification with
  | .object [(key, operand)] =>
      let key := key.shown
      let expression ← match Accumulator.ofKey? key with
        | some accumulator => Logged.ofFault (accumulation settings.dialect accumulator operand)
        | none => pure none
      match expression with
      | some expression => pure (some expression)
      | none =>
          if settings.strict then Logged.fail (.unsupported key "accumulator")
          else do
            Logged.note (PipelineShape.entry
              ("Skipping unsupported accumulator '" ++ key ++ "' for '" ++ name ++ "'"))
            pure none
  | _ => do
      Logged.note (PipelineShape.entry ("Skipping malformed accumulator '" ++ name ++ "'"))
      pure none

/-- The output columns of a group after its key. -/
def columns (settings : CompileSettings) : Members → Logged (List (String × Fragment))
  | [] => pure []
  | (name, specification) :: rest => do
      let name := name.shown
      if name = groupColumn then columns settings rest
      else
        let expression ← column? settings name specification
        let others ← columns settings rest
        pure (match expression with
          | some expression => (name, expression) :: others
          | none => others)

/-- The expression of the group key, if the group has one. -/
def groupKey? (dialect : Dialect) (group : Members) : Option Fragment :=
  match group.get? groupColumn with
  | some (.text reference) => some (dialect.fieldPath (fieldOfReference reference))
  | _ => none

/-- An output column under its name. -/
def named (name : String) (expression : Fragment) : Fragment :=
  expression ++ [.raw " AS ", .identifier name]

def groupedStatement (settings : CompileSettings) (collection : String) (group : Value)
    (shape : PipelineShape) : Logged Statement := do
  let dialect := settings.dialect
  let group ← Logged.ofFault group.asObject
  let key := groupKey? dialect group
  let outputs ← columns settings group
  let items := (groupColumn, key.getD [.raw "NULL"]) :: outputs
  let condition ← Query.whereLine settings shape.combined
  let ordering ← Logged.ofFault
    (Query.orderLine dialect (items.map Prod.fst) shape.sort)
  let paging ← Logged.ofFault
    (dialect.paging (.optional .natural shape.limit) (.optional .natural shape.skip))
  pure (Query.assemble dialect
    ([ .raw "SELECT " :: Fragment.joined ", " (items.map fun item => named item.1 item.2),
       [.raw "FROM ", .identifier collection],
       condition,
       (match key with
        | some expression => .raw "GROUP BY " :: expression
        | none => []),
       ordering ]
      ++ paging.map fun line => [.raw line]))

def ofShape (settings : CompileSettings) (collection : String) (shape : PipelineShape) :
    Logged PipelinePlan := do
  if shape.group.isNull then
    let statement ← Query.select settings collection shape.combined shape.sort
      (.optional .natural shape.limit) (.optional .natural shape.skip)
    pure { statement, grouped := false, post := shape.post }
  else
    if !shape.post.isEmpty then
      Logged.note (PipelineShape.entry
        ("Grouped pipeline on '" ++ collection ++ "': " ++ toString shape.post.length
          ++ " post stage(s) not applied"))
    let statement ← groupedStatement settings collection shape.group shape
    pure { statement, grouped := true, post := [] }

def compile (settings : CompileSettings) (collection : String) (pipeline : Value) :
    Logged PipelinePlan := do
  let entries ← Logged.ofFault pipeline.walk
  let shape ← PipelineShape.empty.addAll settings.strict (Stage.ofEntries entries)
  ofShape settings collection shape

/-- An aggregate value: decimals become integers where they are integral and
doubles otherwise. -/
def aggregateNumber : Value → Except Fault Value
  | .decimal (.nan _ true _) => .error .undefinedDecimal
  | .decimal (.infinite _) => .error .outOfRange
  | .decimal number =>
      match number.isIntegral, number.truncate? with
      | true, some whole => .ok (.int whole)
      | _, _ => .ok (.float number.toFloat)
  | value => .ok value

def aggregateMembers : Members → Except Fault Members
  | [] => .ok []
  | (name, value) :: members => do
      let value ← aggregateNumber value
      let members ← aggregateMembers members
      pure ((name, value) :: members)

/-- Reads one result row. -/
def decodeRow (plan : PipelinePlan) (row : Value) : Except Fault Value :=
  if plan.grouped then do
    let members ← row.asObject
    let members ← aggregateMembers members
    pure (.object members)
  else do
    let stored ← Document.column row Dialect.documentColumn
    Document.decode stored

/-- Reads the result rows. -/
def decodeRows (plan : PipelinePlan) (rows : List Value) : Except Fault (List Value) :=
  rows.mapM plan.decodeRow

def applyStage (documents : List Value) : PostStage → Except Fault (List Value)
  | .project specification =>
      documents.mapM fun document => do
        let members ← Document.projectFields document specification
        pure (.object members)
  | .unwind specification => Document.unwind documents specification

/-- Applies the remaining stages in order. -/
def applyPost (plan : PipelinePlan) (documents : List Value) : Except Fault (List Value) :=
  plan.post.foldlM applyStage documents

end PipelinePlan

end DocStore
