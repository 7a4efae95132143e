import DocStore.Log
import DocStore.Operator
import DocStore.Value.Equality
import DocStore.Value.Display

/-!
# Pipeline stages

A pipeline is a sequence of objects whose members are stages.  Reading it gives
the stages in order; entries that are no objects are passed over, and stages
that are unknown or malformed are kept as such until they are reported.
-/

namespace DocStore

/-- A stage that reshapes documents after the statement has run. -/
inductive PostStage where
  | project (specification : Value)
  | unwind (specification : Value)

namespace PostStage

def key : PostStage → String
  | project _ => "$project"
  | unwind _ => "$unwind"

def specification : PostStage → Value
  | project specification => specification
  | unwind specification => specification

end PostStage

inductive Stage where
  | filter (specification : Value)
  | sort (specification : Value)
  | limit (count : Nat)
  | skip (count : Nat)
  | group (specification : Value)
  | post (stage : PostStage)
  /-- A limit or a skip whose operand is no count. -/
  | malformedCount (key : String) (specification : Value)
  | unsupported (key : String)

namespace Stage

def integralForm : Value → Value
  | .float number =>
      let double := Double.ofFloat number
      match double.isIntegral, double.truncate? with
      | true, some whole => .int whole
      | _, _ => .float number
  | value => value

/-- A count of documents: a nonnegative integer. -/
def count? : Value → Option Nat
  | .int (.ofNat count) => some count
  | _ => none

def counted (make : Nat → Stage) (key : String) (specification : Value) : Stage :=
  let operand := integralForm specification
  match count? operand with
  | some count => make count
  | none => .malformedCount key operand

def read (key : String) (specification : Value) : Stage :=
  match StageKind.ofKey? key with
  | some .filter => .filter specification
  | some .sort => .sort specification
  | some .limit => counted .limit key specification
  | some .skip => counted .skip key specification
  | some .group => .group specification
  | some .project => .post (.project specification)
  | some .unwind => .post (.unwind specification)
  | none => .unsupported key

def ofEntry : Value → List Stage
  | .object members => members.map fun member => read member.1.shown member.2
  | _ => []

def ofEntries (entries : List Value) : List Stage := entries.flatMap ofEntry

end Stage

/-- What the stages of a pipeline amount to: all filters and all reshaping stages
in order, the last sort, limit and skip, and the first group. -/
structure PipelineShape where
  filters : List Value
  sort : Value
  limit : Option Nat
  skip : Option Nat
  group : Value
  post : List PostStage

namespace PipelineShape

def empty : PipelineShape :=
  { filters := [], sort := .null, limit := none, skip := none, group := .null, post := [] }

/-- Takes a stage in; stages without effect leave the shape as it is. -/
def add (shape : PipelineShape) : Stage → PipelineShape
  | .filter specification => { shape with filters := shape.filters ++ [specification] }
  | .sort specification => { shape with sort := specification }
  | .limit count => { shape with limit := some count }
  | .skip count => { shape with skip := some count }
  | .group specification =>
      if shape.group.isNull then { shape with group := specification } else shape
  | .post stage => { shape with post := shape.post ++ [stage] }
  | .malformedCount .. => shape
  | .unsupported _ => shape

/-- The report of a stage that has no effect on a shape. -/
def remark? (shape : PipelineShape) : Stage → Option String
  | .group _ =>
      if shape.group.isNull then none
      else some "Ignoring additional $group stage in pipeline"
  | .malformedCount key specification =>
      some ("Skipping malformed " ++ key ++ " stage: " ++ specification.display)
  | .unsupported key => some ("Skipping unsupported pipeline stage '" ++ key ++ "'")
  | _ => none

def refusal? : Stage → Option Failure
  | .malformedCount key specification =>
      match key ++ ": " ++ specification.wording with
      | .ok shown => some (.store (.unsupported shown "pipeline stage"))
      | .error fault => some (.fault fault)
  | .unsupported key => some (.store (.unsupported key "pipeline stage"))
  | _ => none

def entry (text : String) : LogEntry :=
  { level := .debug, component := .pipeline, text }

/-- Takes in a sequence of stages, reporting those without effect. -/
def addAll (strict : Bool) (shape : PipelineShape) : List Stage → Logged PipelineShape
  | [] => pure shape
  | stage :: stages => do
      match strict, refusal? stage with
      | true, some failure => throw failure
      | _, _ => pure ()
      match shape.remark? stage with
      | some text => Logged.note (entry text)
      | none => pure ()
      addAll strict (shape.add stage) stages

/-- The filter of all filter stages together: none, the only one, or their
conjunction.  Empty filters do not count. -/
def combined (shape : PipelineShape) : Value :=
  match shape.filters.filter fun filter => filter.isObject && filter.isTruthy with
  | [] => .null
  | [filter] => filter
  | filters => .object [("$and", .list filters)]

end PipelineShape

end DocStore
