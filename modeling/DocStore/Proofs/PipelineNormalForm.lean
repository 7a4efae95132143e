import DocStore.Client.Interface
import DocStore.Proofs.SameOutcome
import DocStore.Proofs.SearchLines
import Mathlib.Data.List.Induction

/-!
# The normal form of a pipeline

A pipeline amounts to all its filters and reshaping stages in order, its last sort, its last
counts that are counts, and its first group that is not null.  One stage after another takes
part in that as its kind says, so only the order among the stages of one kind counts, and
neither the grouping of stages into entries nor a stage without effect does.

The line of the condition of a selection, a count and a pipeline with one filter is the same
line, and it alone binds values.
-/

namespace DocStore

open Sql
open Logged (SameOutcome)

/-! ## Stages by their kind -/

namespace Stage

/-- The stages of a pipeline with their keys; an entry that is no object has none. -/
def members : List Value → Members
  | [] => []
  | .object stages :: entries => stages ++ members entries
  | _ :: entries => members entries

/-- The stages whose order among each other counts.  The reshaping stages are of one
kind. -/
def series : StageKind → StageKind
  | .unwind => .project
  | kind => kind

/-- The stages of one kind. -/
def ofSeries (kind : StageKind) (stages : Members) : Members :=
  stages.filter fun stage => ((StageKind.ofKey? stage.1.shown).map series) == some kind

/-- The specifications of the stages with keys of one kind. -/
def specifications (kind : StageKind) (stages : Members) : List Value :=
  (stages.filter fun stage => StageKind.ofKey? stage.1.shown == some kind).map Prod.snd

/-- The reshaping stage under a key, if the key names one. -/
def post? (stage : Key × Value) : Option PostStage :=
  match StageKind.ofKey? stage.1.shown with
  | some .project => some (.project stage.2)
  | some .unwind => some (.unwind stage.2)
  | _ => none

/-- The specification of a limit or a skip that is a count of documents. -/
def wellFormed? (specification : Value) : Option Nat := count? (integralForm specification)

theorem counted_eq (make : Nat → Stage) (key : String) (specification : Value) :
    counted make key specification =
      (wellFormed? specification).elim (.malformedCount key (integralForm specification)) make := by
  simp only [counted, wellFormed?]
  cases count? (integralForm specification) <;> rfl

theorem ofEntries_eq (entries : List Value) :
    ofEntries entries = (members entries).map fun stage => read stage.1.shown stage.2 := by
  induction entries with
  | nil => rfl
  | cons entry entries ih =>
      rw [ofEntries, List.flatMap_cons, ← ofEntries, ih]
      cases entry with
      | object stages => rw [members, List.map_append, ofEntry]
      | _ => rfl

theorem members_append (left right : List Value) :
    members (left ++ right) = members left ++ members right := by
  induction left with
  | nil => rfl
  | cons entry left ih => cases entry <;> simp [members, ih]

/-- Stages in entries of their own are the same stages. -/
theorem members_singletons (stages : Members) :
    members (stages.map fun stage => .object [stage]) = stages := by
  induction stages with
  | nil => rfl
  | cons stage stages ih => rw [List.map_cons, members, ih, List.singleton_append]

end Stage

/-! ## Shapes -/

namespace PipelineShape

open Stage (specifications post? wellFormed?)

/-- The first specification that is not null. -/
def firstPresent (specifications : List Value) : Value :=
  (specifications.find? fun specification => !specification.isNull).getD .null

theorem firstPresent_concat (specifications : List Value) (specification : Value) :
    firstPresent (specifications ++ [specification]) =
      if (firstPresent specifications).isNull then specification
      else firstPresent specifications := by
  unfold firstPresent
  rw [List.find?_append]
  cases found : specifications.find? fun specification => !specification.isNull with
  | none => cases specification <;> rfl
  | some first =>
      have present : first.isNull = false := by simpa using List.find?_some found
      simp [present]

theorem specifications_concat (kind : StageKind) (stages : Members) (key : Key)
    (specification : Value) :
    specifications kind (stages ++ [(key, specification)]) =
      if StageKind.ofKey? key.shown = some kind then specifications kind stages ++ [specification]
      else specifications kind stages := by
  unfold specifications
  rw [List.filter_append]
  split <;> simp [*]

/-- What the stages of a pipeline amount to. -/
def ofMembers (stages : Members) : PipelineShape where
  filters := specifications .filter stages
  sort := (specifications .sort stages).getLast?.getD .null
  limit := ((specifications .limit stages).filterMap wellFormed?).getLast?
  skip := ((specifications .skip stages).filterMap wellFormed?).getLast?
  group := firstPresent (specifications .group stages)
  post := stages.filterMap post?

/-- A further stage takes part in the normal form as its kind says. -/
theorem ofMembers_concat (stages : Members) (key : Key) (specification : Value) :
    ofMembers (stages ++ [(key, specification)]) =
      (ofMembers stages).add (Stage.read key.shown specification) := by
  simp only [ofMembers, specifications_concat, List.filterMap_append]
  cases kind : StageKind.ofKey? key.shown with
  | none => simp [Stage.read, kind, add, post?]
  | some named =>
      cases named with
      | limit =>
          rw [Stage.read, kind]
          dsimp only
          rw [Stage.counted_eq]
          cases read : wellFormed? specification <;> simp [kind, add, post?, read]
      | skip =>
          rw [Stage.read, kind]
          dsimp only
          rw [Stage.counted_eq]
          cases read : wellFormed? specification <;> simp [kind, add, post?, read]
      | group =>
          cases absent : (firstPresent (specifications .group stages)).isNull <;>
            simp [Stage.read, kind, add, post?, firstPresent_concat, absent]
      | _ => simp [Stage.read, kind, add, post?]

/-- The stages of a pipeline, taken in one after another, come to its normal form. -/
theorem foldl_add_eq_ofMembers (stages : Members) :
    (stages.map fun stage => Stage.read stage.1.shown stage.2).foldl add empty =
      ofMembers stages := by
  induction stages using List.reverseRecOn with
  | nil => rfl
  | append_singleton stages stage ih =>
      obtain ⟨key, specification⟩ := stage
      rw [ofMembers_concat, ← ih]
      simp

/-- Leniently, stages are taken in whatever is reported about them. -/
theorem sameOutcome_addAll (shape : PipelineShape) (stages : List Stage) :
    SameOutcome (shape.addAll false stages) (pure (stages.foldl add shape)) := by
  induction stages generalizing shape with
  | nil => exact .pure _
  | cons stage stages ih =>
      have rest := ih (shape.add stage)
      unfold addAll
      dsimp only
      cases shape.remark? stage with
      | none => simpa using rest
      | some text => exact .note_bind rest

/-- The conjunction of filters: none, the only one, or all of them under one combinator. -/
def conjoined : List Value → Value
  | [] => .null
  | [filter] => filter
  | filters => .object [("$and", .list filters)]

theorem combined_eq_conjoined (shape : PipelineShape) :
    shape.combined =
      conjoined (shape.filters.filter fun filter => filter.isObject && filter.isTruthy) := rfl

end PipelineShape

/-! ## Order of stages -/

namespace Stage

/-- Only the reshaping stages share their kind. -/
def IsAlone (kind : StageKind) : Prop := ∀ other, series other = kind ↔ other = kind

theorem specifications_ofSeries {kind : StageKind} (alone : IsAlone kind) (stages : Members) :
    specifications kind (ofSeries kind stages) = specifications kind stages := by
  unfold specifications ofSeries
  rw [List.filter_filter]
  refine congrArg (List.map Prod.snd) (List.filter_congr fun stage _ => ?_)
  cases StageKind.ofKey? stage.1.shown <;> simp [alone _]

theorem filterMap_post?_ofSeries (stages : Members) :
    (ofSeries .project stages).filterMap post? = stages.filterMap post? := by
  unfold ofSeries
  rw [List.filterMap_filter]
  refine List.filterMap_congr fun stage _ => ?_
  cases kind : StageKind.ofKey? stage.1.shown with
  | none => simp [post?, kind]
  | some named => cases named <;> simp [post?, kind, series]

end Stage

/-- The normal form depends on the order among the stages of one kind only. -/
theorem PipelineShape.ofMembers_congr {left right : Members}
    (same : ∀ kind, Stage.ofSeries kind left = Stage.ofSeries kind right) :
    ofMembers left = ofMembers right := by
  have specified (kind : StageKind) (alone : Stage.IsAlone kind) :
      Stage.specifications kind left = Stage.specifications kind right := by
    rw [← Stage.specifications_ofSeries alone left, same, Stage.specifications_ofSeries alone]
  have reshaping : left.filterMap Stage.post? = right.filterMap Stage.post? := by
    rw [← Stage.filterMap_post?_ofSeries left, same, Stage.filterMap_post?_ofSeries]
  simp only [ofMembers, reshaping, specified .filter (by rintro ⟨⟩ <;> decide),
    specified .sort (by rintro ⟨⟩ <;> decide), specified .limit (by rintro ⟨⟩ <;> decide),
    specified .skip (by rintro ⟨⟩ <;> decide), specified .group (by rintro ⟨⟩ <;> decide)]

/-! ## Plans -/

namespace PipelinePlan

open Stage (members specifications ofSeries)
open PipelineShape (ofMembers conjoined)

/-- Leniently, a pipeline compiles to the plan of its normal form. -/
theorem sameOutcome_compile_ofShape (dialect : Dialect) (collection : String)
    (entries : List Value) :
    SameOutcome (compile ⟨dialect, false⟩ collection (.list entries))
      (ofShape ⟨dialect, false⟩ collection (ofMembers (members entries))) := by
  have taken := PipelineShape.sameOutcome_addAll .empty (Stage.ofEntries entries)
  rw [Stage.ofEntries_eq, PipelineShape.foldl_add_eq_ofMembers] at taken
  have compiled := taken.bind fun shape =>
    sameOutcome_ofShape (.refl ⟨dialect, false⟩ shape) collection
  rw [pure_bind, ← Stage.ofEntries_eq] at compiled
  exact compiled

/-- Without a group, the plan of a shape selects what its filters, its order and its counts
say. -/
theorem sameOutcome_ofShape_select (settings : CompileSettings) (collection : String)
    {shape : PipelineShape} (ungrouped : shape.group.isNull = true) :
    SameOutcome (ofShape settings collection shape)
      (do
        let statement ← Query.select settings collection shape.combined shape.sort
          (.optional .natural shape.limit) (.optional .natural shape.skip)
        pure { statement, grouped := false, post := shape.post }) := by
  unfold ofShape
  rw [if_pos ungrouped]
  exact .bind (Query.sameOutcome_select rfl settings _ _ _ _) fun _ => .pure _

theorem isNull_firstPresent {groups : List Value} (nulls : ∀ group ∈ groups, group.isNull = true) :
    (PipelineShape.firstPresent groups).isNull = true := by
  have none : groups.find? (fun group => !group.isNull) = none := by simpa using nulls
  rw [PipelineShape.firstPresent, none]
  rfl

end PipelinePlan

/-! ## Searches with one filter -/

/-- The condition of a filter is the one of its conjunction with no other. -/
theorem Filter.condition_conjoined_singleton (filter : Value) :
    condition (PipelineShape.conjoined ([filter].filter fun filter =>
      filter.isObject && filter.isTruthy)) = condition filter := by
  cases filter with
  | object entries => cases entries <;> rfl
  | _ => rfl

/-- A filter has one line, or there is no line with it because it cannot be compiled. -/
theorem Query.whereLine_returns_or (dialect : Dialect) (filter : Value) :
    (∃ line, ∀ entries, ∃ log, (whereLine ⟨dialect, false⟩ filter).Returns entries line log) ∨
      Filter.ComparesUnwritable filter ∧
        ∀ entries line log, ¬ (whereLine ⟨dialect, false⟩ filter).Returns entries line log := by
  cases ends : (Filter.trail false filter).failure with
  | none =>
      have returned : (whereLine ⟨dialect, false⟩ filter).Returns [] _ _ :=
        whereLine_returns_iff.mpr ⟨_, Filter.compile_returns_iff.mpr ⟨ends, rfl, rfl⟩, rfl⟩
      exact .inl ⟨_, (sameOutcome_whereLine rfl ⟨dialect, false⟩).returns returned⟩
  | some failure =>
      refine .inr ⟨Filter.comparesUnwritable_of_failure ends, fun entries line log returned => ?_⟩
      obtain ⟨text, compiled, _⟩ := whereLine_returns_iff.mp returned
      cases ends.symm.trans (Filter.compile_returns_iff.mp compiled).1

namespace Command

/-- The searches with a filter: a selection, a count, and a pipeline whose only filter it
is. -/
inductive SearchesFor (filter : Value) : Command → Prop where
  | select (collection : String) (options : FindOptions) :
      SearchesFor filter (.select collection filter options)
  | count (collection : String) : SearchesFor filter (.count collection filter)
  | aggregate (collection : String) {entries : List Value}
      (only : Stage.specifications .filter (Stage.members entries) = [filter]) :
      SearchesFor filter (.aggregate collection (.list entries))

/-- Whatever searches with a filter compiles to a statement with the line of its
condition. -/
theorem isSearch_of_searchesFor {dialect : Dialect} {filter : Value} {command : Command}
    (searches : SearchesFor filter command) {entries log : List LogEntry} {statement : Statement}
    (returned : (command.compile ⟨dialect, false⟩).Returns entries statement log) :
    ∃ line earlier middle,
      (Query.whereLine ⟨dialect, false⟩ filter).Returns earlier line middle ∧
        Query.IsSearch dialect line statement := by
  cases searches with
  | select collection options =>
      obtain ⟨line, middle, lineReturned, isSearch⟩ := Query.isSearch_select returned
      exact ⟨line, entries, middle, lineReturned, isSearch⟩
  | count collection =>
      obtain ⟨line, middle, lineReturned, isSearch⟩ := Query.isSearch_count returned
      exact ⟨line, entries, middle, lineReturned, isSearch⟩
  | @aggregate collection stages only =>
      obtain ⟨plan, _, compiled, rest⟩ := Logged.returns_bind.mp returned
      obtain ⟨rfl, _⟩ := Logged.returns_pure.mp rest
      have normal := PipelinePlan.sameOutcome_compile_ofShape dialect collection stages
      obtain ⟨_, shaped⟩ := normal.returns compiled entries
      obtain ⟨line, earlier, middle, lineReturned, isSearch⟩ := PipelinePlan.isSearch_ofShape shaped
      have same : Filter.condition (PipelineShape.ofMembers (Stage.members stages)).combined =
          Filter.condition filter := by
        rw [PipelineShape.combined_eq_conjoined, PipelineShape.ofMembers, only]
        exact Filter.condition_conjoined_singleton filter
      obtain ⟨middle, lineReturned⟩ :=
        (Query.sameOutcome_whereLine same ⟨dialect, false⟩).returns lineReturned earlier
      exact ⟨line, earlier, middle, lineReturned, isSearch⟩

end Command

/-! ## The normal form -/

open Stage (members specifications ofSeries) in
open PipelineShape (ofMembers conjoined) in
/-- Leniently, the plan of a pipeline is that of its normal form: without a group, the
selection with its filters, last sort and last counts, and all reshaping stages.  So
pipelines whose stages of each kind stand in one order have the same plan, as have those
whose stages are spread over other entries.  All searches with one filter have the line of
its condition, and bind its values and no other; or none of them compiles, because the filter
compares a field with an operand that cannot be written. -/
theorem pipeline_normalForm (dialect : Dialect) (collection : String) :
    (∀ entries, SameOutcome (PipelinePlan.compile ⟨dialect, false⟩ collection (.list entries))
      (PipelinePlan.ofShape ⟨dialect, false⟩ collection (ofMembers (members entries)))) ∧
    (∀ entries, (∀ group ∈ specifications .group (members entries), group.isNull = true) →
      SameOutcome (PipelinePlan.compile ⟨dialect, false⟩ collection (.list entries))
        (do
          let stages := members entries
          let filters := (specifications .filter stages).filter fun filter =>
            filter.isObject && filter.isTruthy
          let sort := (specifications .sort stages).getLast?.getD .null
          let limit := ((specifications .limit stages).filterMap Stage.wellFormed?).getLast?
          let skip := ((specifications .skip stages).filterMap Stage.wellFormed?).getLast?
          let statement ← Query.select ⟨dialect, false⟩ collection (conjoined filters) sort
            (.optional .natural limit) (.optional .natural skip)
          pure { statement, grouped := false, post := stages.filterMap Stage.post? })) ∧
    (∀ left right,
      (∀ kind, ofSeries kind (members left) = ofSeries kind (members right)) →
      SameOutcome (PipelinePlan.compile ⟨dialect, false⟩ collection (.list left))
        (PipelinePlan.compile ⟨dialect, false⟩ collection (.list right))) ∧
    (∀ before stages after,
      SameOutcome
        (PipelinePlan.compile ⟨dialect, false⟩ collection
          (.list (before ++ .object stages :: after)))
        (PipelinePlan.compile ⟨dialect, false⟩ collection
          (.list (before ++ (stages.map fun stage => .object [stage]) ++ after)))) ∧
    ∀ filter,
      (∃ line,
        (∀ entries, ∃ log, (Query.whereLine ⟨dialect, false⟩ filter).Returns entries line log) ∧
        ∀ command, Command.SearchesFor filter command → ∀ entries statement log,
          (command.compile ⟨dialect, false⟩).Returns entries statement log →
            Query.IsSearch dialect line statement ∧ statement.params = line.params) ∨
      Filter.ComparesUnwritable filter ∧
        ∀ command, Command.SearchesFor filter command → ∀ entries statement log,
          ¬ (command.compile ⟨dialect, false⟩).Returns entries statement log := by
  have normal := PipelinePlan.sameOutcome_compile_ofShape dialect collection
  refine ⟨normal, ?_, ?_, ?_, ?_⟩
  · intro entries nulls
    have ungrouped := PipelinePlan.isNull_firstPresent nulls
    exact (normal entries).trans (PipelinePlan.sameOutcome_ofShape_select _ collection ungrouped)
  · intro left right same
    have shapes := normal left
    rw [PipelineShape.ofMembers_congr same] at shapes
    exact shapes.trans (normal right).symm
  · intro before stages after
    have split : members (before ++ (stages.map fun stage => .object [stage]) ++ after) =
        members (before ++ .object stages :: after) := by
      rw [Stage.members_append, Stage.members_append, Stage.members_append,
        Stage.members_singletons, members, List.append_assoc]
    have spread := normal (before ++ (stages.map fun stage => .object [stage]) ++ after)
    rw [split] at spread
    exact (normal _).trans spread.symm
  · intro filter
    rcases Query.whereLine_returns_or dialect filter with ⟨line, lineReturns⟩ | ⟨unwritable, none⟩
    · refine .inl ⟨line, lineReturns, fun command searches entries statement log returned => ?_⟩
      obtain ⟨found, earlier, _, foundReturned, isSearch⟩ :=
        Command.isSearch_of_searchesFor searches returned
      obtain ⟨_, lineReturned⟩ := lineReturns earlier
      obtain rfl : found = line := Logged.Returns.unique foundReturned lineReturned
      exact ⟨isSearch, isSearch.params_eq⟩
    · refine .inr ⟨unwritable, fun command searches entries statement log returned => ?_⟩
      obtain ⟨line, earlier, middle, lineReturned, _⟩ :=
        Command.isSearch_of_searchesFor searches returned
      exact none earlier line middle lineReturned

/-- The stages of one pipeline in an entry, with a count that is none and an unknown stage,
and in another order in entries of their own. -/
theorem pipeline_normalForm_reordered :
    let filter : Value := .object [("qty", .object [("gt", .int 1)])]
    let left : List Value :=
      [ .object [("$match", filter), ("$limit", .int 5), ("sort", .object [("qty", .int 1)])],
        .object [("oops", .null), ("$project", .object [("qty", .int 1)])],
        .object [("limit", .int (-1)), ("$unwind", .text "$tags")] ]
    let right : List Value :=
      [ .object [("$project", .object [("qty", .int 1)])],
        .object [("sort", .object [("qty", .int 1)])], .object [("$unwind", .text "$tags")],
        .object [("$limit", .int 5)], .object [("limit", .int (-1))],
        .object [("$match", filter)] ]
    let settings : CompileSettings := ⟨.postgres, false⟩
    SameOutcome (PipelinePlan.compile settings "orders" (.list left))
        (PipelinePlan.compile settings "orders" (.list right)) ∧
      SameOutcome (PipelinePlan.compile settings "orders" (.list right))
        (do
          let statement ← Query.select settings "orders" filter (.object [("qty", .int 1)])
            (.int 5) .null
          pure { statement, grouped := false,
                 post := [.project (.object [("qty", .int 1)]), .unwind (.text "$tags")] }) ∧
      ∃ line, ∀ command ∈
          [ Command.select "orders" filter {}, .count "orders" filter,
            .aggregate "orders" (.list left) ],
        ∃ statement log, (command.compile settings).Returns [] statement log ∧
          Query.IsSearch .postgres line statement ∧ statement.params = line.params := by
  intro filter left right settings
  obtain ⟨_, selections, orders, _, searches⟩ := pipeline_normalForm .postgres "orders"
  have kinds : ["$match", "$limit", "limit", "sort", "oops", "$project", "$unwind"].map
      StageKind.ofKey? =
      [some .filter, some .limit, some .limit, some .sort, none, some .project, some .unwind] := by
    decide +kernel
  simp only [List.map_cons, List.map_nil, List.cons.injEq, and_true] at kinds
  have same : ∀ kind, Stage.ofSeries kind (Stage.members left) =
      Stage.ofSeries kind (Stage.members right) := by
    rintro ⟨⟩ <;> simp [left, right, Stage.ofSeries, Stage.members, Key.shown, kinds, Stage.series]
  have ungrouped : ∀ group ∈ Stage.specifications .group (Stage.members right),
      group.isNull = true := by
    simp [right, Stage.specifications, Stage.members, Key.shown, kinds]
  have only : Stage.specifications .filter (Stage.members left) = [filter] := by
    simp [left, Stage.specifications, Stage.members, Key.shown, kinds]
  refine ⟨orders left right same, ?_, ?_⟩
  · simpa [right, filter, Stage.specifications, Stage.members, Key.shown, kinds, Stage.post?,
      Stage.wellFormed?, Stage.integralForm, Stage.count?, Value.isObject, Value.isTruthy,
      PipelineShape.conjoined, Value.optional, Value.natural] using selections right ungrouped
  obtain ⟨line, _, bound⟩ := (searches filter).resolve_right fun ends =>
    Filter.not_comparesUnwritable (by decide +kernel : Json.obstacle? filter = none) ends.1
  refine ⟨line, fun command member => ?_⟩
  have searching : Command.SearchesFor filter command := by
    simp only [List.mem_cons, List.not_mem_nil, or_false] at member
    rcases member with rfl | rfl | rfl
    · exact .select _ _
    · exact .count _
    · exact .aggregate _ only
  have compiles : ∃ statement log, (command.compile settings).Returns [] statement log := by
    have compiled : (((command.compile settings).after []).1.toBool) = true := by
      simp only [List.mem_cons, List.not_mem_nil, or_false] at member
      rcases member with rfl | rfl | rfl <;> decide +kernel
    rcases ran : (command.compile settings).after [] with ⟨outcome, log⟩
    rw [ran] at compiled
    cases outcome with
    | error failure => cases compiled
    | ok statement => exact ⟨statement, log, ran⟩
  obtain ⟨statement, log, returned⟩ := compiles
  exact ⟨statement, log, returned, bound command searching [] statement log returned⟩

end DocStore
