import DocStore.Proofs.KeptSchemas
import DocStore.Proofs.Projections

/-!
# Schemas that find nothing

A value is accepted if the keywords of a schema find nothing in it.  What a keyword must see for
that is said here for those that deal with types, with the members of objects, with the elements
of lists, with choices and with references, each seen from the keyword itself.  A schema inside of
another one is checked by its own keywords as long as it names neither an address nor a draft.
-/

namespace DocStore

/-! ## Checks without findings -/

theorem Finding.valid_eq_true_iff {findings : List Finding} :
    Finding.valid findings = .ok true ↔ findings = [] := by
  cases findings with
  | nil => simp [Finding.valid]
  | cons first others => cases first <;> simp [Finding.valid]

theorem Finding.violations_eq_nil_iff {findings : List Finding} :
    Finding.violations findings = .ok [] ↔ findings = [] := by
  cases findings with
  | nil => simp [Finding.violations]
  | cons first others =>
      cases first with
      | violation found => simp [Finding.violations, Except.map_eq_ok]
      | fault fault => simp [Finding.violations]

theorem sortViolations_eq_nil_iff {found : List Violation} :
    sortViolations found = .ok [] ↔ found = [] := by
  constructor
  · intro sorted
    rw [sortViolations] at sorted
    split at sorted
    · have perm := List.mergeSort_perm found fun left right => !placeLess right.place left.place
      rw [Except.ok.inj sorted] at perm
      exact perm.symm.eq_nil
    · cases sorted
  · rintro rfl
    simp [sortViolations]

@[simp] theorem Finding.attempt_ok {α : Type} (answer : α) (next : α → List Finding) :
    Finding.attempt (.ok answer) next = next answer := rfl

namespace Keyword

variable {checks : SchemaChecks} {task : KeywordTask}

theorem require_eq_nil_iff {test : Except Fault Bool} {message : Wording} :
    require test message = [] ↔ test = .ok true := by
  cases test with
  | error fault => simp [require, Finding.attempt]
  | ok passed => cases passed <;> simp [require, Finding.attempt, Finding.require]

theorem insideAt_eq_nil_iff {step : Step} {schema value : Value} :
    insideAt checks task step schema value = [] ↔ inside checks task schema value = [] := by
  simp [insideAt]

/-! ### Types -/

theorem types_eq_nil_iff {name : String} (operand : task.operand = .text name) :
    types task = [] ↔ task.scope.draft.hasType task.value (.text name) = .ok true := by
  rw [types, operand, entries, Finding.attempt_ok, require_eq_nil_iff, List.anyM_cons]
  cases task.scope.draft.hasType task.value (.text name) with
  | error fault => simp [bind, Except.bind]
  | ok passed => cases passed <;> simp [bind, Except.bind, pure, Except.pure]

/-! ### Members -/

/-- The keys that a table of schemas shares with an object count, in whatever order. -/
theorem properties_eq_nil_iff {entries members : Members} (operand : task.operand = .object entries)
    (keyed : entries.TextKeyed) (later : task.scope.draft ≠ .three) :
    properties checks task members = [] ↔
      ∀ (name : String) (schema part : Value), entries.get? name = some schema →
        members.get? name = some part → inside checks task schema part = [] := by
  rw [properties, operand, Value.asObject, Finding.attempt_ok, List.flatMap_eq_nil_iff]
  constructor
  · intro passed name schema part isSchema isPart
    have met := passed (.text name, schema) (keyed.mem_iff.mpr isSchema)
    dsimp only at met
    rw [isPart] at met
    exact insideAt_eq_nil_iff.mp met
  · rintro passed ⟨key, schema⟩ isEntry
    obtain ⟨name, rfl⟩ := keyed.texts key (List.mem_map.mpr ⟨_, isEntry, rfl⟩)
    dsimp only
    split
    · rename_i part isPart
      exact insideAt_eq_nil_iff.mpr (passed name schema part (keyed.get?_of_mem isEntry) isPart)
    · rw [if_neg later]

theorem required_eq_nil_iff {keys : List Value} {members : Members}
    (operand : task.operand = .list keys) :
    required task members = [] ↔ ∀ key ∈ keys, (Value.object members).holds key = .ok true := by
  simp only [required, operand, Value.walk, Finding.attempt_ok, List.flatMap_eq_nil_iff, present,
    require_eq_nil_iff]

/-- In a schema that names no keys all keys are additional. -/
theorem additionalKeys_eq_keys {members : Members}
    (noProperties : task.schema.get? "properties" = none)
    (noPatterns : task.schema.get? "patternProperties" = none)
    (texts : ∀ key ∈ members.keys, ∃ name, key = .text name) :
    additionalKeys task members = .ok members.keys := by
  have patterns : keyPatterns task = .ok "" := by
    simp only [keyPatterns, noPatterns]
    rfl
  have unnamed : ∀ key ∈ members.keys, (Value.object []).holds key.toValue = .ok false := by
    intro key isKey
    obtain ⟨name, rfl⟩ := texts key isKey
    rfl
  rw [additionalKeys, patterns, Except.bind_eq_ok]
  refine ⟨"", rfl, ?_⟩
  simp only [noProperties, Option.getD_none]
  rw [Except.filterM_eq_ok]
  have additional : ∀ key ∈ members.keys, (do
      let isNamed ← (Value.object []).holds key.toValue
      if isNamed then pure false
      else if "".isEmpty then pure true
      else (occurs (.text "") key.toValue).map not) = .ok true := by
    intro key isKey
    rw [unnamed key isKey]
    rfl
  refine ⟨fun key isKey => ⟨true, additional key isKey⟩, ?_⟩
  refine (List.filter_eq_self.mpr fun key isKey => ?_).symm
  rw [additional key isKey]
  rfl

theorem additionalProperties_eq_nil {part members : Members} {keys : List Key}
    (operand : task.operand = .object part) (extras : additionalKeys task members = .ok keys)
    (passed : ∀ key ∈ keys, inside checks task task.operand (members.getD key) = []) :
    additionalProperties checks task members = [] := by
  rw [additionalProperties, extras, Finding.attempt_ok]
  simp only [operand] at passed ⊢
  rw [List.flatMap_eq_nil_iff]
  exact fun key isExtra => insideAt_eq_nil_iff.mpr (passed key isExtra)

/-! ### Elements, choices and references -/

theorem itemSchemas_eq_nil {part : Members} {items : List Value}
    (operand : task.operand = .object part) (draft : task.scope.draft = .seven)
    (passed : ∀ item ∈ items, inside checks task task.operand item = []) :
    itemSchemas checks task items = [] := by
  simp only [itemSchemas, draft, operand] at passed ⊢
  simp only [reduceCtorEq, if_false, insideItems, List.flatten_eq_nil_iff, Bool.false_eq_true]
  intro findings isFound
  obtain ⟨position, inItems, rfl⟩ := List.mem_mapIdx.mp isFound
  exact insideAt_eq_nil_iff.mpr (passed _ (List.getElem_mem inItems))

theorem someSchema_eq_nil {schema : Value} {schemas : List Value}
    (operand : task.operand = .list (schema :: schemas))
    (passed : inside checks task schema task.value = []) : someSchema checks task = [] := by
  have first : firstAccepting? checks task (schema :: schemas) = .ok (some (schema, schemas)) := by
    rw [firstAccepting?, passed]
    rfl
  rw [someSchema, operand, Value.walk, Finding.attempt_ok, first, Finding.attempt_ok]

end Keyword

/-! ## Keywords in order -/

namespace Keyword

variable {checks : SchemaChecks} {scope : SchemaScope} {schema keywords : Members}
variable {name : String} {operand value : Value}

theorem allFindings_known (draft : scope.draft = .seven)
    (known : Draft.seven.knownKeywords.contains name = true) :
    allFindings checks scope schema ((.text name, operand) :: keywords) value =
      findings checks { scope, schema, operand, value } name
        ++ allFindings checks scope schema keywords value := by
  rw [← draft] at known
  simp only [allFindings, List.flatMap_cons, known, if_true]

theorem allFindings_unknown (draft : scope.draft = .seven)
    (unknown : Draft.seven.knownKeywords.contains name = false) :
    allFindings checks scope schema ((.text name, operand) :: keywords) value =
      allFindings checks scope schema keywords value := by
  rw [← draft] at unknown
  simp only [allFindings, List.flatMap_cons, unknown, Bool.false_eq_true, if_false,
    List.nil_append]

theorem allFindings_nil : allFindings checks scope schema [] value = [] := rfl

theorem allFindings_single (draft : scope.draft = .seven)
    (known : Draft.seven.knownKeywords.contains name = true) :
    allFindings checks scope schema [(.text name, operand)] value =
      findings checks { scope, schema, operand, value } name := by
  rw [allFindings_known draft known, allFindings_nil, List.append_nil]

/-- Keywords that speak about values of every kind and add nothing for any kind. -/
theorem findings_any {task : KeywordTask} (ofAny : name ∈ ["$ref", "anyOf", "enum", "type"]) :
    findings checks task name = onAny checks task name := by
  simp only [List.mem_cons, List.not_mem_nil, or_false] at ofAny
  unfold findings
  rcases ofAny with rfl | rfl | rfl | rfl
  all_goals
    refine (congrArg _ ?_).trans (List.append_nil _)
    split <;> first | rfl | exact ite_self _

theorem findings_type (draft : scope.draft = .seven) :
    findings checks { scope, schema, operand, value } "type" =
      types { scope, schema, operand, value } := by
  rw [findings_any (by decide)]
  change (if scope.draft = .three then _ else _) = _
  rw [draft, if_neg (by decide)]

/-- Keywords on lists that say nothing about values of other kinds. -/
theorem findings_list {items : List Value} (ofLists : name ∈ ["items", "uniqueItems"]) :
    findings checks { scope, schema, operand, value := .list items } name =
      onList checks { scope, schema, operand, value := .list items } items name := by
  simp only [List.mem_cons, List.not_mem_nil, or_false] at ofLists
  rcases ofLists with rfl | rfl <;> rfl

/-- Keywords on objects that say nothing about values of other kinds. -/
theorem findings_object {members : Members}
    (ofObjects : name ∈ ["additionalProperties", "properties", "required"]) :
    findings checks { scope, schema, operand, value := .object members } name =
      onObject checks { scope, schema, operand, value := .object members } members name := by
  simp only [List.mem_cons, List.not_mem_nil, or_false] at ofObjects
  rcases ofObjects with rfl | rfl | rfl <;> rfl

end Keyword

/-! ## Schemas inside of schemas -/

namespace Schema

variable {checks : SchemaChecks} {scope : SchemaScope} {members : Members} {value : Value}

theorem keywords_object {draft : Draft} (noReference : members.get? "$ref" = none) :
    draft.keywords (.object members) = .ok members := by
  simp [Draft.keywords, Value.asObject, Members.getD, noReference, bind, Except.bind, pure,
    Except.pure]

/-- A schema in which the draft at hand stays in force is checked by its own keywords. -/
theorem descend_object (viewpoint? : Option Viewpoint) {viewpoint : Viewpoint} {keywords : Members}
    (entered : viewpoint?.elim
      (scope.viewpoint.enter { draft := scope.draft, contents := .object members }) .ok =
        .ok viewpoint)
    (inForce : scope.draft.inForce (.object members) = .ok scope.draft)
    (areKeywords : scope.draft.keywords (.object members) = .ok keywords) :
    descend checks scope viewpoint? (.object members) value =
      Keyword.allFindings checks { scope with viewpoint } members keywords value := by
  have replaced :
      SchemaScope.replaced { scope with viewpoint } (.object members) =
        .ok { scope with viewpoint } := by
    simp [SchemaScope.replaced, inForce, areKeywords, bind, Except.bind, pure, Except.pure]
  have isObject : (Value.object members).asObject = .ok members := rfl
  cases viewpoint? with
  | none =>
      rw [Option.elim] at entered
      simp [descend, entered, replaced, isObject, areKeywords, bind, Except.bind, pure, Except.pure]
  | some inner =>
      cases entered
      simp [descend, replaced, isObject, areKeywords, bind, Except.bind, pure, Except.pure]

/-- A schema that has no address and no draft of its own, and is no reference. -/
structure IsPlain (members : Members) : Prop where
  address : members.get? "$id" = none
  reference : members.get? "$ref" = none
  draft : members.get? "$schema" = none

theorem IsPlain.address? (plain : IsPlain members) :
    SchemaResource.address? { draft := .seven, contents := .object members } = .ok none := by
  simp [SchemaResource.address?, Draft.addressKeyword, Draft.hidesSiblings, Value.holds,
    Value.asKey, Value.member?, Value.asObject, Members.contains, plain.address, plain.reference,
    Except.map, bind, Except.bind, pure, Except.pure]

theorem IsPlain.inForce (plain : IsPlain members) (draft : Draft) :
    draft.inForce (.object members) = .ok draft := by
  simp [Draft.inForce, Value.holds, Value.asKey, Members.contains, plain.draft, bind, Except.bind,
    pure, Except.pure]

theorem descend_plain (plain : IsPlain members) (draft : scope.draft = .seven) :
    descend checks scope none (.object members) value =
      Keyword.allFindings checks scope members members value := by
  refine descend_object none ?_ (plain.inForce _) (keywords_object plain.reference)
  rw [Option.elim, draft, Viewpoint.enter, plain.address?]
  rfl

/-- A whole schema that is an object is checked by its keywords. -/
theorem wholeFindings_object {formats : Bool} {viewpoint : Viewpoint}
    (started : Viewpoint.ofRoot { draft := .seven, contents := .object members } = .ok viewpoint)
    (noReference : members.get? "$ref" = none) :
    wholeFindings formats (.object members) value =
      Keyword.allFindings (checksWithin (depthBound (.object members) value))
        { draft := .seven, viewpoint, formats } members members value := by
  have isObject : (Value.object members).asObject = .ok members := rfl
  rw [wholeFindings, started]
  simp only [isObject, keywords_object noReference]
  rfl

/-- A whole schema is followed at least six schemas deep. -/
theorem exists_depthBound (schema value : Value) : ∃ fuel, depthBound schema value = fuel + 6 := by
  have drafts : Draft.all.length = 6 := rfl
  have least : 6 ≤ depthBound schema value := by
    rw [depthBound, drafts, Nat.mul_assoc]
    exact Nat.le_mul_of_pos_right 6 (Nat.mul_pos (Nat.succ_pos _) (Nat.succ_pos _))
  exact ⟨_, (Nat.sub_add_cancel least).symm⟩

/-- A reference stands for the schema that it leads to. -/
theorem descend_reference {fuel : Nat} {place : String} {target : Value} {viewpoint : Viewpoint}
    (draft : scope.draft = .seven)
    (found : scope.viewpoint.lookUp place = .ok (target, viewpoint)) :
    descend (checksWithin (fuel + 1)) scope none (Metaschema.reference place) value =
      descend (checksWithin fuel) scope (some viewpoint) target value := by
  have unaddressed :
      SchemaResource.address? { draft := .seven, contents := Metaschema.reference place } =
        .ok none := rfl
  have entered :
      scope.viewpoint.enter { draft := scope.draft, contents := Metaschema.reference place } =
        .ok scope.viewpoint := by
    rw [draft, Viewpoint.enter, unaddressed]
    rfl
  have areKeywords :
      scope.draft.keywords (Metaschema.reference place) = .ok [("$ref", .text place)] := by
    rw [draft]
    rfl
  rw [Metaschema.reference, Metaschema.only] at *
  rw [descend_object none entered rfl areKeywords,
    Keyword.allFindings_single draft (by decide +kernel), Keyword.findings_any (by decide)]
  change Keyword.reference _ _ = _
  rw [Keyword.reference]
  change Keyword.atTarget _ _ ((scope.viewpoint.lookUp place).mapError Keyword.unresolved) = _
  rw [found]
  rfl

end Schema

/-! ## What a collection accepts -/

namespace SchemaCatalog

variable {catalog : SchemaCatalog} {collection : Key} {validator : Validator} {document : Value}

/-- A collection accepts a document if its validator finds nothing in it. -/
theorem accepts_eq_true_iff (isKept : catalog.get? collection = some validator) :
    catalog.accepts collection document = .ok true ↔ validator document = [] := by
  simp only [accepts, isKept, Validator.accepts, Finding.valid_eq_true_iff]

theorem validate_eq_ok_iff (isKept : catalog.get? collection = some validator) :
    catalog.validate collection document = .ok () ↔ validator document = [] := by
  have none : validator.violations document = .ok [] ↔ validator document = [] := by
    rw [Validator.violations, Except.bind_eq_ok]
    simp [sortViolations_eq_nil_iff, Finding.violations_eq_nil_iff]
  rw [← none]
  simp only [validate, isKept]
  rcases validator.violations document with fault | (_ | ⟨first, others⟩) <;> simp

end SchemaCatalog

end DocStore
