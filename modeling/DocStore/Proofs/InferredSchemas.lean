import DocStore.Proofs.SchemaAcceptance

/-!
# Inferred schemas

The schema that is inferred from a sample document accepts the documents that have the shape of the
sample: every key of it, with a value of the same type.  To be kept, an inferred schema must be
accepted by the schema of schemas.  That one refers to itself and to its definitions, and demands
that the required keys are distinct, which is found out by sorting them.
-/

namespace DocStore

/-! ## Types and shapes -/

/-- The types of JSON.  Integers and doubles are numbers, truth values are none. -/
inductive ValueType where
  | null
  | boolean
  | number
  | string
  | array
  | object

def ValueType.name : ValueType → String
  | null => "null"
  | boolean => "boolean"
  | number => "number"
  | string => "string"
  | array => "array"
  | object => "object"

/-- The type of a value of JSON; decimals and byte strings have none. -/
def Value.type? : Value → Option ValueType
  | .null => some .null
  | .bool _ => some .boolean
  | .int _ => some .number
  | .float _ => some .number
  | .text _ => some .string
  | .list _ => some .array
  | .object _ => some .object
  | .decimal _ => none
  | .bytes _ => none

/-- A document has every key of a sample, with a value of the same type there.  It may have
further keys. -/
def Members.HasShapeOf (document sample : Members) : Prop :=
  ∀ (name : String) (value : Value), sample.get? name = some value →
    ∃ other, document.get? name = some other ∧ other.type? = value.type?

theorem Members.hasShapeOf_self (document : Members) : document.HasShapeOf document :=
  fun _ value found => ⟨value, found, rfl⟩

namespace Value

variable {value : Value}

theorem IsJson.exists_type (json : value.IsJson) : ∃ type, value.type? = some type := by
  cases json <;> exact ⟨_, rfl⟩

theorem typeName?_eq (value : Value) :
    Schema.typeName? value = value.type?.map ValueType.name := by
  cases value <;> rfl

theorem IsJson.hasType_iff (json : value.IsJson) (type : ValueType) :
    Draft.seven.hasType value (.text type.name) = .ok true ↔ value.type? = some type := by
  cases json <;> cases type <;> simp [Draft.hasType, Draft.typeTest?, ValueType.name, type?,
    Value.kind, Value.isNull, Draft.isNumber, Value.isObject]

end Value

namespace Schema

variable {sample : Members}

/-- The properties of a sample are schemas of a type only. -/
theorem inferredProperties_cons (name : Key) {value : Value} {type : ValueType}
    (typed : value.type? = some type) :
    inferredProperties ((name, value) :: sample) =
      (name, Metaschema.typed type.name) :: inferredProperties sample := by
  rw [inferredProperties, List.filterMap_cons, Value.typeName?_eq, typed]
  rfl

theorem keys_inferredProperties (json : (Value.object sample).IsJson) :
    (inferredProperties sample).keys = sample.keys := by
  induction sample with
  | nil => rfl
  | cons member sample ih =>
      obtain ⟨type, typed⟩ := (json.of_mem List.mem_cons_self).exists_type
      rw [inferredProperties_cons _ typed, Members.keys, List.map_cons]
      exact congrArg _ (ih (json.sublist (List.sublist_cons_self _ _)))

theorem get?_inferredProperties (json : (Value.object sample).IsJson) (name : String) :
    (inferredProperties sample).get? name =
      (sample.get? name).bind fun value =>
        value.type?.map fun type => Metaschema.typed type.name := by
  induction sample with
  | nil => rfl
  | cons member sample ih =>
      obtain ⟨type, typed⟩ := (json.of_mem List.mem_cons_self).exists_type
      rw [inferredProperties_cons _ typed, Members.get?, Members.get?]
      split
      · rw [Option.bind_some, typed]
        rfl
      · exact ih (json.sublist (List.sublist_cons_self _ _))

theorem inferredProperties_textKeyed (json : (Value.object sample).IsJson) :
    (inferredProperties sample).TextKeyed := by
  have keyed := json.textKeyed
  refine ⟨?_, ?_, ?_⟩
  · rw [keys_inferredProperties json]
    exact keyed.texts
  · rw [keys_inferredProperties json]
    exact keyed.distinct
  · intro member isMember
    obtain ⟨source, _, isMember⟩ := List.mem_filterMap.mp isMember
    obtain ⟨_, _, rfl⟩ := Option.map_eq_some_iff.mp isMember
    rfl

/-- The keywords of an inferred schema. -/
theorem eq_of_get?_infer {name : String} {part : Value}
    (found : Members.get? name (infer sample) = some part) :
    (name = "type" ∧ part = .text "object") ∨
      (name = "properties" ∧ part = .object (inferredProperties sample)) ∨
      (name = "required" ∧ part = .list (sample.keys.map Key.toValue)) := by
  simp only [infer, Members.get?, Key.same_text, decide_eq_true_eq, Key.text.injEq] at found
  split at found
  · rename_i isType
    exact .inl ⟨isType.symm, (Option.some.inj found).symm⟩
  split at found
  · rename_i isProperties
    exact .inr (.inl ⟨isProperties.symm, (Option.some.inj found).symm⟩)
  split at found
  · rename_i isRequired
    exact .inr (.inr ⟨isRequired.symm, (Option.some.inj found).symm⟩)
  · cases found

/-- A schema of a type only accepts the values of the type. -/
theorem descend_typed_eq_nil_iff (checks : SchemaChecks) {scope : SchemaScope} {value : Value}
    (draft : scope.draft = .seven) (json : value.IsJson) (type : ValueType) :
    descend checks scope none (Metaschema.typed type.name) value = [] ↔
      value.type? = some type := by
  rw [Metaschema.typed, Metaschema.only, descend_plain ⟨rfl, rfl, rfl⟩ draft,
    Keyword.allFindings_single draft (by decide +kernel), Keyword.findings_type draft,
    Keyword.types_eq_nil_iff rfl, draft]
  exact json.hasType_iff type

end Schema

/-! ## Distinct texts

Texts are sorted without a fault, none being lost or added, so equal ones would stand beside each
other.
-/

namespace Distinct

variable {items sorted : List Value}

def AreTexts (items : List Value) : Prop := ∀ item ∈ items, ∃ content, item = .text content

theorem exists_less {left right : Value} (leftText : ∃ content, left = .text content)
    (rightText : ∃ content, right = .text content) : ∃ below, less left right = .ok below := by
  obtain ⟨left, rfl⟩ := leftText
  obtain ⟨right, rfl⟩ := rightText
  exact ⟨_, by simp [less, Value.kind, Value.less]; rfl⟩

theorem exists_takeRun (falling : Bool) {last : Value} (lastText : ∃ content, last = .text content)
    (texts : AreTexts items) :
    ∃ run rest, takeRun falling last items = .ok (run, rest) ∧ run ++ rest = items := by
  induction items generalizing last with
  | nil => exact ⟨[], [], rfl, rfl⟩
  | cons item items ih =>
      obtain ⟨itemText, others⟩ := List.forall_mem_cons.mp texts
      obtain ⟨below, isBelow⟩ := exists_less itemText lastText
      obtain ⟨run, rest, taken, rfl⟩ := ih itemText others
      rw [takeRun, isBelow]
      by_cases same : below = falling
      · refine ⟨item :: run, rest, ?_, rfl⟩
        simp [same, taken, bind, Except.bind, pure, Except.pure]
      · refine ⟨[], item :: (run ++ rest), ?_, rfl⟩
        simp [same, bind, Except.bind, pure, Except.pure]

theorem exists_position (texts : AreTexts sorted) {item : Value}
    (itemText : ∃ content, item = .text content) (fuel low high : Nat) :
    ∃ place, position sorted item fuel low high = .ok place := by
  induction fuel generalizing low high with
  | zero => exact ⟨low, rfl⟩
  | succ fuel ih =>
      rw [position]
      split
      · dsimp only
        split
        · exact ⟨low, rfl⟩
        · rename_i other found
          obtain ⟨below, isBelow⟩ := exists_less itemText (texts other (List.mem_of_getElem? found))
          rw [isBelow]
          cases below
          · exact ih _ _
          · exact ih _ _
      · exact ⟨low, rfl⟩

theorem exists_insert (texts : AreTexts sorted) {item : Value}
    (itemText : ∃ content, item = .text content) :
    ∃ result, insert sorted item = .ok result ∧ result.Perm (item :: sorted) := by
  obtain ⟨place, isPlace⟩ := exists_position texts itemText (sorted.length + 1) 0 sorted.length
  refine ⟨_, by rw [insert, isPlace]; rfl, ?_⟩
  have joined := List.take_append_drop place sorted
  exact List.perm_middle.trans (by rw [joined])

theorem exists_insertAll (texts : AreTexts items) (sortedTexts : AreTexts sorted) :
    ∃ result, items.foldlM insert sorted = .ok result ∧ result.Perm (sorted ++ items) := by
  induction items generalizing sorted with
  | nil => exact ⟨sorted, rfl, by rw [List.append_nil]⟩
  | cons item items ih =>
      obtain ⟨itemText, others⟩ := List.forall_mem_cons.mp texts
      obtain ⟨middle, inserted, middlePerm⟩ := exists_insert sortedTexts itemText
      have middleTexts : AreTexts middle := by
        intro other isOther
        rcases List.mem_cons.mp (middlePerm.subset isOther) with rfl | old
        · exact itemText
        · exact sortedTexts other old
      obtain ⟨result, folded, perm⟩ := ih others middleTexts
      refine ⟨result, by rw [List.foldlM_cons, inserted]; exact folded, ?_⟩
      exact perm.trans ((middlePerm.append_right items).trans List.perm_middle.symm)

/-- Sorting takes a first run as it is, or turned around, and inserts the others. -/
theorem exists_sort (texts : AreTexts items) :
    ∃ result, sort items = .ok result ∧ result.Perm items := by
  match items with
  | [] => exact ⟨[], rfl, .refl _⟩
  | [single] => exact ⟨[single], rfl, .refl _⟩
  | first :: second :: others =>
      obtain ⟨firstText, others⟩ := List.forall_mem_cons.mp texts
      obtain ⟨secondText, others⟩ := List.forall_mem_cons.mp others
      obtain ⟨falling, isFalling⟩ := exists_less secondText firstText
      obtain ⟨run, rest, taken, rfl⟩ := exists_takeRun falling secondText others
      obtain ⟨begun, isBegun, begunPerm⟩ : ∃ begun : List Value,
          (if falling then (first :: second :: run).reverse else first :: second :: run) = begun ∧
            begun.Perm (first :: second :: run) := by
        refine ⟨_, rfl, ?_⟩
        split
        · exact List.reverse_perm _
        · exact .refl _
      have begunTexts : AreTexts begun := fun item isItem =>
        texts item (List.mem_append_left rest (begunPerm.subset isItem))
      have restTexts : AreTexts rest := fun item isItem =>
        others item (List.mem_append_right run isItem)
      obtain ⟨result, folded, perm⟩ := exists_insertAll restTexts begunTexts
      refine ⟨result, ?_, perm.trans (begunPerm.append_right rest)⟩
      rw [sort, isFalling]
      simp only [taken, isBegun, bind, Except.bind]
      exact folded

theorem hasEqualNeighbours_of_nodup (texts : AreTexts items) (distinct : items.Nodup) :
    hasEqualNeighbours items = .ok false := by
  induction items with
  | nil => rfl
  | cons first items ih =>
      obtain ⟨⟨left, rfl⟩, others⟩ := List.forall_mem_cons.mp texts
      obtain ⟨fresh, otherDistinct⟩ := List.nodup_cons.mp distinct
      cases items with
      | nil => rfl
      | cons second items =>
          obtain ⟨⟨right, rfl⟩, _⟩ := List.forall_mem_cons.mp others
          have differ : (left == right) = false := by
            rw [beq_eq_false_iff_ne]
            rintro rfl
            exact fresh List.mem_cons_self
          have compared : (Value.text left).compareJson (.text right) = .ok (left == right) := rfl
          rw [hasEqualNeighbours, compared, differ]
          exact ih others otherDistinct

theorem areTexts_of_textKeyed {members : Members} (keyed : members.TextKeyed) :
    AreTexts (members.keys.map Key.toValue) := by
  intro item isItem
  obtain ⟨key, isKey, rfl⟩ := List.mem_map.mp isItem
  obtain ⟨content, rfl⟩ := keyed.texts key isKey
  exact ⟨content, rfl⟩

theorem nodup_of_textKeyed {members : Members} (keyed : members.TextKeyed) :
    (members.keys.map Key.toValue).Nodup := by
  refine (List.nodup_map_iff_inj_on keyed.distinct).mpr fun left isLeft right isRight same => ?_
  obtain ⟨left, rfl⟩ := keyed.texts left isLeft
  obtain ⟨right, rfl⟩ := keyed.texts right isRight
  cases same
  rfl

end Distinct

theorem areDistinct_of_nodup {items : List Value} (texts : Distinct.AreTexts items)
    (distinct : items.Nodup) : areDistinct items = .ok true := by
  obtain ⟨sorted, isSorted, perm⟩ := Distinct.exists_sort texts
  have none : Distinct.hasEqualNeighbours sorted = .ok false :=
    Distinct.hasEqualNeighbours_of_nodup (fun item isItem => texts item (perm.subset isItem))
      (perm.nodup_iff.mpr distinct)
  rw [areDistinct, isSorted]
  dsimp only
  rw [none]
  rfl

/-! ## The schema of schemas -/

namespace Metaschema

def address7 : String := "http://json-schema.org/draft-07/schema"

def resource7 : SchemaResource := { draft := .seven, contents := draft7 }

/-- The schema of schemas, seen as its keywords. -/
def members7 : Members :=
  match draft7 with
  | .object members => members
  | _ => []

/-- The schemas of the keywords of schemas. -/
def properties7 : Members :=
  match members7.getD "properties" with
  | .object members => members
  | _ => []

theorem draft7_eq : draft7 = .object members7 := rfl

theorem members7_eq :
    members7 = ([ ("$schema", .text "http://json-schema.org/draft-07/schema#"),
        ("$id", .text "http://json-schema.org/draft-07/schema#"),
        ("title", .text "Core schema meta-schema"), ("definitions", .object definitions),
        ("type", .list [.text "object", .text "boolean"]), ("properties", .object properties7),
        ("default", .bool true) ] : Members) := rfl

theorem properties7_textKeyed : properties7.TextKeyed :=
  membersHaveTextKeys_iff.mp (by decide +kernel)

theorem address?_resource7 : resource7.address? = .ok (some address7) := by decide +kernel

theorem inForce_draft7 : Draft.inForce .seven draft7 = .ok .seven := by decide +kernel

theorem reference_members7 : members7.get? "$ref" = none := by decide +kernel

/-- From where the schema of schemas sees its own references. -/
structure IsHome (viewpoint : Viewpoint) : Prop where
  address : viewpoint.address = address7
  registry : viewpoint.registry = SchemaRegistry.ofRoot address7 resource7

theorem exists_home :
    ∃ viewpoint, Viewpoint.ofRoot resource7 = .ok viewpoint ∧ IsHome viewpoint := by
  rw [Viewpoint.ofRoot, address?_resource7]
  exact ⟨_, rfl, rfl, rfl⟩

namespace IsHome

variable {viewpoint : Viewpoint}

theorem goTo (home : IsHome viewpoint) :
    IsHome (viewpoint.goTo viewpoint.address viewpoint.registry) :=
  ⟨home.address, home.registry⟩

theorem find (home : IsHome viewpoint) :
    viewpoint.registry.find viewpoint.address = .ok (viewpoint.registry, resource7) := by
  have isThere :
      (SchemaRegistry.ofRoot address7 resource7).resource? address7 = some resource7 := by
    simp [SchemaRegistry.resource?, SchemaRegistry.ofRoot]
  rw [SchemaRegistry.find, home.address, home.registry, isThere]

theorem lookUp_root (home : IsHome viewpoint) :
    viewpoint.lookUp "#" = .ok (draft7, viewpoint.goTo viewpoint.address viewpoint.registry) := by
  have text : "#".toList = ['#'] := rfl
  rw [Viewpoint.lookUp, text]
  change (viewpoint.registry.find viewpoint.address >>= fun found =>
    pure (found.2.contents, viewpoint.goTo viewpoint.address found.1)) = _
  rw [home.find]
  rfl

/-- A pointer to a definition leads to it. -/
theorem lookUp_definition (home : IsHome viewpoint) {place name : String} {pointer : List Char}
    {part : Members} (text : place.toList = '#' :: '/' :: pointer)
    (segments : Viewpoint.pointerSegments pointer = ["definitions", name])
    (unescaped : Viewpoint.unescapeTildes name = name)
    (found : definitions.get? name = some (.object part)) (plain : Schema.IsPlain part) :
    viewpoint.lookUp place =
      .ok (.object part, viewpoint.goTo viewpoint.address viewpoint.registry) := by
  have toDefinitions :
      Viewpoint.stepInto draft7 "definitions" = .ok (.text "definitions", .object definitions) := by
    have unescaped : Viewpoint.unescapeTildes "definitions" = "definitions" := by decide +kernel
    rw [draft7_eq]
    simp only [Viewpoint.stepInto, unescaped]
    rfl
  have toPart : Viewpoint.stepInto (.object definitions) name = .ok (.text name, .object part) := by
    simp only [Viewpoint.stepInto, unescaped, found]
    rfl
  have notSchema :
      SchemaResource.leadsToSchema .seven (.object definitions) [.text "definitions"] = false := by
    decide +kernel
  -- The table of definitions is no schema, and the definition has no address of its own, so the
  -- viewpoint stays.
  have followed (inner : Viewpoint) :
      Viewpoint.follow .seven inner draft7 [] ["definitions", name] =
        .ok (.object part, inner) := by
    simp [Viewpoint.follow, toDefinitions, toPart, notSchema, plain.address?, bind, Except.bind]
  have opened : (String.ofList ('/' :: pointer)).toList = '/' :: pointer := String.toList_ofList
  rw [Viewpoint.lookUp, text]
  change (viewpoint.registry.find viewpoint.address >>= fun found => _) = _
  rw [home.find]
  simp only [opened, segments]
  exact followed _

end IsHome

/-- What the operand of the keyword for types must be: a name, or a list of names. -/
def typeOperand : Members :=
  [ ("anyOf", .list
      [ reference "#/definitions/simpleTypes",
        .object
          [ ("type", .text "array"), ("items", reference "#/definitions/simpleTypes"),
            ("minItems", .int 1), ("uniqueItems", .bool true) ] ]) ]

/-- What the operand of the keyword for required keys must be: a list of distinct texts. -/
def requiredOperand : Members :=
  [ ("type", .text "array"), ("items", typed "string"), ("uniqueItems", .bool true),
    ("default", .list []) ]

theorem get?_type : properties7.get? "type" = some (.object typeOperand) := by rfl

theorem get?_properties : properties7.get? "properties" = some (tableOf (reference "#")) := by rfl

theorem get?_required :
    properties7.get? "required" = some (reference "#/definitions/stringArray") := by rfl

theorem get?_stringArray : definitions.get? "stringArray" = some (.object requiredOperand) := by rfl

/-! ## Well-formed parts of schemas -/

/-- An object is well-formed if the operands of its known keywords are. -/
theorem members7_eq_nil_iff {checks : SchemaChecks} {scope : SchemaScope} {members : Members}
    (draft : scope.draft = .seven) :
    Keyword.allFindings checks scope members7 members7 (.object members) = [] ↔
      ∀ (name : String) (schema part : Value), properties7.get? name = some schema →
        members.get? name = some part → checks.descend scope none schema part = [] := by
  have typed : Keyword.types
      ⟨scope, members7, .list [.text "object", .text "boolean"], .object members⟩ = [] := by
    obtain ⟨_, viewpoint, formats⟩ := scope
    cases draft
    rfl
  have read : Keyword.allFindings checks scope members7 members7 (.object members) =
      Keyword.properties checks ⟨scope, members7, .object properties7, .object members⟩
        members := by
    -- Only the keywords to come are opened; the schema around them stays folded.
    conv_lhs => arg 4; rw [members7_eq]
    simp (disch := decide +kernel) only [Keyword.allFindings_unknown draft,
      Keyword.allFindings_known draft, Keyword.allFindings_nil, Keyword.findings_type draft, typed,
      Keyword.findings_object, List.append_nil, List.nil_append]
    rfl
  rw [read, Keyword.properties_eq_nil_iff rfl properties7_textKeyed (by simp [draft])]
  rfl

/-- A scope in which the schema of schemas is at work, and sees references from its own place. -/
structure Governs (scope : SchemaScope) : Prop where
  draft : scope.draft = .seven
  home : IsHome scope.viewpoint

section

open Schema (descend checksWithin IsPlain)

variable {scope : SchemaScope} (governs : Governs scope) (fuel : Nat) {value : Value}

include governs

theorem Governs.goTo :
    Governs { scope with
      viewpoint := scope.viewpoint.goTo scope.viewpoint.address scope.viewpoint.registry } :=
  ⟨governs.draft, governs.home.goTo⟩

/-- A reference to a definition stands for its keywords. -/
theorem Governs.descend_definition (place name : String) (pointer : List Char)
    {part : Members} (text : place.toList = '#' :: '/' :: pointer)
    (segments : Viewpoint.pointerSegments pointer = ["definitions", name])
    (unescaped : Viewpoint.unescapeTildes name = name)
    (found : definitions.get? name = some (.object part)) (plain : IsPlain part) :
    ∃ inner, Governs inner ∧
      descend (checksWithin (fuel + 1)) scope none (reference place) value =
        Keyword.allFindings (checksWithin fuel) inner part part value := by
  refine ⟨_, governs.goTo, ?_⟩
  rw [Schema.descend_reference governs.draft
    (governs.home.lookUp_definition text segments unescaped found plain)]
  exact Schema.descend_object _ rfl (plain.inForce _) (Schema.keywords_object plain.reference)

/-- A reference to the schema of schemas stands for its keywords. -/
theorem Governs.descend_root :
    ∃ inner, Governs inner ∧
      descend (checksWithin (fuel + 1)) scope none (reference "#") value =
        Keyword.allFindings (checksWithin fuel) inner members7 members7 value := by
  refine ⟨_, governs.goTo, ?_⟩
  rw [Schema.descend_reference governs.draft governs.home.lookUp_root]
  refine Schema.descend_object _ rfl ?_ (Schema.keywords_object reference_members7)
  rw [governs.draft]
  exact inForce_draft7

/-- The name of a type is the operand of a keyword for types. -/
theorem Governs.accepts_type (type : ValueType) :
    descend (checksWithin (fuel + 2)) scope none (.object typeOperand) (.text type.name) = [] := by
  have named :
      descend (checksWithin (fuel + 1)) scope none (reference "#/definitions/simpleTypes")
        (.text type.name) = [] := by
    obtain ⟨inner, inside, same⟩ := governs.descend_definition fuel
      "#/definitions/simpleTypes" "simpleTypes" "definitions/simpleTypes".toList rfl
      (by decide +kernel) (by decide +kernel) rfl ⟨rfl, rfl, rfl⟩
    rw [same, Keyword.allFindings_single inside.draft (by decide +kernel),
      Keyword.findings_any (by decide)]
    change Keyword.enumeration _ = []
    rw [Keyword.enumeration, Value.walk, Finding.attempt_ok, Keyword.require_eq_nil_iff]
    cases type <;> rfl
  rw [Schema.descend_plain ⟨rfl, rfl, rfl⟩ governs.draft, typeOperand,
    Keyword.allFindings_single governs.draft (by decide +kernel), Keyword.findings_any (by decide)]
  exact Keyword.someSchema_eq_nil rfl named

/-- A schema of a type only is well-formed. -/
theorem Governs.accepts_typed (type : ValueType) :
    descend (checksWithin (fuel + 4)) scope none (reference "#") (typed type.name) = [] := by
  obtain ⟨inner, inside, same⟩ := governs.descend_root (fuel + 3)
  rw [same, typed, only, members7_eq_nil_iff inside.draft]
  intro name schema part isSchema isPart
  by_cases isType : name = "type"
  · subst isType
    obtain rfl := Option.some.inj (get?_type.symm.trans isSchema)
    obtain rfl : .text type.name = part := by simpa [Members.get?, Key.same_text] using isPart
    exact inside.accepts_type _ type
  · simp [Members.get?, Key.same_text, Ne.symm isType] at isPart

/-- Texts that are distinct are the operand of a keyword for required keys. -/
theorem Governs.accepts_required {names : List Value}
    (texts : Distinct.AreTexts names) (distinct : names.Nodup) :
    descend (checksWithin (fuel + 2)) scope none (reference "#/definitions/stringArray")
      (.list names) = [] := by
  obtain ⟨inner, inside, same⟩ := governs.descend_definition (fuel + 1)
    "#/definitions/stringArray" "stringArray" "definitions/stringArray".toList rfl
    (by decide +kernel) (by decide +kernel) get?_stringArray ⟨rfl, rfl, rfl⟩
  have isList : Keyword.types ⟨inner, requiredOperand, .text "array", .list names⟩ = [] := by
    rw [Keyword.types_eq_nil_iff rfl, inside.draft]
    rfl
  have areTexts : Keyword.itemSchemas (checksWithin (fuel + 1))
      ⟨inner, requiredOperand, typed "string", .list names⟩ names = [] := by
    refine Keyword.itemSchemas_eq_nil rfl inside.draft fun name isName => ?_
    obtain ⟨content, rfl⟩ := texts name isName
    exact (Schema.descend_typed_eq_nil_iff (checksWithin fuel) inside.draft (.text content)
      .string).mpr rfl
  have areDistinct :
      Keyword.uniqueItems ⟨inner, requiredOperand, .bool true, .list names⟩ names = [] := by
    change Keyword.require _ _ = []
    rw [Keyword.require_eq_nil_iff]
    exact areDistinct_of_nodup texts distinct
  rw [same]
  conv_lhs => arg 4; rw [requiredOperand]
  simp (disch := decide +kernel) only [Keyword.allFindings_known inside.draft,
    Keyword.allFindings_unknown inside.draft, Keyword.allFindings_nil,
    Keyword.findings_type inside.draft, isList, Keyword.findings_list, List.append_nil,
    List.nil_append, List.append_eq_nil_iff]
  exact ⟨areTexts, areDistinct⟩

/-- A table of well-formed schemas is the operand of a keyword for properties. -/
theorem Governs.accepts_properties {entries : Members}
    (texts : ∀ key ∈ entries.keys, ∃ name, key = .text name)
    (each : ∀ key ∈ entries.keys,
      descend (checksWithin fuel) scope none (reference "#") (entries.getD key) = []) :
    descend (checksWithin (fuel + 1)) scope none (tableOf (reference "#")) (.object entries) =
      [] := by
  let table : Members :=
    [("type", .text "object"), ("additionalProperties", reference "#"), ("default", .object [])]
  have isObject : Keyword.types ⟨scope, table, .text "object", .object entries⟩ = [] := by
    rw [Keyword.types_eq_nil_iff rfl, governs.draft]
    rfl
  have areKeys : Keyword.additionalKeys
      ⟨scope, table, reference "#", .object entries⟩ entries = .ok entries.keys :=
    Keyword.additionalKeys_eq_keys rfl rfl texts
  have additional : Keyword.additionalProperties (checksWithin (fuel + 1))
      ⟨scope, table, reference "#", .object entries⟩ entries = [] :=
    Keyword.additionalProperties_eq_nil rfl areKeys each
  change descend _ _ _ (.object table) _ = []
  rw [Schema.descend_plain ⟨rfl, rfl, rfl⟩ governs.draft]
  conv_lhs => arg 4; simp only [table]
  simp (disch := decide +kernel) only [Keyword.allFindings_known governs.draft,
    Keyword.allFindings_unknown governs.draft, Keyword.allFindings_nil,
    Keyword.findings_type governs.draft, isObject, Keyword.findings_object, List.append_nil,
    List.nil_append]
  exact additional

end

end Metaschema

/-! ## Inferred schemas -/

namespace Schema

open Metaschema (Governs)

variable {sample document : Members}

theorem review_draft7 (schema : Value) :
    SchemaLibrary.draft7.review schema = wholeFindings true Metaschema.draft7 schema := by
  rw [SchemaLibrary.draft7]

/-- An inferred schema is well-formed. -/
theorem review_infer (json : (Value.object sample).IsJson) :
    SchemaLibrary.draft7.review (.object (infer sample)) = [] := by
  have keyed := json.textKeyed
  obtain ⟨viewpoint, started, home⟩ := Metaschema.exists_home
  obtain ⟨fuel, bound⟩ := exists_depthBound Metaschema.draft7 (.object (infer sample))
  have governs : Governs { draft := .seven, viewpoint, formats := true } := ⟨rfl, home⟩
  rw [Metaschema.resource7, Metaschema.draft7_eq] at started
  rw [Metaschema.draft7_eq] at bound
  rw [review_draft7, Metaschema.draft7_eq,
    wholeFindings_object started Metaschema.reference_members7, bound,
    Metaschema.members7_eq_nil_iff rfl]
  -- Of the keywords that schemas may have an inferred one has three.
  intro name schema part isSchema isPart
  rcases eq_of_get?_infer isPart with ⟨rfl, rfl⟩ | ⟨rfl, rfl⟩ | ⟨rfl, rfl⟩
  · obtain rfl := Option.some.inj (Metaschema.get?_type.symm.trans isSchema)
    exact governs.accepts_type (fuel + 3) .object
  · obtain rfl := Option.some.inj (Metaschema.get?_properties.symm.trans isSchema)
    refine governs.accepts_properties (fuel + 4) (inferredProperties_textKeyed json).texts
      fun key isKey => ?_
    rw [keys_inferredProperties json] at isKey
    obtain ⟨⟨_, value⟩, isMember, rfl⟩ := List.mem_map.mp isKey
    obtain ⟨name, rfl⟩ := keyed.texts _ isKey
    obtain ⟨type, typed⟩ := (json.of_mem isMember).exists_type
    rw [Members.getD, get?_inferredProperties json, keyed.get?_of_mem isMember, Option.bind_some,
      typed, Option.map_some, Option.getD_some]
    exact governs.accepts_typed fuel type
  · obtain rfl := Option.some.inj (Metaschema.get?_required.symm.trans isSchema)
    exact governs.accepts_required (fuel + 3) (Distinct.areTexts_of_textKeyed keyed)
      (Distinct.nodup_of_textKeyed keyed)

/-- An inferred schema finds nothing at the keys that a document shares with the sample if the
values there have the same types. -/
theorem properties_infer_eq_nil_iff {fuel : Nat} {task : KeywordTask}
    (draft : task.scope.draft = .seven)
    (operand : task.operand = .object (inferredProperties sample))
    (sampleJson : (Value.object sample).IsJson) (json : (Value.object document).IsJson) :
    Keyword.properties (checksWithin (fuel + 1)) task document = [] ↔
      ∀ (name : String) (value other : Value), sample.get? name = some value →
        document.get? name = some other → other.type? = value.type? := by
  rw [Keyword.properties_eq_nil_iff operand (inferredProperties_textKeyed sampleJson)
    (by simp [draft])]
  constructor
  · intro passed name value other isValue isOther
    obtain ⟨type, typed⟩ := (sampleJson.get? isValue).exists_type
    have isSchema :
        (inferredProperties sample).get? name = some (Metaschema.typed type.name) := by
      rw [get?_inferredProperties sampleJson, isValue, Option.bind_some, typed, Option.map_some]
    rw [typed]
    exact (descend_typed_eq_nil_iff (checksWithin fuel) draft (json.get? isOther) type).mp
      (passed name _ other isSchema isOther)
  · intro same name schema other isSchema isOther
    rw [get?_inferredProperties sampleJson] at isSchema
    obtain ⟨value, isValue, isSchema⟩ := Option.bind_eq_some_iff.mp isSchema
    obtain ⟨type, typed, rfl⟩ := Option.map_eq_some_iff.mp isSchema
    exact (descend_typed_eq_nil_iff (checksWithin fuel) draft (json.get? isOther) type).mpr
      ((same name value other isValue isOther).trans typed)

/-- An inferred schema requires the keys of the sample. -/
theorem required_infer_eq_nil_iff {task : KeywordTask}
    (operand : task.operand = .list (sample.keys.map Key.toValue)) (keyed : sample.TextKeyed) :
    Keyword.required task document = [] ↔
      ∀ (name : String) (value : Value), sample.get? name = some value →
        ∃ other, document.get? name = some other := by
  have holds (name : String) : (Value.object document).holds (.text name) = .ok true ↔
      ∃ other, document.get? name = some other := by
    change Except.ok (document.contains name) = .ok true ↔ _
    rw [Except.ok.injEq, Members.contains, Option.isSome_iff_exists]
  rw [Keyword.required_eq_nil_iff operand]
  constructor
  · intro present name value isValue
    have isKey : Key.text name ∈ sample.keys :=
      List.mem_map.mpr ⟨_, keyed.mem_iff.mpr isValue, rfl⟩
    exact (holds name).mp (present _ (List.mem_map.mpr ⟨_, isKey, rfl⟩))
  · intro present item isItem
    obtain ⟨_, isKey, rfl⟩ := List.mem_map.mp isItem
    obtain ⟨⟨key, value⟩, isMember, rfl⟩ := List.mem_map.mp isKey
    obtain ⟨name, rfl⟩ := keyed.texts key isKey
    exact (holds name).mpr (present name value (keyed.get?_of_mem isMember))

/-- An inferred schema finds nothing in the documents that have the shape of the sample. -/
theorem findings_infer_eq_nil_iff (sampleJson : (Value.object sample).IsJson)
    (json : (Value.object document).IsJson) :
    findings (.object (infer sample)) (.object document) = [] ↔ document.HasShapeOf sample := by
  have plain : IsPlain (infer sample) := ⟨rfl, rfl, rfl⟩
  obtain ⟨fuel, bound⟩ := exists_depthBound (.object (infer sample)) (.object document)
  obtain ⟨viewpoint, started⟩ : ∃ viewpoint,
      Viewpoint.ofRoot { draft := .seven, contents := .object (infer sample) } = .ok viewpoint := by
    rw [Viewpoint.ofRoot, plain.address?]
    exact ⟨_, rfl⟩
  rw [findings, wholeFindings_object started plain.reference, bound]
  conv_lhs => arg 1; arg 4; rw [infer]
  simp (disch := first | rfl | decide +kernel) only [Keyword.allFindings_known,
    Keyword.allFindings_nil, Keyword.findings_type, Keyword.findings_object, List.append_nil,
    List.append_eq_nil_iff]
  rw [Keyword.types_eq_nil_iff rfl]
  change Draft.seven.hasType (.object document) (.text "object") = .ok true ∧
    Keyword.properties _ _ _ = [] ∧ Keyword.required _ _ = [] ↔ _
  rw [properties_infer_eq_nil_iff rfl rfl sampleJson json,
    required_infer_eq_nil_iff rfl sampleJson.textKeyed]
  constructor
  · rintro ⟨_, same, present⟩ name value isValue
    obtain ⟨other, isOther⟩ := present name value isValue
    exact ⟨other, isOther, same name value other isValue isOther⟩
  · intro shape
    refine ⟨rfl, fun name value other isValue isOther => ?_, fun name value isValue => ?_⟩
    · obtain ⟨_, found, same⟩ := shape name value isValue
      cases found.symm.trans isOther
      exact same
    · obtain ⟨other, isOther, _⟩ := shape name value isValue
      exact ⟨other, isOther⟩

end Schema

/-- Every document that is registered as a sample gives its collection a schema.  The collection
accepts a document then, whether it is only asked or validates it, if the document has every key
of the sample, with a value of the same type.  So it accepts the sample. -/
theorem inferred_schema_accepts_shape {sample : Members} (sampleJson : (Value.object sample).IsJson)
    (catalog : SchemaCatalog) (collection : String) :
    ∃ kept : SchemaCatalog,
      catalog.registerInferred .draft7 collection (.object sample) =
        .ok (Schema.infer sample, kept) ∧
      (∀ document : Members, (Value.object document).IsJson →
        (kept.accepts collection (.object document) = .ok true ↔ document.HasShapeOf sample) ∧
        (kept.validate collection (.object document) = .ok () ↔ document.HasShapeOf sample)) ∧
      kept.accepts collection (.object sample) = .ok true ∧
      kept.validate collection (.object sample) = .ok () := by
  let validator : Validator := Schema.findings (.object (Schema.infer sample))
  let kept : SchemaCatalog := (Key.text collection, validator) :: catalog.unregister collection
  have registered :
      catalog.register .draft7 collection (.object (Schema.infer sample)) = .ok kept := by
    rw [SchemaCatalog.register, Schema.review_infer sampleJson]
    rfl
  have isKept : kept.get? collection = some validator := by
    simp [kept, SchemaCatalog.get?, Key.same_text]
  have decides : ∀ document : Members, (Value.object document).IsJson →
      (kept.accepts collection (.object document) = .ok true ↔ document.HasShapeOf sample) ∧
      (kept.validate collection (.object document) = .ok () ↔ document.HasShapeOf sample) := by
    intro document json
    rw [← Schema.findings_infer_eq_nil_iff sampleJson json]
    exact ⟨SchemaCatalog.accepts_eq_true_iff isKept, SchemaCatalog.validate_eq_ok_iff isKept⟩
  have returned : catalog.registerInferred .draft7 collection (.object sample) =
      .ok (Schema.infer sample, kept) := by
    simp only [SchemaCatalog.registerInferred, Value.asObject, registered, Except.map]
  obtain ⟨accepted, validated⟩ := decides sample sampleJson
  exact ⟨kept, returned, decides, accepted.mpr sample.hasShapeOf_self,
    validated.mpr sample.hasShapeOf_self⟩

/-- The keys may stand in another order beside further ones, and a double is a number like an
integer, but a truth value is none. -/
theorem inferred_schema_accepts_shape_flaggedAge :
    let sample : Members := [("name", .text "Ada"), ("age", .int 36), ("tags", .list [])]
    let longer : Members :=
      [ ("tags", .list [.null]), ("age", .float 36.5), ("mail", .null), ("name", .text "") ]
    let flagged : Members := [("name", .text "Ada"), ("age", .bool true), ("tags", .list [])]
    (Value.object sample).IsJson ∧
      ∃ kept : SchemaCatalog,
        SchemaCatalog.registerInferred .draft7 [] "users" (.object sample) =
          .ok (Schema.infer sample, kept) ∧
        kept.accepts "users" (.object longer) = .ok true ∧
        kept.validate "users" (.object longer) = .ok () ∧
        kept.accepts "users" (.object flagged) ≠ .ok true ∧
        kept.validate "users" (.object flagged) ≠ .ok () := by
  intro sample longer flagged
  have sampleJson : (Value.object sample).IsJson := by
    simp [sample, Value.isJson_object_iff, Value.isJson_list_iff, Members.keys,
      Value.IsJson.int, Value.IsJson.text]
  have longerJson : (Value.object longer).IsJson := by
    simp [longer, Value.isJson_object_iff, Value.isJson_list_iff, Members.keys,
      Value.IsJson.null, Value.IsJson.float, Value.IsJson.text]
  have flaggedJson : (Value.object flagged).IsJson := by
    simp [flagged, Value.isJson_object_iff, Value.isJson_list_iff, Members.keys,
      Value.IsJson.bool, Value.IsJson.text]
  have longerShape : longer.HasShapeOf sample := by
    intro name value found
    simp only [sample, Members.get?, Key.same_text] at found
    grind [Members.get?, Key.same_text, Value.type?]
  have flaggedShape : ¬ flagged.HasShapeOf sample := by
    intro shape
    obtain ⟨other, found, same⟩ := shape "age" (.int 36)
      (by simp [sample, Members.get?, Key.same_text])
    obtain rfl : .bool true = other := by simpa [flagged, Members.get?, Key.same_text] using found
    cases same
  obtain ⟨kept, registered, decides, _, _⟩ := inferred_schema_accepts_shape sampleJson [] "users"
  obtain ⟨longerAccepted, longerValidated⟩ := decides longer longerJson
  obtain ⟨flaggedAccepted, flaggedValidated⟩ := decides flagged flaggedJson
  exact ⟨sampleJson, kept, registered, longerAccepted.mpr longerShape,
    longerValidated.mpr longerShape, fun accepted => flaggedShape (flaggedAccepted.mp accepted),
    fun validated => flaggedShape (flaggedValidated.mp validated)⟩

end DocStore
