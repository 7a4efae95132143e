import Mathlib
import DocStore.Proofs.Json.Values
import DocStore.Proofs.Outcome
import DocStore.Schema.Catalog
import DocStore.Schema.Validity

/-!
# The places of violations and their order

A place leads from a value to a part of it, by keys out of objects and by positions out of
lists.  Two places in one value walk through the same containers up to where they part, so they
part by two keys or by two positions, and a key is never compared with a position.  Therefore
violations in one value can always be put in the order of their places.

Every violation that the validation of a document comes upon has a place in the document: a
keyword tells it at the value at hand, or hands on what was found in a member or an element,
seen from the value.  So a document that is not accepted is refused with all messages in order.
-/

namespace DocStore

/-! ## Steps -/

namespace Step

/-- Steps that may lead out of one container: two texts as keys, or two positions. -/
inductive Alike : Step → Step → Prop where
  | keys (left right : String) : Alike (.key (.text left)) (.key (.text right))
  | positions (left right : Nat) : Alike (.index left) (.index right)

/-- Where a step stands among the steps out of its container. -/
def coordinate : Step → Nat ⊕ₗ String
  | index position => Sum.inlₗ position
  | key (.text content) => Sum.inrₗ content
  | _ => Sum.inrₗ ""

namespace Alike

variable {left right : Step}

theorem coordinate_inj (alike : Alike left right) :
    left.coordinate = right.coordinate ↔ left = right := by
  cases alike <;> simp [coordinate]

theorem same_iff (alike : Alike left right) :
    left.position.same right.position = true ↔ left = right := by
  cases alike with
  | keys left right => simp [position, Key.same]
  | positions left right =>
      simp [position, Key.same, Key.number?, Exact.ofInt, Exact.equal]

theorem areOrdered (alike : Alike left right) :
    left.position.areOrdered right.position = true := by
  cases alike <;> rfl

theorem less_iff (alike : Alike left right) :
    left.position.less right.position = true ↔ left.coordinate < right.coordinate := by
  cases alike with
  | keys left right => simp [position, Key.less, coordinate]
  | positions left right =>
      simp [position, Key.less, Key.number?, Exact.ofInt, Exact.less, coordinate]

end Alike

end Step

/-! ## Places -/

namespace Place

/-- A place as it is ordered: by the first steps that differ, a place before those below it. -/
def coordinates (place : Place) : List (Nat ⊕ₗ String) := place.map Step.coordinate

/-- Wherever two places have gone the same way, their next steps lead out of one container. -/
def PartAlike (left right : Place) : Prop :=
  ∀ common first second lefts rights,
    left = common ++ first :: lefts → right = common ++ second :: rights → first.Alike second

variable {left right : Place} {first second : Step}

theorem PartAlike.head (alike : PartAlike (first :: left) (second :: right)) :
    first.Alike second :=
  alike [] first second left right rfl rfl

theorem PartAlike.tail (alike : PartAlike (first :: left) (first :: right)) :
    PartAlike left right := by
  rintro common next other lefts rights rfl rfl
  exact alike (first :: common) next other lefts rights rfl rfl

theorem areOrderedPlaces_of_partAlike (alike : PartAlike left right) :
    areOrderedPlaces left right = true := by
  unfold areOrderedPlaces
  rw [Bool.or_eq_true, decide_eq_true_eq]
  induction left generalizing right with
  | nil => cases right <;> simp [decideParting]
  | cons first left ih =>
      cases right with
      | nil => exact .inr rfl
      | cons second right =>
          rw [decideParting]
          by_cases same : first = second
          · subst same
            rw [if_pos (alike.head.same_iff.mpr rfl)]
            simpa using ih alike.tail
          · rw [if_neg (mt alike.head.same_iff.mp same)]
            exact .inr alike.head.areOrdered

theorem placeLess_iff (alike : PartAlike left right) :
    placeLess left right = true ↔ coordinates left < coordinates right := by
  unfold placeLess
  induction left generalizing right with
  | nil => cases right <;> simp [decideParting, coordinates]
  | cons first left ih =>
      cases right with
      | nil => simp [decideParting, coordinates]
      | cons second right =>
          have parting : coordinates (first :: left) < coordinates (second :: right) ↔
              first.coordinate < second.coordinate ∨
                first = second ∧ coordinates left < coordinates right := by
            rw [← alike.head.coordinate_inj]
            exact List.cons_lt_cons_iff
          rw [decideParting, parting]
          by_cases same : first = second
          · subst same
            rw [if_pos (alike.head.same_iff.mpr rfl), ih alike.tail]
            simp
          · rw [if_neg (mt alike.head.same_iff.mp same), alike.head.less_iff]
            simp [same]

end Place

/-! ## Places in a value -/

namespace Value

/-- The part of a value at a place. -/
def part? : Value → Place → Option Value
  | value, [] => some value
  | .object members, .key name :: place =>
      (Members.get? name members).bind fun part => part.part? place
  | .list items, .index position :: place => items[position]?.bind fun part => part.part? place
  | _, _ => none

/-- A place walks through a value: its steps fit the containers of the value, and it ends at the
latest at a key that an object does not have. -/
def Admits : Value → Place → Prop
  | _, [] => True
  | .object members, .key name :: place =>
      (∃ content, name = .text content) ∧
        match Members.get? name members with
        | some part => part.Admits place
        | none => place = []
  | .list items, .index position :: place =>
      ∃ part, items[position]? = some part ∧ part.Admits place
  | _, _ => False

variable {value : Value} {place left right : Place}

/-- An object with texts as keys has members at texts only. -/
theorem exists_text_of_get? {members : Members} {name : Key} {part : Value}
    (texts : ∀ key ∈ members.keys, ∃ content, key = .text content)
    (found : members.get? name = some part) : ∃ content, name = .text content := by
  induction members with
  | nil => cases found
  | cons member members ih =>
      obtain ⟨key, value⟩ := member
      obtain ⟨content, rfl⟩ := texts key List.mem_cons_self
      rw [Members.get?] at found
      split at found
      · rename_i same
        cases name with
        | text other => exact ⟨other, rfl⟩
        | _ => cases same
      · exact ih (fun key later => texts key (List.mem_cons_of_mem _ later)) found

/-- The places of the parts of a document walk through it. -/
theorem IsJson.admits_of_part? (json : value.IsJson) (isPart : (value.part? place).isSome) :
    value.Admits place := by
  induction place generalizing value with
  | nil => cases value <;> trivial
  | cons step place ih =>
      cases json with
      | @object members texts distinct values =>
          cases step with
          | key name =>
              cases found : Members.get? name members with
              | none => simp [part?, found] at isPart
              | some part =>
                  have partJson : part.IsJson := (IsJson.object texts distinct values).get? found
                  rw [part?, found, Option.bind_some] at isPart
                  rw [Admits, found]
                  exact ⟨exists_text_of_get? texts found, ih partJson isPart⟩
          | _ => cases isPart
      | @list items values =>
          cases step with
          | index position =>
              cases found : items[position]? with
              | none => simp [part?, found] at isPart
              | some part =>
                  have partJson : part.IsJson := values part (List.mem_of_getElem? found)
                  rw [part?, found, Option.bind_some] at isPart
                  exact ⟨part, found, ih partJson isPart⟩
          | _ => cases isPart
      | _ => cases step <;> cases isPart

/-- The first steps of two places out of one value are two keys or two positions. -/
theorem Admits.alike {first second : Step} (leftAdmitted : value.Admits (first :: left))
    (rightAdmitted : value.Admits (second :: right)) : first.Alike second := by
  cases value with
  | object members =>
      cases first <;> cases second <;> try contradiction
      obtain ⟨⟨_, rfl⟩, _⟩ := leftAdmitted
      obtain ⟨⟨_, rfl⟩, _⟩ := rightAdmitted
      exact .keys _ _
  | list items =>
      cases first <;> cases second <;> try contradiction
      exact .positions _ _
  | _ => cases first <;> contradiction

/-- Places in one value part by steps out of one container: up to there they are in the same
part. -/
theorem partAlike_of_admits (leftAdmitted : value.Admits left)
    (rightAdmitted : value.Admits right) : Place.PartAlike left right := by
  rintro common first second lefts rights rfl rfl
  induction common generalizing value with
  | nil => exact leftAdmitted.alike rightAdmitted
  | cons step common ih =>
      cases value with
      | object members =>
          cases step with
          | key name =>
              obtain ⟨_, inLeft⟩ := leftAdmitted
              obtain ⟨_, inRight⟩ := rightAdmitted
              cases found : Members.get? name members with
              | none => simp [found] at inLeft
              | some part =>
                  rw [found] at inLeft inRight
                  exact ih inLeft inRight
          | _ => contradiction
      | list items =>
          cases step with
          | index position =>
              obtain ⟨part, isLeft, inLeft⟩ := leftAdmitted
              obtain ⟨_, isRight, inRight⟩ := rightAdmitted
              cases isLeft.symm.trans isRight
              exact ih inLeft inRight
          | _ => contradiction
      | _ => cases step <;> contradiction

end Value

/-! ## Violations -/

/-- A list of violations in the order of their places, those at one place in their old
order. -/
structure ArrangedByPlace (found sorted : List Violation) : Prop where
  perm : sorted.Perm found
  ordered : sorted.Pairwise fun earlier later =>
    earlier.place.coordinates ≤ later.place.coordinates
  stable : ∀ place, (sorted.filter fun violation => violation.place = place) =
    found.filter fun violation => violation.place = place

section

variable {found : List Violation}

/-- Sorting by coordinates arranges any violations. -/
theorem arrangedByPlace_mergeSort (found : List Violation) :
    ArrangedByPlace found (found.mergeSort fun earlier later =>
      decide (earlier.place.coordinates ≤ later.place.coordinates)) := by
  set le : Violation → Violation → Bool := fun earlier later =>
    decide (earlier.place.coordinates ≤ later.place.coordinates)
  have trans : ∀ first second third, le first second = true → le second third = true →
      le first third = true := by
    simp only [le, decide_eq_true_eq]
    exact fun _ _ _ => le_trans
  have total : ∀ first second, (le first second || le second first) = true := by
    simp only [le, Bool.or_eq_true, decide_eq_true_eq]
    exact fun _ _ => le_total _ _
  have perm : (found.mergeSort le).Perm found := List.mergeSort_perm found le
  refine ⟨perm, ?_, fun place => ?_⟩
  · refine (List.pairwise_mergeSort trans total found).imp ?_
    exact fun ordered => of_decide_eq_true ordered
  · -- violations at one place are in order already, so sorting leaves them as a sublist
    set here : Violation → Bool := fun violation => violation.place = place
    have together : (found.filter here).Pairwise fun first second => le first second = true := by
      refine List.pairwise_of_forall_mem_list fun first isFirst second isSecond => ?_
      have firstHere : first.place = place := of_decide_eq_true (List.mem_filter.mp isFirst).2
      have secondHere : second.place = place := of_decide_eq_true (List.mem_filter.mp isSecond).2
      exact decide_eq_true (by rw [firstHere, secondHere])
    have kept : (found.filter here).Sublist (found.mergeSort le) :=
      List.sublist_mergeSort trans total together List.filter_sublist
    have keptHere := kept.filter here
    rw [List.filter_filter] at keptHere
    simp only [Bool.and_self] at keptHere
    exact (keptHere.eq_of_length (perm.filter here).length_eq.symm).symm

/-- Violations whose places part by steps out of one container can be put in order. -/
theorem sortViolations_arranges
    (alike : ∀ left ∈ found, ∀ right ∈ found, Place.PartAlike left.place right.place) :
    ∃ sorted, sortViolations found = .ok sorted ∧ ArrangedByPlace found sorted := by
  have ordered : (found.all fun left => found.all fun right =>
      areOrderedPlaces left.place right.place) = true := by
    simp only [List.all_eq_true]
    exact fun left isLeft right isRight =>
      Place.areOrderedPlaces_of_partAlike (alike left isLeft right isRight)
  have byCoordinates : (found.mergeSort fun left right => !placeLess right.place left.place) =
      found.mergeSort fun earlier later =>
        decide (earlier.place.coordinates ≤ later.place.coordinates) := by
    have same := List.map_mergeSort (f := id) (r := fun left right : Violation =>
      !placeLess right.place left.place) (s := fun earlier later =>
        decide (earlier.place.coordinates ≤ later.place.coordinates)) (l := found) ?_
    · simpa only [List.map_id] using same
    · intro left isLeft right isRight
      rw [Bool.eq_iff_iff, Bool.not_eq_true', ← Bool.not_eq_true,
        Place.placeLess_iff (alike right isRight left isLeft), not_lt, decide_eq_true_eq]
      rfl
  refine ⟨_, if_pos ordered, ?_⟩
  rw [byCoordinates]
  exact arrangedByPlace_mergeSort found

end

/-! ## Findings in a value -/

/-- The place of a violation walks through a value; a fault has no place. -/
def Finding.Within (value : Value) : Finding → Prop
  | .violation found => value.Admits found.place
  | .fault _ => True

/-- All findings are within a value. -/
def AllWithin (value : Value) (findings : List Finding) : Prop :=
  ∀ finding ∈ findings, finding.Within value

theorem Value.admits_nil (value : Value) : value.Admits [] := by
  cases value <;> trivial

theorem Finding.within_here (value : Value) (message : Wording) : (here message).Within value := by
  cases message with
  | ok message => exact value.admits_nil
  | error fault => trivial

namespace AllWithin

variable {value : Value} {findings others : List Finding}

theorem nil : AllWithin value [] := fun _ member => absurd member List.not_mem_nil

theorem here (message : Wording) : AllWithin value [.here message] :=
  List.forall_mem_singleton.mpr (Finding.within_here value message)

theorem append (first : AllWithin value findings) (second : AllWithin value others) :
    AllWithin value (findings ++ others) :=
  List.forall_mem_append.mpr ⟨first, second⟩

theorem flatMap {α : Type} {items : List α} {each : α → List Finding}
    (within : ∀ item ∈ items, AllWithin value (each item)) :
    AllWithin value (items.flatMap each) := by
  intro finding isFinding
  obtain ⟨item, isItem, isFound⟩ := List.mem_flatMap.mp isFinding
  exact within item isItem finding isFound

theorem attempt {α : Type} {outcome : Except Fault α} {next : α → List Finding}
    (within : ∀ answer, outcome = .ok answer → AllWithin value (next answer)) :
    AllWithin value (Finding.attempt outcome next) := by
  cases outcome with
  | ok answer => exact within answer rfl
  | error fault => exact List.forall_mem_singleton.mpr trivial

theorem ite {condition : Prop} [Decidable condition] (first : AllWithin value findings)
    (second : AllWithin value others) :
    AllWithin value (if condition then findings else others) := by
  split
  · exact first
  · exact second

theorem passed (passed : Bool) (message : Wording) :
    AllWithin value (Finding.require passed message) := by
  cases passed with
  | true => exact nil
  | false => exact here message

theorem require (test : Except Fault Bool) (message : Wording) :
    AllWithin value (Keyword.require test message) :=
  attempt fun answer _ => passed answer message

theorem forbid (test : Except Fault Bool) (message : Wording) :
    AllWithin value (Keyword.forbid test message) :=
  require _ message

/-- What is within a member is within the object, seen from there. -/
theorem member {members : Members} {content : String} {part : Value}
    (isPart : members.get? content = some part) (within : AllWithin part findings) :
    AllWithin (.object members) (findings.map (Finding.below (.key content))) := by
  refine List.forall_mem_map.mpr fun finding isFinding => ?_
  cases finding with
  | fault fault => trivial
  | violation found =>
      refine ⟨⟨content, rfl⟩, ?_⟩
      rw [isPart]
      exact within _ isFinding

/-- What is within an element is within the list, seen from there. -/
theorem element {items : List Value} {position : Nat} {part : Value}
    (isPart : items[position]? = some part) (within : AllWithin part findings) :
    AllWithin (.list items) (findings.map (Finding.below (.index position))) := by
  refine List.forall_mem_map.mpr fun finding isFinding => ?_
  cases finding with
  | fault fault => trivial
  | violation found => exact ⟨part, isPart, within _ isFinding⟩

/-- What is found in a text is found at the text itself, so it is within every value. -/
theorem of_text {content : String} (within : AllWithin (.text content) findings) :
    AllWithin value findings := by
  intro finding isFinding
  cases finding with
  | fault fault => trivial
  | violation found =>
      have admitted : (Value.text content).Admits found.place := within _ isFinding
      have here : found.place = [] := by
        cases place : found.place with
        | nil => rfl
        | cons step steps =>
            rw [place] at admitted
            cases step <;> exact admitted.elim
      change value.Admits found.place
      rw [here]
      exact value.admits_nil

end AllWithin

/-! ## Keywords -/

/-- What the parts of a schema find in a document is within it. -/
def SchemaChecks.StayWithin (checks : SchemaChecks) : Prop :=
  ∀ scope viewpoint schema (value : Value), value.IsJson →
    AllWithin value (checks.descend scope viewpoint schema value)

namespace Keyword

variable {checks : SchemaChecks} {task : KeywordTask}

/-! ### Values of every kind -/

section

variable (within : checks.StayWithin) (json : task.value.IsJson)

include within json

theorem everySchema_within : AllWithin task.value (everySchema checks task) :=
  .attempt fun _ _ => .flatMap fun _ _ => within _ _ _ _ json

theorem extended_within : AllWithin task.value (extended checks task) := by
  unfold extended
  split
  · exact within _ _ _ _ json
  · exact everySchema_within within json

theorem condition_within : AllWithin task.value (condition checks task) := by
  refine .attempt fun holds _ => ?_
  split
  · exact within _ _ _ _ json
  · exact .nil

theorem atTarget_within (found : Except Fault (Value × Viewpoint)) :
    AllWithin task.value (atTarget checks task found) :=
  .attempt fun _ _ => within _ _ _ _ json

end

theorem someSchema_within : AllWithin task.value (someSchema checks task) := by
  refine .attempt fun _ _ => .attempt fun found _ => ?_
  split
  · exact .nil
  · exact .here _

theorem oneSchema_within : AllWithin task.value (oneSchema checks task) := by
  refine .attempt fun _ _ => .attempt fun found _ => ?_
  split
  · exact .here _
  · exact .attempt fun _ _ => .passed _ _

theorem onAny_within (within : checks.StayWithin) (json : task.value.IsJson) (name : String) :
    AllWithin task.value (onAny checks task name) := by
  unfold onAny
  split
  · exact atTarget_within within json _
  · exact atTarget_within within json _
  · exact atTarget_within within json _
  · split
    · exact .attempt fun _ _ => .require _ _
    · exact .attempt fun _ _ => .require _ _
  · exact .attempt fun _ _ => .flatMap fun _ _ => .forbid _ _
  · exact extended_within within json
  · exact .attempt fun _ _ => .require _ _
  · exact .require _ _
  · exact everySchema_within within json
  · exact someSchema_within
  · exact oneSchema_within
  · exact .forbid _ _
  · exact condition_within within json
  · exact .nil

theorem onNumber_within (name : String) : AllWithin task.value (onNumber task name) := by
  unfold onNumber
  split
  · unfold minimum
    split <;> exact .forbid _ _
  · unfold maximum
    split <;> exact .forbid _ _
  · exact .forbid _ _
  · exact .forbid _ _
  · exact .require _ _
  · exact .require _ _
  · exact .nil

theorem onText_within (name content : String) :
    AllWithin task.value (onText task name content) := by
  unfold onText
  split
  · exact .forbid _ _
  · exact .forbid _ _
  · exact .require _ _
  · unfold format
    split
    · exact .require _ _
    · exact .nil
  · exact .nil

/-! ### Lists -/

section

variable (within : checks.StayWithin) {items : List Value} (json : (Value.list items).IsJson)

include within json

theorem insideAt_element_within (schema : Value) {position : Nat} {part : Value}
    (isPart : items[position]? = some part) :
    AllWithin (.list items) (insideAt checks task (.index position) schema part) :=
  .element isPart
    (within _ _ _ _ (Value.isJson_list_iff.mp json part (List.mem_of_getElem? isPart)))

/-- The elements behind a position are those of the list from there on. -/
theorem insideItems_within (schema : Value) (first : Nat) :
    AllWithin (.list items) (insideItems checks task schema first (items.drop first)) := by
  intro finding isFinding
  obtain ⟨findings, isInside, isFinding⟩ := List.mem_flatten.mp isFinding
  obtain ⟨offset, bound, rfl⟩ := List.mem_mapIdx.mp isInside
  refine insideAt_element_within within json schema ?_ finding isFinding
  rw [List.getElem_drop]
  exact List.getElem?_eq_getElem _

theorem insidePairs_within (schemas : List Value) (first : Nat) :
    AllWithin (.list items) (insidePairs checks task first schemas (items.drop first)) := by
  induction schemas generalizing first with
  | nil => exact .nil
  | cons schema schemas ih =>
      cases rest : items.drop first with
      | nil => exact .nil
      | cons item others =>
          have isPart : items[first]? = some item := by
            rw [← List.head?_drop, rest]
            rfl
          have later : items.drop (first + 1) = others := by
            rw [← List.tail_drop, rest]
            rfl
          exact .append (insideAt_element_within within json schema isPart) (later ▸ ih (first + 1))

theorem itemsInTurn_within :
    AllWithin (.list items) (itemsInTurn checks task items) :=
  .attempt fun schemas _ => insidePairs_within within json schemas 0

theorem itemsBehind_within : AllWithin (.list items) (itemsBehind checks task items) := by
  refine .attempt fun before _ => ?_
  dsimp only
  split
  · exact .nil
  · split
    · exact .here _
    · exact insideItems_within within json _ before

theorem itemSchemas_within : AllWithin (.list items) (itemSchemas checks task items) :=
  .ite (itemsBehind_within within json)
    (.ite (itemsInTurn_within within json) (insideItems_within within json _ 0))

theorem additionalItems_within : AllWithin (.list items) (additionalItems checks task items) := by
  unfold additionalItems
  split
  · exact .nil
  · refine .attempt fun before _ => ?_
    dsimp only
    split
    · exact insideItems_within within json _ before
    · exact .passed _ _

theorem onList_within (name : String) :
    AllWithin (.list items) (onList checks task items name) := by
  unfold onList
  split
  · exact itemSchemas_within within json
  · exact itemsInTurn_within within json
  · exact additionalItems_within within json
  · exact .attempt fun _ _ => .passed _ _
  · split
    · exact .require _ _
    · exact .require _ _
    · refine .attempt fun _ _ => ?_
      dsimp only
      split
      · exact .here _
      · exact .forbid _ _
  · exact .forbid _ _
  · exact .forbid _ _
  · unfold uniqueItems
    split
    · exact .require _ _
    · exact .nil
  · exact .nil

end

/-! ### Objects -/

section

variable (within : checks.StayWithin) {members : Members} (json : (Value.object members).IsJson)

include within json

theorem insideMember_within (schema : Value) {key : Key} {part : Value}
    (isPart : members.get? key = some part) :
    AllWithin (.object members) (insideMember checks task schema (key, part)) := by
  obtain ⟨content, rfl⟩ := Value.exists_text_of_get? json.textKeyed.texts isPart
  exact .member isPart (within _ _ _ _ (json.get? isPart))

omit within json in
/-- What an object lacks is told at the key that says so, which the object may lack too. -/
theorem requiredBySchema_within (property : Key × Value) :
    AllWithin (.object members) (requiredBySchema property) := by
  refine .attempt fun required _ => List.forall_mem_map.mpr fun finding isFinding => ?_
  unfold Finding.require at isFinding
  split at isFinding
  · cases isFinding
  · obtain rfl := List.mem_singleton.mp isFinding
    cases property.1.toValue.wording ++ Wording.plain " is a required property" with
    | error fault => trivial
    | ok message =>
        refine ⟨⟨"required", rfl⟩, ?_⟩
        split
        · exact Value.admits_nil _
        · rfl

theorem properties_within : AllWithin (.object members) (properties checks task members) := by
  refine .attempt fun entries _ => .flatMap fun entry _ => ?_
  split
  · rename_i isPart
    exact insideMember_within within json _ isPart
  · exact .ite (requiredBySchema_within entry) .nil

theorem patternProperties_within :
    AllWithin (.object members) (patternProperties checks task members) := by
  refine .attempt fun patterns _ => .flatMap fun pattern _ => .flatMap fun member isMember => ?_
  refine .attempt fun found _ => .ite ?_ .nil
  obtain ⟨key, part⟩ := member
  obtain ⟨content, rfl⟩ := json.textKeyed.texts key (List.mem_map_of_mem isMember)
  exact insideMember_within within json _ (json.textKeyed.get?_of_mem isMember)

omit within json in
theorem mem_keys_of_additionalKeys {extras : List Key}
    (isExtra : additionalKeys task members = .ok extras) {key : Key} (isKey : key ∈ extras) :
    key ∈ members.keys := by
  obtain ⟨patterns, _, filtered⟩ := Except.bind_eq_ok.mp isExtra
  obtain ⟨_, rfl⟩ := Except.filterM_eq_ok.mp filtered
  exact (List.mem_filter.mp isKey).1

theorem additionalProperties_within :
    AllWithin (.object members) (additionalProperties checks task members) := by
  refine .attempt fun extras areExtra => ?_
  split
  · refine .flatMap fun key isExtra => ?_
    have isKey := mem_keys_of_additionalKeys areExtra isExtra
    obtain ⟨content, rfl⟩ := json.textKeyed.texts key isKey
    obtain ⟨⟨_, part⟩, isMember, rfl⟩ := List.mem_map.mp isKey
    have isPart := json.textKeyed.get?_of_mem isMember
    rw [Members.getD, isPart, Option.getD_some]
    exact insideMember_within within json _ isPart
  · refine .ite .nil ?_
    unfold additionalViolation
    split
    · exact .attempt fun _ _ => .here _
    · exact .here _

theorem propertyNames_within :
    AllWithin (.object members) (propertyNames checks task members) := by
  refine .flatMap fun key isKey => ?_
  obtain ⟨content, rfl⟩ := json.textKeyed.texts key isKey
  exact .of_text (within _ _ _ _ (.text content))

omit within json in
theorem presentWith_within (property : Key) (keys : List Value) :
    AllWithin (.object members) (presentWith members property keys) :=
  .flatMap fun _ _ => .require _ _

omit within json in
theorem forKeysOf_within {demand : Key × Value → List Finding}
    (demanded : ∀ entry, AllWithin (.object members) (demand entry)) :
    AllWithin (.object members) (forKeysOf task members demand) :=
  .attempt fun _ _ => .flatMap fun entry _ => .ite (demanded entry) .nil

theorem dependency_within (isValue : task.value = .object members) (entry : Key × Value) :
    AllWithin (.object members) (dependency checks task members entry) := by
  have inside_within : ∀ schema, AllWithin (.object members)
      (inside checks task schema task.value) :=
    fun schema => isValue ▸ within _ _ _ _ (isValue ▸ json)
  unfold dependency
  split
  · exact inside_within _
  · exact presentWith_within _ _
  · exact .attempt fun _ _ => presentWith_within _ _
  · exact presentWith_within _ _
  · exact inside_within _

theorem onObject_within (isValue : task.value = .object members) (name : String) :
    AllWithin (.object members) (onObject checks task members name) := by
  unfold onObject
  split
  · exact properties_within within json
  · exact patternProperties_within within json
  · exact additionalProperties_within within json
  · exact .attempt fun _ _ => .passed _ _
  · exact propertyNames_within within json
  · exact .attempt fun _ _ => .flatMap fun _ _ => .require _ _
  · exact forKeysOf_within (dependency_within within json isValue)
  · exact forKeysOf_within fun _ => .attempt fun _ _ => presentWith_within _ _
  · exact forKeysOf_within fun _ => isValue ▸ within _ _ _ _ (isValue ▸ json)
  · exact .forbid _ _
  · exact .forbid _ _
  · exact .nil

end

/-! ### Schemas -/

theorem findings_within (within : checks.StayWithin) (json : task.value.IsJson) (name : String) :
    AllWithin task.value (findings checks task name) := by
  refine .append (onAny_within within json name) ?_
  split
  · exact onText_within name _
  · rename_i items isValue
    rw [isValue] at json ⊢
    exact onList_within within json name
  · rename_i members isValue
    rw [isValue] at json ⊢
    exact onObject_within within json isValue name
  · exact .ite (onNumber_within name) .nil

theorem allFindings_within (within : checks.StayWithin) {value : Value} (json : value.IsJson)
    (scope : SchemaScope) (schema keywords : Members) :
    AllWithin value (allFindings checks scope schema keywords value) := by
  refine .flatMap fun (key, operand) _ => ?_
  cases key with
  | text name =>
      exact .ite (@findings_within checks { scope, schema, operand, value } within json name) .nil
  | _ => exact .nil

end Keyword

namespace Schema

theorem descend_within {checks : SchemaChecks} (within : checks.StayWithin) (scope : SchemaScope)
    (viewpoint : Option Viewpoint) (schema : Value) {value : Value} (json : value.IsJson) :
    AllWithin value (descend checks scope viewpoint schema value) := by
  unfold descend
  split
  · exact .ite .nil (.here _)
  · exact .attempt fun _ _ => Keyword.allFindings_within within json _ _ _

theorem checksWithin_stayWithin (fuel : Nat) : (checksWithin fuel).StayWithin := by
  induction fuel with
  | zero => exact fun _ _ _ _ _ => List.forall_mem_singleton.mpr trivial
  | succ fuel ih =>
      exact fun scope viewpoint schema value json => descend_within ih scope viewpoint schema json

/-- What the validation of a document finds is within it. -/
theorem findings_within (schema : Value) {document : Value} (json : document.IsJson) :
    AllWithin document (findings schema document) := by
  refine .attempt fun (scope, members, found) isStart => ?_
  dsimp only
  split
  · exact Keyword.allFindings_within (checksWithin_stayWithin _) json _ _ _
  · obtain ⟨viewpoint, _, started⟩ := Except.bind_eq_ok.mp isStart
    dsimp only at started
    split at started
    · cases started
      exact .ite .nil (.here _)
    · obtain ⟨_, _, read⟩ := Except.bind_eq_ok.mp started
      obtain ⟨_, _, read⟩ := Except.bind_eq_ok.mp read
      cases read

theorem admits_of_violations {schema document : Value} (json : document.IsJson)
    {found : List Violation}
    (violations : Finding.violations (findings schema document) = .ok found) :
    ∀ violation ∈ found, document.Admits violation.place := by
  have within := findings_within schema json
  generalize findings schema document = stream at violations within
  induction stream generalizing found with
  | nil =>
      cases violations
      simp
  | cons finding stream ih =>
      obtain ⟨first, later⟩ := List.forall_mem_cons.mp within
      cases finding with
      | fault fault => cases violations
      | violation violation =>
          obtain ⟨rest, areRest, rfl⟩ := Except.map_eq_ok.mp violations
          exact List.forall_mem_cons.mpr ⟨first, ih areRest later⟩

end Schema

/-! ## Refusals -/

/-- Sorting the violations of a document is always defined.  The places of any violations at
parts of a document part by two keys or by two positions, and the violations can be put in the
order of their places, those at one place in their old order.  A collection refuses a document
in which its validator finds violations at such places, with the messages in that order, and it
refuses no other one.  What the schemas of draft 7 find is at such places, or at a key that is
missing in one. -/
theorem violations_sorted {document : Value} (json : document.IsJson) :
    (∀ found : List Violation,
      (∀ violation ∈ found, (document.part? violation.place).isSome) →
        (∀ left ∈ found, ∀ right ∈ found, Place.PartAlike left.place right.place) ∧
        ∃ sorted, sortViolations found = .ok sorted ∧ ArrangedByPlace found sorted) ∧
    (∀ (catalog : SchemaCatalog) (collection : Key) (validator : Validator)
        (found : List Violation),
      catalog.get? collection = some validator →
      Finding.violations (validator document) = .ok found →
      (∀ violation ∈ found,
        (document.part? violation.place).isSome ∨ document.Admits violation.place) →
        ∃ sorted, sortViolations found = .ok sorted ∧ ArrangedByPlace found sorted ∧
          (found = [] → catalog.validate collection document = .ok ()) ∧
          (found ≠ [] → catalog.validate collection document =
            .error (.store (.documentInvalid collection (sorted.map Violation.message))))) ∧
    ∀ (schema : Value) (found : List Violation),
      Finding.violations (SchemaLibrary.draft7.validator schema document) = .ok found →
        ∀ violation ∈ found, document.Admits violation.place := by
  refine ⟨?_, ?_, fun schema found => Schema.admits_of_violations json⟩
  · intro found areParts
    have alike : ∀ left ∈ found, ∀ right ∈ found, Place.PartAlike left.place right.place :=
      fun left isLeft right isRight =>
        Value.partAlike_of_admits (json.admits_of_part? (areParts left isLeft))
          (json.admits_of_part? (areParts right isRight))
    exact ⟨alike, sortViolations_arranges alike⟩
  · intro catalog collection validator found isKept violations located
    have admitted : ∀ violation ∈ found, document.Admits violation.place :=
      fun violation member => (located violation member).elim json.admits_of_part? id
    obtain ⟨sorted, isSorted, arranged⟩ := sortViolations_arranges fun left isLeft right isRight =>
      Value.partAlike_of_admits (admitted left isLeft) (admitted right isRight)
    have reported : validator.violations document = .ok sorted := by
      rw [Validator.violations, violations]
      exact isSorted
    refine ⟨sorted, isSorted, arranged, fun isEmpty => ?_, fun nonempty => ?_⟩
    · have noneSorted : sorted = [] := List.Perm.eq_nil (isEmpty ▸ arranged.perm)
      rw [SchemaCatalog.validate, isKept]
      dsimp only
      rw [reported, noneSorted]
    · have someSorted : sorted ≠ [] := fun isEmpty =>
        nonempty (List.Perm.eq_nil (isEmpty ▸ arranged.perm.symm))
      rw [SchemaCatalog.validate, isKept]
      dsimp only
      rw [reported]
      cases sorted with
      | nil => exact absurd rfl someSorted
      | cons first others => rfl

/-- Keywords come upon elements of a list, then a text, and last the document itself, which comes
first in the order. -/
theorem violations_sorted_nestedList :
    let document : Value :=
      .object [("tags", .list [.int 1, .text "x", .list [.null]]), ("id", .text "u")]
    let schema : Value :=
      .object
        [ ("properties", .object
            [ ("tags", .object
                [ ("items", .object [("type", .text "string")]), ("maxItems", .int 2) ]),
              ("id", .object [("type", .text "integer")]) ]),
          ("required", .list [.text "name"]) ]
    let validator := SchemaLibrary.draft7.validator schema
    let catalog : SchemaCatalog := [("users", validator)]
    let found : List Violation :=
      [ ⟨[.key "tags", .index 0], "1 is not of type 'string'"⟩,
        ⟨[.key "tags", .index 2], "[None] is not of type 'string'"⟩,
        ⟨[.key "tags"], "[1, 'x', [None]] is too long"⟩,
        ⟨[.key "id"], "'u' is not of type 'integer'"⟩,
        ⟨[], "'name' is a required property"⟩ ]
    document.IsJson ∧ (∀ violation ∈ found, (document.part? violation.place).isSome) ∧
      (∃ sorted, sortViolations found = .ok sorted ∧ ArrangedByPlace found sorted) ∧
      Finding.violations (validator document) = .ok found ∧
      catalog.validate "users" document =
        .error (.store (.documentInvalid "users"
          [ "'name' is a required property", "'u' is not of type 'integer'",
            "[1, 'x', [None]] is too long", "1 is not of type 'string'",
            "[None] is not of type 'string'" ])) := by
  intro document schema validator catalog found
  have json : document.IsJson := by
    simp [document, Value.isJson_object_iff, Value.isJson_list_iff, Members.keys,
      Value.IsJson.null, Value.IsJson.int, Value.IsJson.text]
  have areParts : ∀ violation ∈ found, (document.part? violation.place).isSome := by
    decide +kernel
  have violations : Finding.violations (validator document) = .ok found := by
    decide +kernel
  obtain ⟨sorts, refusal, admits⟩ := violations_sorted json
  refine ⟨json, areParts, (sorts found areParts).2, violations, ?_⟩
  obtain ⟨sorted, isSorted, _, _, refuses⟩ :=
    refusal catalog "users" validator found rfl violations fun violation member =>
      .inr (admits schema found violations violation member)
  have inOrder : (sortViolations found).map (List.map Violation.message) = .ok
      [ "'name' is a required property", "'u' is not of type 'integer'",
        "[1, 'x', [None]] is too long", "1 is not of type 'string'",
        "[None] is not of type 'string'" ] := by
    cbv
  rw [isSorted] at inOrder
  rw [refuses (List.cons_ne_nil _ _), Except.ok.inj inOrder]

end DocStore
