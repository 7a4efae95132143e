import DocStore.Number.Decimal
import DocStore.Proofs.FieldPaths
import DocStore.Proofs.Path.ArrayText
import DocStore.Proofs.Path.KeyText
import Mathlib.Data.Option.Basic

/-!
# One path in both dialects

Each engine follows the steps that it reads of a path.  Both take the member of an object by
its name.  In a list Postgres takes an element if the step is an integer, and MySQL takes
nothing at all.

Two lists of steps select the same from every document exactly if they are the same names and
no name after the first is an integer.  A document with one value at the end of the names
tells other names apart, and a document with a list on the way tells an integer.
-/

namespace DocStore

open Sql
open Members (get?_single textKeyed_single)

/-! ## Steps -/

/-- The subscript that a step stands for: digits with blanks and a sign before them, in the
range of an integer of 32 bits. -/
def subscript? (step : String) : Option Int :=
  let (negative, digits) := Decimal.takeSign (step.toList.dropWhile isArrayBlank)
  let magnitude := Decimal.natOfDigits digits
  if !digits.isEmpty && digits.all Char.isDigit && magnitude < 2147483648 then
    some (if negative then -magnitude else magnitude)
  else none

/-- The element of a list at a subscript; a negative one counts from the end. -/
def elementAt? (items : List Value) (subscript : Int) : Option Value :=
  if 0 ≤ subscript then items[subscript.natAbs]?
  else if subscript.natAbs ≤ items.length then items[items.length - subscript.natAbs]?
  else none

/-- What a step selects from a list. -/
def Dialect.element? : Dialect → List Value → String → Option Value
  | .postgres, items, step => (subscript? step).bind (elementAt? items)
  | .mysql, _, _ => none

/-- The names of steps, if no step is NULL. -/
def stepNames? : List (Option String) → Option (List String)
  | [] => some []
  | none :: _ => none
  | some name :: steps => (stepNames? steps).map (name :: ·)

/-- What steps select from a document.  A step that is NULL selects nothing. -/
def Dialect.follow (dialect : Dialect) (steps : List (Option String)) (document : Members) :
    Option Value :=
  (stepNames? steps).bind fun names => Value.located dialect.element? names (.object document)

/-- What the expression of a path selects from a document, if the engine can read it. -/
def Dialect.selected? (dialect : Dialect) (admits : Char → Bool) (path : String)
    (document : Members) : Option (Option Value) :=
  match dialect with
  | .postgres =>
      (jsonPath .postgres path).arraySteps?.map fun steps => follow .postgres steps document
  | .mysql =>
      ((jsonPath .mysql path).keyPath? admits).map fun keys =>
        follow .mysql (keys.map some) document

theorem stepNames?_eq_some_iff {steps : List (Option String)} {names : List String} :
    stepNames? steps = some names ↔ steps = names.map some := by
  induction steps generalizing names with
  | nil => cases names <;> simp [stepNames?]
  | cons step steps ih =>
      cases step with
      | none => cases names <;> simp [stepNames?]
      | some name => cases names <;> simp [stepNames?, ih, and_comm]

theorem Dialect.follow_names (dialect : Dialect) (names : List String) (document : Members) :
    dialect.follow (names.map some) document =
      Value.located dialect.element? names (.object document) := by
  rw [follow, stepNames?_eq_some_iff.mpr rfl, Option.bind_some]

/-! ## Locations -/

namespace Value

variable {element? : List Value → String → Option Value} {value : Value}

theorem located_congr {left right : List Value → String → Option Value} {segments : List String}
    (alike : ∀ segment ∈ segments, ∀ items, left items segment = right items segment)
    (value : Value) : value.located left segments = value.located right segments := by
  induction segments generalizing value with
  | nil => rfl
  | cons segment segments ih =>
      obtain ⟨first, others⟩ := List.forall_mem_cons.mp alike
      have tails : located left segments = located right segments := funext (ih others)
      cases value <;> simp [located, first, tails]

/-- Steps lead to the value at the end of other steps and go on from there. -/
theorem located_nested_append (value : Value) (front back : List String) :
    (value.nested front).located element? (front ++ back) = value.located element? back := by
  induction front with
  | nil => rfl
  | cons segment front ih => simpa [nested, located, get?_single] using ih

/-- A text at the end of names is found by these names only. -/
theorem eq_of_located_nested {names keys : List String} {content : String}
    (found : ((Value.text content).nested names).located element? keys = some (.text content)) :
    keys = names := by
  induction names generalizing keys with
  | nil =>
      cases keys with
      | nil => rfl
      | cons key keys => simp [nested, located] at found
  | cons name names ih =>
      cases keys with
      | nil => simp [nested, located] at found
      | cons key keys =>
          rw [nested, located, get?_single] at found
          split at found
          · rename_i same
            rw [same, ih found]
          · cases found

end Value

theorem elementAt?_replicate (value : Value) (subscript : Int) :
    elementAt? (List.replicate (subscript.natAbs + 1) value) subscript = some value := by
  unfold elementAt?
  split
  · exact List.getElem?_replicate_of_lt (Nat.lt_succ_self _)
  · rename_i negative
    have some : 0 < subscript.natAbs := Int.natAbs_pos.mpr (by omega)
    rw [List.length_replicate, if_pos (Nat.le_succ _)]
    exact List.getElem?_replicate_of_lt (by omega)

/-! ## Steps of both dialects -/

/-- Names that are no integers after the first lead to the same location. -/
theorem located_element?_eq {names : List String}
    (noSubscript : ∀ name ∈ names.tail, subscript? name = none) (document : Members) :
    Value.located (Dialect.element? .postgres) names (.object document) =
      Value.located (Dialect.element? .mysql) names (.object document) := by
  cases names with
  | nil => rfl
  | cons name names =>
      have tails : Value.located (Dialect.element? .postgres) names =
          Value.located (Dialect.element? .mysql) names :=
        funext (Value.located_congr fun step member items => by
          rw [Dialect.element?, noSubscript step member]
          rfl)
      rw [Value.located, Value.located, tails]

/-- Postgres takes an element of a list on the way where MySQL finds nothing. -/
theorem exists_follow_ne (first : String) {name : String} {names : List String}
    {subscript : Int} (isSubscript : subscript? name = some subscript) (member : name ∈ names) :
    ∃ document : Members, document.TextKeyed ∧
      Dialect.follow .postgres ((first :: names).map some) document ≠
        Dialect.follow .mysql ((first :: names).map some) document := by
  obtain ⟨front, back, rfl⟩ := List.append_of_mem member
  let element := (Value.text "value").nested back
  let items := List.replicate (subscript.natAbs + 1) element
  have keyed : (Value.list items).hasTextKeys = true := by
    refine Value.hasTextKeys_list.mpr fun item isItem => ?_
    rw [List.eq_of_mem_replicate isItem]
    exact Value.hasTextKeys_nested rfl back
  have reaches (element? : List Value → String → Option Value) :
      Value.located element? (first :: (front ++ name :: back))
          (.object [(first, (Value.list items).nested front)]) =
        (element? items name).bind (Value.located element? back) :=
    Value.located_nested_append (.list items) (first :: front) (name :: back)
  refine ⟨[(first, (Value.list items).nested front)],
    textKeyed_single (Value.hasTextKeys_nested keyed front), ?_⟩
  rw [Dialect.follow_names, Dialect.follow_names, reaches, reaches, Dialect.element?,
    isSubscript, Option.bind_some, elementAt?_replicate, Option.bind_some,
    Value.located_nested]
  exact Option.some_ne_none _

/-- Steps select the same from every document exactly if they are the same names, none of
them after the first an integer. -/
theorem follow_alike_iff {steps : List (Option String)} {keys : List String} :
    (∀ document : Members, document.TextKeyed →
      Dialect.follow .postgres steps document = Dialect.follow .mysql (keys.map some) document) ↔
      steps = keys.map some ∧ ∀ name ∈ keys.tail, subscript? name = none := by
  constructor
  · intro alike
    have same : steps = keys.map some := by
      rw [← stepNames?_eq_some_iff]
      cases keys with
      | nil =>
          obtain ⟨names, read, root⟩ :=
            Option.bind_eq_some_iff.mp (alike [] Members.TextKeyed.nil)
          cases names with
          | nil => exact read
          | cons name names => cases root
      | cons first rest =>
          have found := alike [(first, (Value.text "value").nested rest)]
            (textKeyed_single (Value.hasTextKeys_nested rfl rest))
          have present := Value.located_nested (Dialect.element? .mysql) (.text "value")
            (first :: rest)
          rw [Dialect.follow_names] at found
          obtain ⟨names, read, located⟩ := Option.bind_eq_some_iff.mp (found.trans present)
          have same : names = first :: rest := Value.eq_of_located_nested located
          rw [read, same]
    refine ⟨same, ?_⟩
    cases keys with
    | nil => simp
    | cons first rest =>
        intro name member
        cases subscript : subscript? name with
        | none => rfl
        | some index =>
            obtain ⟨document, keyed, differs⟩ := exists_follow_ne first subscript member
            rw [same] at alike
            exact absurd (alike document keyed) differs
  · rintro ⟨rfl, noSubscript⟩ document _
    rw [Dialect.follow_names, Dialect.follow_names, located_element?_eq noSubscript]

/-! ## Portable paths -/

/-- A path that leads to the same location in both dialects. -/
structure IsPortable (admits : Char → Bool) (path : String) : Prop where
  /-- MySQL has no expression for the whole document. -/
  nonempty : splitPath path ≠ []
  /-- A segment in quotes has no quote, no backslash and no character that MySQL refuses. -/
  plain : ∀ segment ∈ splitPath path, HoldsPlainly admits segment
  /-- The arrow of Postgres keeps a line feed, which MySQL takes for a blank. -/
  trimmed : ∀ segment, splitPath path = [segment] → isSimpleKey segment = true →
    segment.toList.getLast? ≠ some '\n'
  /-- A bare `null` among other segments is NULL in Postgres. -/
  noNull : (splitPath path).length ≠ 1 → ∀ segment ∈ splitPath path,
    isSimpleKey segment = true → isNullWord (bareName segment).toList = false
  /-- An integer after the first segment selects from lists in Postgres. -/
  noSubscript : ∀ segment ∈ (splitPath path).tail, subscript? segment = none

theorem heldElement_eq_some_iff {segment name : String} :
    heldElement segment = some name ↔ heldKey segment = name ∧
      (isSimpleKey segment = true → isNullWord (bareName segment).toList = false) := by
  unfold heldElement heldKey
  cases isSimpleKey segment with
  | true => cases isNullWord (bareName segment).toList <;> simp
  | false => simp

theorem map_heldElement_eq_iff {segments names : List String} :
    segments.map heldElement = names.map some ↔ segments.map heldKey = names ∧
      ∀ segment ∈ segments, isSimpleKey segment = true →
        isNullWord (bareName segment).toList = false := by
  induction segments generalizing names with
  | nil =>
      simp only [List.map_nil, List.nil_eq, List.map_eq_nil_iff, List.not_mem_nil,
        false_implies, implies_true, and_true]
  | cons segment segments ih =>
      cases names with
      | nil => simp only [List.map_cons, List.map_nil, reduceCtorEq, false_and]
      | cons name names =>
          simp only [List.map_cons, List.cons.injEq, heldElement_eq_some_iff, ih,
            List.forall_mem_cons]
          tauto

theorem subscript?_of_isNameStart {step : String} {first : Char} {rest : List Char}
    (letters : step.toList = first :: rest) (isStart : isNameStart first = true)
    (isPart : isNamePart first = true) : subscript? step = none := by
  have noDigit : first.isDigit = false :=
    of_isNamePart (fun character => isNameStart character = true → character.isDigit = false)
      (by decide +kernel) isPart isStart
  have noSign : Decimal.takeSign (first :: rest) = (false, first :: rest) := by
    rw [Decimal.takeSign]
    all_goals
      rintro rest ⟨⟩
      exact absurd isStart (by decide)
  have noBlank : (first :: rest).dropWhile isArrayBlank = first :: rest :=
    List.dropWhile_cons_of_neg (by simp [isArrayBlank_of_isNamePart isPart])
  rw [subscript?, letters, noBlank, noSign]
  simp [noDigit]

/-- No plain name is an integer, with a line feed or without it. -/
theorem subscript?_heldKey (segment : String) :
    subscript? (heldKey segment) = subscript? segment := by
  unfold heldKey
  split
  · rename_i simple
    obtain ⟨first, rest, body, isStart, parts, letters⟩ := isSimpleKey_cases simple
    have isPart := parts first List.mem_cons_self
    have bare : (bareName segment).toList = first :: rest := by
      rw [bareName, String.toList_ofList, body]
    rw [subscript?_of_isNameStart bare isStart isPart]
    rcases letters with same | same <;> rw [subscript?_of_isNameStart same isStart isPart]
  · rfl

/-- A path is portable exactly if both engines read the same names of it, none of them after
the first an integer. -/
theorem isPortable_iff {admits : Char → Bool} {path : String} :
    IsPortable admits path ↔ ∃ keys, (Dialect.jsonPath .mysql path).keyPath? admits = some keys ∧
      heldSteps path = keys.map some ∧ ∀ name ∈ keys.tail, subscript? name = none := by
  rcases heldSteps_cases path with ⟨segment, one, _, _, steps⟩ | ⟨nested, _, steps⟩
  · constructor
    · intro portable
      refine ⟨[segment], ?_, steps, by simp⟩
      rw [← one, keyPath?_jsonPath_eq_segments_iff]
      refine ⟨portable.nonempty, fun other member => ⟨?_, portable.plain other member⟩⟩
      obtain rfl : other = segment := by simpa [one] using member
      exact (eq_heldKey_iff other).mpr (portable.trimmed other one)
    · rintro ⟨keys, read, same, _⟩
      obtain rfl : [segment] = keys :=
        List.map_injective_iff.mpr (Option.some_injective String) (steps.symm.trans same)
      rw [← one, keyPath?_jsonPath_eq_segments_iff] at read
      refine ⟨read.1, fun other member => (read.2 other member).2, fun other isOne => ?_,
        fun several => absurd (by simp [one]) several, by simp [one]⟩
      exact (eq_heldKey_iff other).mp (read.2 other (by simp [isOne])).1
  · have several : (splitPath path).length ≠ 1 := by simpa [isNested] using nested
    have tail : (∀ name ∈ ((splitPath path).map heldKey).tail, subscript? name = none) ↔
        ∀ segment ∈ (splitPath path).tail, subscript? segment = none := by
      rw [← List.map_tail, List.forall_mem_map]
      simp only [subscript?_heldKey]
    constructor
    · intro portable
      exact ⟨(splitPath path).map heldKey,
        keyPath?_jsonPath_eq_held_iff.mpr ⟨portable.nonempty, portable.plain⟩,
        steps.trans (map_heldElement_eq_iff.mpr ⟨rfl, portable.noNull several⟩),
        tail.mpr portable.noSubscript⟩
    · rintro ⟨keys, read, same, noSubscript⟩
      obtain ⟨rfl, noNull⟩ := map_heldElement_eq_iff.mp (steps.symm.trans same)
      obtain ⟨nonempty, plain⟩ := keyPath?_jsonPath_eq_held_iff.mp read
      exact ⟨nonempty, plain, fun segment one => absurd (by simp [one]) several, fun _ => noNull,
        tail.mp noSubscript⟩

/-- The two dialects select the same value, or none, from every document exactly if the path is
portable. -/
theorem selected_alike_iff_isPortable (admits : Char → Bool) (path : String) :
    (∀ document : Members, document.TextKeyed →
      Dialect.selected? .postgres admits path document =
        Dialect.selected? .mysql admits path document) ↔ IsPortable admits path := by
  simp only [Dialect.selected?, arraySteps?_jsonPath, Option.map_some, isPortable_iff]
  cases keyPath : (Dialect.jsonPath .mysql path).keyPath? admits with
  | none => simpa using ⟨[], Members.TextKeyed.nil⟩
  | some keys => simp [follow_alike_iff]

/-- An integer selects from a list in one dialect only, and so does the name `null` from an
object. -/
theorem selected_from_list :
    let listed : Members := [("tags", .list [.text "x"])]
    let named : Members := [("a", .object [("null", .text "x")])]
    (Dialect.selected? .postgres (fun _ => true) "tags.0" listed = some (some (.text "x")) ∧
      Dialect.selected? .mysql (fun _ => true) "tags.0" listed = some none) ∧
    (Dialect.selected? .postgres (fun _ => true) "a.null" named = some none ∧
      Dialect.selected? .mysql (fun _ => true) "a.null" named = some (some (.text "x"))) :=
  ⟨⟨rfl, rfl⟩, rfl, rfl⟩

end DocStore
