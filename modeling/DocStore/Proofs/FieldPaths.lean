import DocStore.Operator
import DocStore.Proofs.TextKeys
import DocStore.Sql.Dialect
import Mathlib.Tactic.SplitIfs

/-!
# Field paths

A field path is cut into segments, which lead through the objects of a document to a nested
location.  A path that has itself as its only segment is the name of a field, and the nested
location is that field.  For any other path there are documents that tell the two apart: one
with a value under the whole path as a key, and one with a value at the nested location.
-/

namespace DocStore

open Sql

/-! ## Segments -/

theorem separator_notMem_of_mem_cutAt {separator : Char} {text segment : List Char}
    (member : segment ∈ cutAt separator text) : separator ∉ segment := by
  induction text generalizing segment with
  | nil => simp_all [cutAt]
  | cons character text ih =>
      unfold cutAt at member
      split at member
      · rcases List.mem_cons.mp member with rfl | later
        · simp
        · exact ih later
      · rename_i other
        split at member
        · simp_all [eq_comm]
        · rename_i piece pieces cut
          rw [cut] at ih
          rcases List.mem_cons.mp member with rfl | later
          · have rest := ih List.mem_cons_self
            simp [rest, Ne.symm other]
          · exact ih (List.mem_cons_of_mem _ later)

theorem cutAt_of_notMem {separator : Char} {text : List Char} (whole : separator ∉ text) :
    cutAt separator text = [text] := by
  induction text with
  | nil => rfl
  | cons character text ih =>
      rw [List.mem_cons, not_or] at whole
      rw [cutAt, if_neg (Ne.symm whole.1), ih whole.2]

theorem cutAt_eq_splitOn (separator : Char) (text : List Char) :
    cutAt separator text = text.splitOn separator := by
  induction text with
  | nil => simp [cutAt]
  | cons character text ih =>
      rw [cutAt, ih, List.splitOn_cons_eq_if_modifyHead]
      by_cases same : character = separator
      · simp [same]
      · rw [if_neg same, if_neg (by simpa using same)]
        cases cut : text.splitOn separator with
        | nil => exact absurd cut (List.splitOn_ne_nil separator text)
        | cons piece pieces => rfl

theorem intercalate_cutAt (separator : Char) (text : List Char) :
    [separator].intercalate (cutAt separator text) = text := by
  rw [cutAt_eq_splitOn, List.intercalate_splitOn]

theorem cutAt_inj {separator : Char} {left right : List Char} :
    cutAt separator left = cutAt separator right ↔ left = right := by
  refine ⟨fun same => ?_, congrArg _⟩
  rw [← intercalate_cutAt separator left, same, intercalate_cutAt]

theorem cutAt_append_cons (separator : Char) (left right : List Char) :
    cutAt separator (left ++ separator :: right) =
      cutAt separator left ++ cutAt separator right := by
  simp only [cutAt_eq_splitOn, List.splitOn]
  exact List.splitOnP_append_cons left right (beq_self_eq_true separator)

theorem cutAt_intercalate (separator : Char) {texts : List (List Char)} (full : texts ≠ []) :
    cutAt separator ([separator].intercalate texts) = texts.flatMap (cutAt separator) := by
  induction texts with
  | nil => exact absurd rfl full
  | cons first others ih =>
      cases others with
      | nil => simp
      | cons second others =>
          rw [List.intercalate_cons_cons, List.append_assoc, List.singleton_append,
            cutAt_append_cons, ih (by simp), ← List.flatMap_cons]

/-- A path that has itself as its only segment. -/
def IsFieldName (path : String) : Prop := splitPath path = [path]

instance (path : String) : Decidable (IsFieldName path) := by
  unfold IsFieldName
  infer_instance

/-- Segments have no separators, so a path is no segment among others. -/
theorem isFieldName_of_mem {path : String} (member : path ∈ splitPath path) :
    IsFieldName path := by
  obtain ⟨segment, isSegment, isPath⟩ := List.mem_map.mp member
  obtain ⟨cut, full⟩ := List.mem_filter.mp isSegment
  obtain rfl : segment = path.toList := by rw [← isPath, String.toList_ofList]
  rw [IsFieldName, splitPath, cutAt_of_notMem (separator_notMem_of_mem_cutAt cut)]
  simp_all

/-- The names of combinators are field names. -/
theorem isFieldName_of_combinator {path : String} {combinator : Combinator}
    (named : Combinator.ofKey? path = some combinator) : IsFieldName path := by
  have spelled (name : String) (same : canonicalKey path = "$" ++ name) :
      path = "$" ++ name ∨ path = name := by
    unfold canonicalKey at same
    split at same
    · exact .inl same
    · right
      have letters := congrArg String.toList same
      rw [String.toList_ofList, String.toList_append] at letters
      exact String.toList_inj.mp (List.cons.inj letters).2
  unfold Combinator.ofKey? at named
  split_ifs at named with isAnd isOr isNot
  · rcases spelled "and" isAnd with rfl | rfl <;> decide
  · rcases spelled "or" isOr with rfl | rfl <;> decide
  · rcases spelled "not" isNot with rfl | rfl <;> decide

/-! ## Nested locations -/

/-- The value that segments lead to.  What a segment leads to in a list is up to the
engine. -/
def Value.located (element? : List Value → String → Option Value) :
    List String → Value → Option Value
  | [], value => some value
  | segment :: segments, .object members =>
      (Members.get? segment members).bind (located element? segments)
  | segment :: segments, .list items =>
      (element? items segment).bind (located element? segments)
  | _ :: _, _ => none

/-- An object with a value at nested segments. -/
def Value.nested (value : Value) : List String → Value
  | [] => value
  | segment :: segments => .object [(segment, nested value segments)]

variable (element? : List Value → String → Option Value) {path : String}

/-- The value of a document at a path. -/
def Members.located (path : String) (document : Members) : Option Value :=
  Value.located element? (splitPath path) (.object document)

theorem Members.located_of_isFieldName (isName : IsFieldName path) (document : Members) :
    document.located element? path = document.get? path := by
  rw [Members.located, isName, Value.located]
  cases document.get? path <;> rfl

theorem Value.located_nested (value : Value) (segments : List String) :
    (value.nested segments).located element? segments = some value := by
  induction segments with
  | nil => rfl
  | cons segment segments ih => simpa [Value.nested, Value.located, Members.get?, Key.same] using ih

theorem Value.hasTextKeys_nested {value : Value} (keyed : value.hasTextKeys = true)
    (segments : List String) : (value.nested segments).hasTextKeys = true := by
  induction segments with
  | nil => exact keyed
  | cons segment segments ih =>
      simp [Value.nested, Value.hasTextKeys, membersHaveTextKeys, Key.text?, Members.contains,
        Members.get?, ih]

/-! ## Documents that tell a path from a name -/

/-- A value under the whole path as one key. -/
def Members.flat (path : String) (value : Value) : Members := [(path, value)]

/-- A text at the nested location of a path, or any member if the path has no segments. -/
def Members.nested (path : String) : Members :=
  match splitPath path with
  | [] => [("field", .text "value")]
  | segment :: segments => [(segment, (Value.text "value").nested segments)]

namespace Members

theorem get?_cons_text (segment path : String) (value : Value) (members : Members) :
    get? path ((.text segment, value) :: members) =
      if segment = path then some value else members.get? path := by
  simp [get?, Key.same]

theorem get?_single (segment path : String) (value : Value) :
    get? path [(.text segment, value)] = if segment = path then some value else none :=
  get?_cons_text segment path value []

@[simp] theorem get?_flat (path : String) (value : Value) :
    (flat path value).get? path = some value := by
  rw [flat, get?_single, if_pos rfl]

theorem textKeyed_single {segment : String} {value : Value} (keyed : value.hasTextKeys = true) :
    TextKeyed [(.text segment, value)] := by
  refine membersHaveTextKeys_iff.mp ?_
  simp [membersHaveTextKeys, Key.text?, contains, get?, keyed]

/-- The value under the whole path is not at the nested location. -/
theorem located_flat_ne (noName : ¬IsFieldName path) (value : Value) :
    (flat path value).located element? path ≠ some value := by
  unfold located flat
  cases cut : splitPath path with
  | nil =>
      intro same
      have size := congrArg sizeOf (Option.some.inj same)
      simp at size
      omega
  | cons segment segments =>
      have other : segment ≠ path := by
        rintro rfl
        exact noName (isFieldName_of_mem (by simp [cut]))
      simp [Value.located, get?_single, Ne.symm other]

theorem textKeyed_nested (path : String) : (nested path).TextKeyed := by
  unfold nested
  split
  · exact textKeyed_single rfl
  · exact textKeyed_single (Value.hasTextKeys_nested rfl _)

/-- There is a value at the nested location. -/
theorem located_nested (path : String) :
    ∃ value, (nested path).located element? path = some value ∧ value.isNull = false := by
  unfold located nested
  cases splitPath path with
  | nil => exact ⟨_, rfl, rfl⟩
  | cons segment segments =>
      refine ⟨.text "value", ?_, rfl⟩
      rw [Value.located, get?_single, if_pos rfl]
      exact Value.located_nested element? (.text "value") segments

theorem located_nil_ne (path : String) :
    located element? path [] ≠ (nested path).located element? path := by
  have present := located_nested element? path
  unfold located at present ⊢
  cases cut : splitPath path with
  | nil => simp [nested, cut, Value.located]
  | cons segment segments =>
      rw [cut] at present
      obtain ⟨value, located, _⟩ := present
      rw [located]
      simp [Value.located, get?]

/-- Nothing stands there under the whole path. -/
theorem get?_nested (noName : ¬IsFieldName path) : (nested path).get? path = none := by
  have apart {segment : String} (same : segment = path) (isName : IsFieldName segment) : False :=
    noName (same ▸ isName)
  unfold nested
  split
  · rw [get?_single, if_neg fun same => apart same (by decide)]
  · rename_i segment segments cut
    rw [get?_single, if_neg]
    rintro rfl
    exact noName (isFieldName_of_mem (by simp [cut]))

end Members

end DocStore
