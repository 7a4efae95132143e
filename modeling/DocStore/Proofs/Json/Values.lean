import DocStore.Json.Encode
import DocStore.Proofs.TextKeys
import DocStore.Value.Display

/-!
# Values of JSON

A value of JSON is null, a truth value, a number, a text, a list of such values, or an
object of such values under distinct texts.  Decimals and byte strings, which engines
return in rows, are no values of JSON.  Of the values of JSON only those are kept from
being written in which an integer has too many digits.
-/

namespace DocStore

namespace Value

def isContainer : Value → Bool
  | .list _ => true
  | .object _ => true
  | _ => false

/-- The values of JSON, nested to any depth. -/
inductive IsJson : Value → Prop where
  | null : IsJson .null
  | bool (flag : Bool) : IsJson (.bool flag)
  | int (number : Int) : IsJson (.int number)
  | float (number : Float) : IsJson (.float number)
  | text (content : String) : IsJson (.text content)
  | list {items : List Value} (values : ∀ item ∈ items, IsJson item) : IsJson (.list items)
  | object {members : Members} (texts : ∀ key ∈ members.keys, ∃ content, key = .text content)
      (distinct : members.keys.Nodup) (values : ∀ member ∈ members, IsJson member.2) :
      IsJson (.object members)

theorem IsJson.hasTextKeys {value : Value} (isJson : IsJson value) :
    value.hasTextKeys = true := by
  induction isJson with
  | list _ ih => exact hasTextKeys_list.mpr ih
  | object texts distinct _ ih => exact hasTextKeys_object.mpr ⟨texts, distinct, ih⟩
  | _ => rfl

theorem IsJson.textKeyed {members : Members} (isJson : IsJson (.object members)) :
    members.TextKeyed :=
  hasTextKeys_object.mp isJson.hasTextKeys

theorem IsJson.of_mem {members : Members} (isJson : IsJson (.object members))
    {member : Key × Value} (isMember : member ∈ members) : IsJson member.2 := by
  cases isJson with
  | object _ _ values => exact values member isMember

theorem isJson_list_iff {items : List Value} :
    IsJson (.list items) ↔ ∀ item ∈ items, IsJson item := by
  refine ⟨fun isJson => ?_, .list⟩
  cases isJson with
  | list values => exact values

theorem isJson_object_iff {members : Members} :
    IsJson (.object members) ↔ (∀ key ∈ members.keys, ∃ content, key = .text content) ∧
      members.keys.Nodup ∧ ∀ member ∈ members, IsJson member.2 := by
  refine ⟨fun isJson => ?_, fun ⟨texts, distinct, values⟩ => .object texts distinct values⟩
  cases isJson with
  | object texts distinct values => exact ⟨texts, distinct, values⟩

theorem IsJson.get? {members : Members} {value : Value} (isJson : IsJson (.object members))
    {key : Key} (found : members.get? key = some value) : IsJson value := by
  obtain ⟨member, isMember, rfl⟩ := Members.value_of_get? found
  exact isJson.of_mem isMember

theorem IsJson.sublist {kept members : Members} (isJson : IsJson (.object members))
    (sub : kept.Sublist members) : IsJson (.object kept) := by
  have keyed := isJson.textKeyed.sublist sub
  exact .object keyed.texts keyed.distinct fun member isMember =>
    isJson.of_mem (sub.subset isMember)

theorem IsJson.reverse {members : Members} (isJson : IsJson (.object members)) :
    IsJson (.object members.reverse) := by
  have keyed := isJson.textKeyed.reverse
  exact .object keyed.texts keyed.distinct fun member isMember =>
    isJson.of_mem (List.mem_reverse.mp isMember)

theorem IsJson.set {members : Members} (isJson : IsJson (.object members)) (name : String)
    {value : Value} (added : IsJson value) : IsJson (.object (members.set name value)) := by
  have keyed := isJson.textKeyed.set name added.hasTextKeys
  refine .object keyed.texts keyed.distinct fun member isMember => ?_
  rcases Members.mem_set isMember with old | isValue
  · exact isJson.of_mem old
  · exact isValue ▸ added

/-! ## What can be written -/

theorem areWritable_iff {items : List Value} :
    areWritable items = true ↔ ∀ item ∈ items, item.isWritable = true := by
  induction items with
  | nil => simp [areWritable]
  | cons item items ih => simp [areWritable, ih]

theorem areWritableMembers_iff {members : Members} :
    areWritableMembers members = true ↔
      ∀ member ∈ members, member.1.isWritable = true ∧ member.2.isWritable = true := by
  induction members with
  | nil => simp [areWritableMembers]
  | cons member members ih => simp [areWritableMembers, ih]

end Value

namespace Json

theorem itemsObstacle?_eq_none_iff {items : List Value} :
    itemsObstacle? items = none ↔ ∀ item ∈ items, obstacle? item = none := by
  refine ⟨obstacle?_of_mem_items, fun encodable => ?_⟩
  induction items with
  | nil => rfl
  | cons item items ih =>
      obtain ⟨first, others⟩ := List.forall_mem_cons.mp encodable
      rw [itemsObstacle?, first]
      exact ih others

theorem membersObstacle?_eq_none_iff {members : Members} :
    membersObstacle? members = none ↔
      ∀ member ∈ members, keyObstacle? member.1 = none ∧ obstacle? member.2 = none := by
  induction members with
  | nil => simp [membersObstacle?]
  | cons member members ih =>
      rw [List.forall_mem_cons, ← ih]
      constructor
      · intro encodable
        obtain ⟨key, value, others⟩ := obstacle?_of_members_cons encodable
        exact ⟨⟨key, value⟩, others⟩
      · rintro ⟨⟨key, value⟩, others⟩
        rw [membersObstacle?, key, value]
        exact others

theorem exists_of_itemsObstacle? {items : List Value} {fault : Fault}
    (obstacle : itemsObstacle? items = some fault) :
    ∃ item ∈ items, obstacle? item = some fault := by
  induction items with
  | nil => cases obstacle
  | cons item items ih =>
      rw [itemsObstacle?] at obstacle
      split at obstacle
      · rename_i found
        exact ⟨item, List.mem_cons_self, found.trans obstacle⟩
      · obtain ⟨other, later, found⟩ := ih obstacle
        exact ⟨other, List.mem_cons_of_mem _ later, found⟩

theorem exists_of_membersObstacle? {members : Members} {fault : Fault}
    (obstacle : membersObstacle? members = some fault) :
    ∃ member ∈ members,
      keyObstacle? member.1 = some fault ∨ obstacle? member.2 = some fault := by
  induction members with
  | nil => cases obstacle
  | cons member members ih =>
      rw [membersObstacle?] at obstacle
      split at obstacle
      · rename_i found
        exact ⟨member, List.mem_cons_self, .inl (found.trans obstacle)⟩
      · rename_i found
        exact ⟨member, List.mem_cons_self, .inr (found.trans obstacle)⟩
      · obtain ⟨other, later, found⟩ := ih obstacle
        exact ⟨other, List.mem_cons_of_mem _ later, found⟩

end Json

open Json in
/-- Only an integer with too many digits keeps a value of JSON from being written. -/
theorem Value.IsJson.obstacle?_eq_none_iff {value : Value} (isJson : IsJson value) :
    obstacle? value = none ↔ value.isWritable = true := by
  induction isJson with
  | int number =>
      rw [obstacle?, integerObstacle?, isWritable]
      split <;> simp [*]
  | list _ ih =>
      rw [obstacle?, itemsObstacle?_eq_none_iff, isWritable, areWritable_iff]
      exact forall₂_congr ih
  | object texts _ _ ih =>
      rw [obstacle?, membersObstacle?_eq_none_iff, isWritable, areWritableMembers_iff]
      refine forall₂_congr fun member isMember => ?_
      obtain ⟨content, isText⟩ := texts member.1 (List.mem_map_of_mem isMember)
      simp [isText, keyObstacle?, Key.isWritable, ih member isMember]
  | _ => simp [obstacle?, isWritable]

open Json in
/-- What keeps a value of JSON from being written is the length of an integer. -/
theorem Value.IsJson.eq_of_obstacle? {value : Value} (isJson : IsJson value) {fault : Fault}
    (obstacle : obstacle? value = some fault) : fault = .malformedValue := by
  induction isJson with
  | int number =>
      rw [obstacle?, integerObstacle?] at obstacle
      split at obstacle
      · cases obstacle
      · exact (Option.some.inj obstacle).symm
  | list _ ih =>
      obtain ⟨item, isItem, found⟩ := exists_of_itemsObstacle? obstacle
      exact ih item isItem found
  | object texts _ _ ih =>
      obtain ⟨member, isMember, found⟩ := exists_of_membersObstacle? obstacle
      obtain ⟨content, isText⟩ := texts member.1 (List.mem_map_of_mem isMember)
      rcases found with onKey | onValue
      · rw [isText] at onKey
        cases onKey
      · exact ih member isMember onValue
  | _ => cases obstacle

end DocStore
