import DocStore.Value

/-!
# Values with text keys

The values of JSON: every object in them has texts as keys, no two of them the
same.  The operations on documents keep this.
-/

namespace DocStore

mutual

/-- Every object in a value has distinct texts as keys. -/
def Value.hasTextKeys : Value → Bool
  | .list items => itemsHaveTextKeys items
  | .object members => membersHaveTextKeys members
  | _ => true

def itemsHaveTextKeys : List Value → Bool
  | [] => true
  | item :: items => item.hasTextKeys && itemsHaveTextKeys items

def membersHaveTextKeys : List (Key × Value) → Bool
  | [] => true
  | (key, value) :: members =>
      key.text?.isSome && !(Members.contains members key) && value.hasTextKeys
        && membersHaveTextKeys members

end

theorem Key.text?_isSome_iff {key : Key} :
    key.text?.isSome = true ↔ ∃ content, key = .text content := by
  cases key <;> simp [Key.text?]

theorem itemsHaveTextKeys_iff {items : List Value} :
    itemsHaveTextKeys items = true ↔ ∀ item ∈ items, item.hasTextKeys = true := by
  induction items with
  | nil => simp [itemsHaveTextKeys]
  | cons item items ih => simp [itemsHaveTextKeys, ih]

namespace Members

theorem contains_text_iff {members : Members} {content : String} :
    members.contains content = true ↔ .text content ∈ members.keys := by
  induction members with
  | nil => simp [contains, get?, keys]
  | cons member members ih =>
      simp only [contains, keys] at ih
      simp only [contains, get?, keys, List.map_cons, List.mem_cons, Key.same_text]
      by_cases same : member.1 = .text content
      · simp [same]
      · have other : ¬Key.text content = member.1 := fun equal => same equal.symm
        simp [same, other, ih]

/-- Distinct texts as keys, and values with text keys. -/
structure TextKeyed (members : Members) : Prop where
  texts : ∀ key ∈ members.keys, ∃ content, key = .text content
  distinct : members.keys.Nodup
  values : ∀ member ∈ members, member.2.hasTextKeys = true

end Members

open Members (TextKeyed)

theorem membersHaveTextKeys_iff {members : Members} :
    membersHaveTextKeys members = true ↔ TextKeyed members := by
  induction members with
  | nil =>
      simp only [membersHaveTextKeys, true_iff]
      exact ⟨by simp [Members.keys], by simp [Members.keys], by simp⟩
  | cons member members ih =>
      obtain ⟨key, value⟩ := member
      simp only [membersHaveTextKeys, Bool.and_eq_true, ih, Key.text?_isSome_iff,
        Bool.not_eq_true']
      constructor
      · rintro ⟨⟨⟨⟨content, rfl⟩, fresh⟩, first⟩, others⟩
        have unused : Key.text content ∉ Members.keys members := by
          rw [← Members.contains_text_iff, fresh]
          simp
        refine ⟨?_, ?_, ?_⟩
        · intro key member
          rcases List.mem_cons.mp member with rfl | later
          · exact ⟨content, rfl⟩
          · exact others.texts key later
        · exact List.nodup_cons.mpr ⟨unused, others.distinct⟩
        · exact List.forall_mem_cons.mpr ⟨first, others.values⟩
      · rintro ⟨texts, distinct, values⟩
        obtain ⟨content, rfl⟩ := texts key List.mem_cons_self
        obtain ⟨unused, otherDistinct⟩ := List.nodup_cons.mp distinct
        obtain ⟨first, others⟩ := List.forall_mem_cons.mp values
        refine ⟨⟨⟨⟨content, rfl⟩, ?_⟩, first⟩,
          fun key member => texts key (List.mem_cons_of_mem _ member), otherDistinct, others⟩
        rw [← Bool.not_eq_true, Members.contains_text_iff]
        exact unused

@[simp] theorem Value.hasTextKeys_object {members : Members} :
    (Value.object members).hasTextKeys = true ↔ TextKeyed members := by
  rw [Value.hasTextKeys]
  exact membersHaveTextKeys_iff

@[simp] theorem Value.hasTextKeys_list {items : List Value} :
    (Value.list items).hasTextKeys = true ↔ ∀ item ∈ items, item.hasTextKeys = true := by
  rw [Value.hasTextKeys]
  exact itemsHaveTextKeys_iff

namespace Members

variable {members additions : Members} {value : Value}

theorem mem_set {key : Key} {member : Key × Value} (found : member ∈ members.set key value) :
    member ∈ members ∨ member.2 = value := by
  induction members with
  | nil =>
      right
      simp only [set, List.mem_singleton] at found
      rw [found]
  | cons first members ih =>
      obtain ⟨name, old⟩ := first
      rw [set] at found
      split at found
      · rcases List.mem_cons.mp found with rfl | later
        · exact .inr rfl
        · exact .inl (List.mem_cons_of_mem _ later)
      · rcases List.mem_cons.mp found with rfl | later
        · exact .inl List.mem_cons_self
        · rcases ih later with old | new
          · exact .inl (List.mem_cons_of_mem _ old)
          · exact .inr new

theorem value_of_get? {key : Key} (found : members.get? key = some value) :
    ∃ member ∈ members, member.2 = value := by
  induction members with
  | nil => cases found
  | cons first members ih =>
      obtain ⟨name, old⟩ := first
      rw [get?] at found
      split at found
      · cases found
        exact ⟨_, List.mem_cons_self, rfl⟩
      · obtain ⟨member, later, isValue⟩ := ih found
        exact ⟨member, List.mem_cons_of_mem _ later, isValue⟩

namespace TextKeyed

theorem nil : TextKeyed [] := membersHaveTextKeys_iff.mp rfl

theorem get? (keyed : TextKeyed members) {key : Key} (found : members.get? key = some value) :
    value.hasTextKeys = true := by
  obtain ⟨member, isMember, rfl⟩ := value_of_get? found
  exact keyed.values member isMember

theorem set (keyed : TextKeyed members) (content : String) (valued : value.hasTextKeys = true) :
    TextKeyed (members.set content value) := by
  constructor
  · intro key member
    rw [keys_set] at member
    split at member
    · exact keyed.texts key member
    · rcases List.mem_append.mp member with old | new
      · exact keyed.texts key old
      · exact ⟨content, List.mem_singleton.mp new⟩
  · rw [keys_set]
    split
    · exact keyed.distinct
    · rename_i fresh
      refine List.nodup_append.mpr ⟨keyed.distinct, by simp, ?_⟩
      rintro key old _ new rfl
      rw [List.mem_singleton] at new
      exact fresh (new ▸ old)
  · intro member found
    rcases mem_set found with old | rfl
    · exact keyed.values member old
    · exact valued

theorem sublist {kept : Members} (keyed : TextKeyed members) (sub : kept.Sublist members) :
    TextKeyed kept := by
  have keysSub : (keys kept).Sublist (keys members) := sub.map _
  constructor
  · intro key member
    exact keyed.texts key (keysSub.subset member)
  · exact keyed.distinct.sublist keysSub
  · intro member found
    exact keyed.values member (sub.subset found)

theorem get?_of_mem (keyed : TextKeyed members) {content : String}
    (member : (.text content, value) ∈ members) : members.get? content = some value := by
  induction members with
  | nil => cases member
  | cons first members ih =>
      obtain ⟨key, other⟩ := first
      rw [Members.get?, Key.same_text]
      rcases List.mem_cons.mp member with same | later
      · cases same
        simp
      · have distinct : key ≠ .text content := by
          rintro rfl
          exact (List.nodup_cons.mp keyed.distinct).1 (List.mem_map.mpr ⟨_, later, rfl⟩)
        rw [if_neg (by simpa using distinct)]
        exact ih (keyed.sublist (List.sublist_cons_self _ _)) later

/-- The order of the members does not count. -/
theorem reverse (keyed : TextKeyed members) : TextKeyed members.reverse where
  texts key isKey := keyed.texts key (((List.reverse_perm members).map _).subset isKey)
  distinct := ((List.reverse_perm members).map _).nodup_iff.mpr keyed.distinct
  values member isMember := keyed.values member (List.mem_reverse.mp isMember)

theorem erase (keyed : TextKeyed members) (key : Key) : TextKeyed (members.erase key) :=
  keyed.sublist List.filter_sublist

/-- What every change of one field keeps is kept by a list of changes. -/
theorem foldlM {ε : Type} {step : Members → Key × Value → Except ε Members}
    (keyed : TextKeyed members) (changes : TextKeyed additions)
    (keeps : ∀ before content amount after, TextKeyed before → amount.hasTextKeys = true →
      step before (.text content, amount) = .ok after → TextKeyed after)
    {result : Members} (folded : additions.foldlM step members = .ok result) :
    TextKeyed result := by
  induction additions generalizing members with
  | nil =>
      cases folded
      exact keyed
  | cons addition additions ih =>
      obtain ⟨key, amount⟩ := addition
      obtain ⟨content, rfl⟩ := changes.texts key List.mem_cons_self
      rw [List.foldlM_cons] at folded
      cases stepped : step members (.text content, amount) with
      | error failure =>
          rw [stepped] at folded
          cases folded
      | ok middle =>
          rw [stepped] at folded
          have middleKeyed := keeps members content amount middle keyed
            (changes.values _ List.mem_cons_self) stepped
          exact ih middleKeyed (changes.sublist (List.sublist_cons_self _ _)) folded

/-- What every change of one field keeps is kept by a list of changes. -/
theorem foldl {step : Members → Key × Value → Members}
    (keyed : TextKeyed members) (changes : TextKeyed additions)
    (keeps : ∀ before content amount, TextKeyed before → amount.hasTextKeys = true →
      TextKeyed (step before (.text content, amount))) :
    TextKeyed (additions.foldl step members) := by
  induction additions generalizing members with
  | nil => exact keyed
  | cons addition additions ih =>
      obtain ⟨key, amount⟩ := addition
      obtain ⟨content, rfl⟩ := changes.texts key List.mem_cons_self
      exact ih (keeps members content amount keyed (changes.values _ List.mem_cons_self))
        (changes.sublist (List.sublist_cons_self _ _))

theorem merge (keyed : TextKeyed members) (changes : TextKeyed additions) :
    TextKeyed (members.merge additions) :=
  keyed.foldl changes fun _ content _ before valued => before.set content valued

end TextKeyed

end Members

end DocStore
