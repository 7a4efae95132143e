import DocStore.Proofs.Clause.FieldTest

/-!
# What a verdict depends on

The verdict on a field depends on the operands below it only.  Every list and
every object there has a shorter JSON text than the value that it stands in, so
what is known of longer ones does not matter.
-/

namespace DocStore

namespace Json

theorem length_write_lt_writeMembers {members : List (Key × Value)} :
    ∀ member ∈ members, (write member.2).length < (writeMembers members).length := by
  induction members with
  | nil => simp
  | cons first members ih =>
      obtain ⟨key, value⟩ := first
      refine List.forall_mem_cons.mpr ⟨?_, fun member found => ?_⟩
      · simp only [writeMembers, List.length_append, List.length_cons]
        omega
      · have shorter := ih member found
        simp only [writeMembers, List.length_append, List.length_cons]
        omega

theorem length_write_lt_object {members : List (Key × Value)} :
    ∀ member ∈ members, (write member.2).length < (write (.object members)).length := by
  cases members with
  | nil => simp
  | cons first members =>
      obtain ⟨key, value⟩ := first
      refine List.forall_mem_cons.mpr ⟨?_, fun member found => ?_⟩
      · simp only [write, List.length_append, List.length_cons]
        omega
      · have shorter := length_write_lt_writeMembers member found
        simp only [write, List.length_append, List.length_cons]
        omega

theorem length_write_lt_writeItems {items : List Value} :
    ∀ item ∈ items, (write item).length < (writeItems items).length := by
  induction items with
  | nil => simp
  | cons first items ih =>
      refine List.forall_mem_cons.mpr ⟨?_, fun item found => ?_⟩
      · simp only [writeItems, List.length_append, List.length_cons]
        omega
      · have shorter := ih item found
        simp only [writeItems, List.length_append, List.length_cons]
        omega

theorem length_write_lt_list {items : List Value} :
    ∀ item ∈ items, (write item).length < (write (.list items)).length := by
  cases items with
  | nil => simp
  | cons first items =>
      refine List.forall_mem_cons.mpr ⟨?_, fun item found => ?_⟩
      · simp only [write, List.length_append, List.length_cons]
        omega
      · have shorter := length_write_lt_writeItems item found
        simp only [write, List.length_append, List.length_cons]
        omega

end Json

namespace Filter

/-- Not a list or object whose text reaches a length. -/
def Below (length : Nat) (operand : Value) : Prop :=
  operand.isContainer = true → (Json.write operand).length < length

theorem below_of_scalar {length : Nat} {operand : Value} (scalar : operand.isContainer = false) :
    Below length operand := by
  simp [Below, scalar]

theorem Below.members {length : Nat} {members : List (Key × Value)}
    (below : Below length (.object members)) : ∀ member ∈ members, Below length member.2 :=
  fun member found _ => Nat.lt_trans (Json.length_write_lt_object member found) (below rfl)

theorem Below.sequence {length : Nat} {operand : Value} (below : Below length operand)
    {items : List Value} (sequence : operand.sequence? = some items) :
    ∀ item ∈ items, Below length item := by
  cases operand with
  | list elements =>
      cases sequence
      exact fun item found _ => Nat.lt_trans (Json.length_write_lt_list item found) (below rfl)
  | bytes content =>
      cases sequence
      simp only [List.forall_mem_map]
      exact fun byte _ => below_of_scalar rfl
  | _ => cases sequence

variable {left right : FieldValuation} {path : String} {length : Nat}

theorem isMember_congr
    (same : ∀ operand, Below length operand → left.equals path operand = right.equals path operand)
    {operands : List Value} (below : ∀ operand ∈ operands, Below length operand) :
    left.isMember path operands = right.isMember path operands := by
  induction operands with
  | nil => rfl
  | cons operand operands ih =>
      obtain ⟨first, others⟩ := List.forall_mem_cons.mp below
      have rest := ih others
      simp only [FieldValuation.isMember] at rest
      simp only [FieldValuation.isMember, List.any_cons, same operand first, rest]

mutual

/-- Valuations that agree on all operands below a length give the same verdict on
what is below it. -/
theorem fieldVerdict_congr
    (same : ∀ operand, Below length operand → left.equals path operand = right.equals path operand)
    (sameOrder : ∀ comparison operand,
      left.satisfies path (.ordered comparison) operand =
        right.satisfies path (.ordered comparison) operand) :
    (operand : Value) → Below length operand →
      fieldVerdict none left path operand = fieldVerdict none right path operand
  | .object operators => fun below => by
      rw [fieldVerdict, fieldVerdict]
      exact operatorsVerdict_congr same sameOrder operators below.members
  | .null => fun below => by simp only [fieldVerdict, same _ below]
  | .bool flag => fun below => by simp only [fieldVerdict, same _ below]
  | .int number => fun below => by simp only [fieldVerdict, same _ below]
  | .float number => fun below => by simp only [fieldVerdict, same _ below]
  | .decimal number => fun below => by simp only [fieldVerdict, same _ below]
  | .bytes content => fun below => by simp only [fieldVerdict, same _ below]
  | .text content => fun below => by simp only [fieldVerdict, same _ below]
  | .list items => fun below => by simp only [fieldVerdict, same _ below]

theorem operatorsVerdict_congr
    (same : ∀ operand, Below length operand → left.equals path operand = right.equals path operand)
    (sameOrder : ∀ comparison operand,
      left.satisfies path (.ordered comparison) operand =
        right.satisfies path (.ordered comparison) operand) :
    (operators : List (Key × Value)) → (∀ member ∈ operators, Below length member.2) →
      operatorsVerdict none left path operators = operatorsVerdict none right path operators
  | [] => fun _ => by rw [operatorsVerdict, operatorsVerdict]
  | (key, operand) :: operators => fun below => by
      obtain ⟨first, others⟩ := List.forall_mem_cons.mp below
      have rest := operatorsVerdict_congr same sameOrder operators others
      have inner := fieldVerdict_congr same sameOrder operand first
      have equality := same operand first
      rw [operatorsVerdict, operatorsVerdict, rest]
      congr 1
      cases FieldOperator.ofKey? key.shown with
      | none => rfl
      | some operator =>
          cases operator with
          | equal => simp only [equality]
          | unequal => simp only [equality]
          | ordered comparison => simp only [sameOrder]
          | not => simp only [inner]
          | oneOf =>
              cases sequence : operand.sequence? with
              | none => rfl
              | some items => simp only [isMember_congr same (first.sequence sequence)]
          | noneOf =>
              cases sequence : operand.sequence? with
              | none => rfl
              | some items =>
                  have members := isMember_congr same (first.sequence sequence)
                  cases items with
                  | nil => rfl
                  | cons item items => simp only [members]

end

end Filter

end DocStore
