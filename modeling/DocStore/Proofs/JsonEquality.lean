import Mathlib
import DocStore.Pipeline.Stage
import DocStore.Proofs.Json.Values
import DocStore.Proofs.Outcome

/-!
# Equality of JSON values

Two values are the same value of JSON if they have the same kind at every depth: an integer,
a double and a truth value are never the same, whatever number they stand for.  The order of
the members of an object does not count, and neither does the sign of a zero.  The equality
across kinds always has a result on values of JSON.  It holds exactly if the values are the
same once truth values and integral doubles are written as integers.
-/

namespace DocStore

/-! ## The same value -/

/-- Equality of values of one kind that are no containers. -/
def Value.sameScalar : Value → Value → Bool
  | .null, .null => true
  | .bool left, .bool right => left == right
  | .int left, .int right => left == right
  | .float left, .float right => (Exact.ofFloat left).equal (Exact.ofFloat right)
  | .text left, .text right => left == right
  | _, _ => false

mutual

/-- Whether two values are the same value of JSON. -/
def Value.sameJson : Value → Value → Bool
  | .list left, .list right => Value.sameItems left right
  | .object left, .object right => left.length == right.length && Value.sameMembers left right
  | left, right => left.sameScalar right

def Value.sameItems : List Value → List Value → Bool
  | [], [] => true
  | left :: lefts, right :: rights => left.sameJson right && Value.sameItems lefts rights
  | _, _ => false

/-- Every member of the first object has the same value in the second. -/
def Value.sameMembers : List (Key × Value) → List (Key × Value) → Bool
  | [], _ => true
  | (key, left) :: lefts, rights =>
      match Members.get? key rights with
      | some right => left.sameJson right && Value.sameMembers lefts rights
      | none => false

end

mutual

/-- The value with its truth values and integral doubles written as integers. -/
def Value.unified : Value → Value
  | .bool flag => .int (if flag then 1 else 0)
  | .list items => .list (Value.unifiedItems items)
  | .object members => .object (Value.unifiedMembers members)
  | value => Stage.integralForm value

def Value.unifiedItems : List Value → List Value
  | [] => []
  | item :: items => item.unified :: Value.unifiedItems items

def Value.unifiedMembers : List (Key × Value) → List (Key × Value)
  | [] => []
  | (key, value) :: members => (key, value.unified) :: Value.unifiedMembers members

end

/-! ## Whole numbers -/

namespace Exact

/-- The exact value is that of an integer. -/
def IsWhole (number : Exact) (whole : Int) : Prop :=
  ∃ bottom : Nat, 0 < bottom ∧ number = .ratio (whole * bottom) bottom

theorem isWhole_ofInt (whole : Int) : (ofInt whole).IsWhole whole :=
  ⟨1, one_pos, by simp [ofInt]⟩

variable {left right number : Exact} {leftWhole rightWhole whole : Int}

theorem equal_of_isWhole (leftIs : left.IsWhole leftWhole) (rightIs : right.IsWhole rightWhole) :
    left.equal right = (leftWhole == rightWhole) := by
  obtain ⟨leftBottom, leftPositive, rfl⟩ := leftIs
  obtain ⟨rightBottom, rightPositive, rfl⟩ := rightIs
  have product : (leftBottom : Int) * rightBottom ≠ 0 := by positivity
  have cancelled : leftWhole * leftBottom * rightBottom = rightWhole * rightBottom * leftBottom ↔
      leftWhole = rightWhole := by
    rw [mul_assoc, mul_assoc, mul_comm (rightBottom : Int), mul_left_inj' product]
  rw [equal, beq_eq_beq, cancelled]

/-- An integer equals whole numbers only. -/
theorem isWhole_of_equal {top : Int} {bottom : Nat} (positive : 0 < bottom)
    (leftIs : left.IsWhole whole) (equal : left.equal (.ratio top bottom) = true) :
    (ratio top bottom).IsWhole whole := by
  obtain ⟨leftBottom, leftPositive, rfl⟩ := leftIs
  refine ⟨bottom, positive, ?_⟩
  have cross : whole * leftBottom * bottom = top * leftBottom := by
    simpa [Exact.equal] using equal
  have nonzero : (leftBottom : Int) ≠ 0 := by positivity
  rw [← mul_right_cancel₀ nonzero (cross.symm.trans (mul_right_comm _ _ _))]

end Exact

namespace Double

variable {number : Double} {whole : Int}

theorem isWhole_of_truncate? (integral : number.isIntegral = true)
    (truncated : number.truncate? = some whole) : (Exact.ofDouble number).IsWhole whole := by
  cases number with
  | nan => cases integral
  | infinite negative => cases integral
  | finite negative significand exponent =>
      have isWhole := Option.some.inj truncated
      cases exponent with
      | ofNat amount =>
          refine ⟨1, one_pos, ?_⟩
          rw [← isWhole]
          cases negative <;> simp [Exact.ofDouble]
      | negSucc amount =>
          have divides : 2 ^ (amount + 1) ∣ significand := by
            simpa [isIntegral, Nat.dvd_iff_mod_eq_zero] using integral
          refine ⟨2 ^ (amount + 1), by positivity, ?_⟩
          obtain ⟨quotient, rfl⟩ := divides
          rw [← isWhole]
          cases negative <;> simp [Exact.ofDouble, mul_comm]

theorem not_isWhole (fractional : number.isIntegral = false) :
    ¬ (Exact.ofDouble number).IsWhole whole := by
  rintro ⟨bottom, positive, isRatio⟩
  cases number with
  | nan => cases isRatio
  | infinite negative => cases isRatio
  | finite negative significand exponent =>
      cases exponent with
      | ofNat amount => cases fractional
      | negSucc amount =>
          obtain ⟨top, rfl⟩ := Exact.ratio.inj isRatio
          have rest : significand % 2 ^ (amount + 1) ≠ 0 := by
            simpa [isIntegral] using fractional
          apply rest
          have divides : ((2 ^ (amount + 1) : Nat) : Int) ∣ Int.ofNat significand := by
            cases negative with
            | false => exact ⟨whole, by simpa [mul_comm] using top⟩
            | true => exact ⟨-whole, by simp at top; simp [mul_comm]; linarith⟩
          exact Nat.dvd_iff_mod_eq_zero.mp (Int.natCast_dvd_natCast.mp divides)

/-- A double with a fraction equals no integer. -/
theorem equal_eq_false {left : Exact} (fractional : number.isIntegral = false)
    (leftIs : left.IsWhole whole) : left.equal (Exact.ofDouble number) = false := by
  by_contra isEqual
  have equal := Bool.eq_true_of_not_eq_false isEqual
  obtain ⟨bottom, positive, rfl⟩ := leftIs
  cases number with
  | nan => cases equal
  | infinite negative => cases equal
  | finite negative significand exponent =>
      cases exponent with
      | ofNat amount => cases fractional
      | negSucc amount =>
          exact not_isWhole fractional
            (Exact.isWhole_of_equal (Nat.pow_pos two_pos) ⟨bottom, positive, rfl⟩ equal)

end Double

namespace Value

variable {left right : Value}

/-! ## Scalars -/

theorem integralForm_float (number : Float) :
    (∃ whole, Stage.integralForm (.float number) = .int whole ∧
        (Exact.ofFloat number).IsWhole whole) ∨
      (Stage.integralForm (.float number) = .float number ∧
        (Double.ofFloat number).isIntegral = false) := by
  cases integral : (Double.ofFloat number).isIntegral with
  | false => exact .inr ⟨by simp [Stage.integralForm, integral], rfl⟩
  | true =>
      left
      obtain ⟨whole, truncated⟩ : ∃ whole, (Double.ofFloat number).truncate? = some whole := by
        cases read : Double.ofFloat number with
        | finite negative significand exponent => exact ⟨_, rfl⟩
        | _ => simp [read, Double.isIntegral] at integral
      exact ⟨whole, by simp [Stage.integralForm, integral, truncated],
        Double.isWhole_of_truncate? integral truncated⟩

/-- A number of JSON is written as the integer that it stands for, or it is a double with a
fraction and stays. -/
theorem unified_of_exactNumber? (isJson : left.IsJson) {number : Exact}
    (isNumber : left.exactNumber? = some number) :
    (∃ whole, left.unified = .int whole ∧ number.IsWhole whole) ∨
      ∃ double, left.unified = .float double ∧ number = Exact.ofFloat double ∧
        (Double.ofFloat double).isIntegral = false := by
  cases isJson with
  | bool flag =>
      cases isNumber
      exact .inl ⟨_, rfl, Exact.isWhole_ofInt _⟩
  | int whole =>
      cases isNumber
      exact .inl ⟨whole, rfl, Exact.isWhole_ofInt whole⟩
  | float double =>
      cases isNumber
      rcases integralForm_float double with ⟨whole, same, isWhole⟩ | ⟨same, fractional⟩
      · exact .inl ⟨whole, same, isWhole⟩
      · exact .inr ⟨double, same, rfl, fractional⟩
  | _ => cases isNumber

theorem isSignaling_of_isJson (isJson : left.IsJson) : left.isSignaling = false := by
  cases isJson <;> rfl

/-- Numbers of JSON are equal if they are the same written as integers. -/
theorem equal_exactNumber? (leftJson : left.IsJson) (rightJson : right.IsJson)
    {leftNumber rightNumber : Exact} (leftIs : left.exactNumber? = some leftNumber)
    (rightIs : right.exactNumber? = some rightNumber) :
    leftNumber.equal rightNumber = left.unified.sameScalar right.unified := by
  rcases unified_of_exactNumber? leftJson leftIs with
    ⟨leftWhole, leftSame, leftIsWhole⟩ | ⟨leftDouble, leftSame, rfl, leftFractional⟩ <;>
  rcases unified_of_exactNumber? rightJson rightIs with
    ⟨rightWhole, rightSame, rightIsWhole⟩ | ⟨rightDouble, rightSame, rfl, rightFractional⟩ <;>
  rw [leftSame, rightSame]
  · exact Exact.equal_of_isWhole leftIsWhole rightIsWhole
  · exact Double.equal_eq_false rightFractional leftIsWhole
  · rw [Exact.equal_comm]
    exact Double.equal_eq_false leftFractional rightIsWhole
  · rfl

/-- The values are both lists or both objects. -/
def areNested : Value → Value → Bool
  | .list _, .list _ => true
  | .object _, .object _ => true
  | _, _ => false

theorem compareScalars_of_exactNumber? {leftNumber rightNumber : Exact}
    (leftJson : left.IsJson) (rightJson : right.IsJson)
    (leftIs : left.exactNumber? = some leftNumber)
    (rightIs : right.exactNumber? = some rightNumber) :
    left.compareScalars right = .ok (leftNumber.equal rightNumber) := by
  have leftSignaling := isSignaling_of_isJson leftJson
  have rightSignaling := isSignaling_of_isJson rightJson
  cases left <;> cases leftIs <;> cases right <;> cases rightIs <;>
    simp_all [compareScalars, exactNumber?]

/-- What a number of JSON is written as is an integer or a double. -/
theorem sameJson_of_exactNumber? {number : Exact} (isJson : left.IsJson)
    (isNumber : left.exactNumber? = some number) (right : Value) :
    left.unified.sameJson right = left.unified.sameScalar right := by
  rcases unified_of_exactNumber? isJson isNumber with ⟨whole, same, _⟩ | ⟨double, same, _⟩ <;>
    rw [same] <;> cases right <;> rfl

theorem compareScalars_eq (leftJson : left.IsJson) (rightJson : right.IsJson)
    (flat : areNested left right = false) :
    left.compareScalars right = .ok (left.unified.sameJson right.unified) := by
  cases leftIs : left.exactNumber? with
  | some leftNumber =>
      cases rightIs : right.exactNumber? with
      | some rightNumber =>
          rw [compareScalars_of_exactNumber? leftJson rightJson leftIs rightIs,
            equal_exactNumber? leftJson rightJson leftIs rightIs,
            sameJson_of_exactNumber? leftJson leftIs]
      | none =>
          rcases unified_of_exactNumber? leftJson leftIs with
              ⟨whole, same, _⟩ | ⟨double, same, _⟩ <;>
            rw [same] <;> cases leftJson <;> cases leftIs <;> cases rightJson <;> cases rightIs <;>
            rfl
  | none =>
      cases rightIs : right.exactNumber? with
      | some rightNumber =>
          rcases unified_of_exactNumber? rightJson rightIs with
              ⟨whole, same, _⟩ | ⟨double, same, _⟩ <;>
            rw [same] <;> cases rightJson <;> cases rightIs <;> cases leftJson <;> cases leftIs <;>
            rfl
      | none =>
          cases leftJson <;> cases leftIs <;> cases rightJson <;> cases rightIs <;>
            first | rfl | cases flat

/-! ## Containers -/

theorem unifiedItems_eq_map (items : List Value) : unifiedItems items = items.map unified := by
  induction items with
  | nil => rfl
  | cons item items ih => rw [unifiedItems, ih, List.map_cons]

theorem unifiedMembers_eq_map (members : Members) :
    unifiedMembers members = members.map fun member => (member.1, member.2.unified) := by
  induction members with
  | nil => rfl
  | cons member members ih => rw [unifiedMembers, ih, List.map_cons]

theorem get?_unifiedMembers (key : Key) (members : Members) :
    Members.get? key (unifiedMembers members) = (members.get? key).map unified := by
  induction members with
  | nil => rfl
  | cons member members ih =>
      rw [unifiedMembers, Members.get?, Members.get?]
      split
      · rfl
      · exact ih

theorem length_eq_of_sameItems {lefts rights : List Value}
    (same : sameItems lefts rights = true) : lefts.length = rights.length := by
  induction lefts generalizing rights with
  | nil => cases rights with
    | nil => rfl
    | cons => cases same
  | cons left lefts ih => cases rights with
    | nil => cases same
    | cons right rights =>
        rw [sameItems, Bool.and_eq_true] at same
        exact congrArg Nat.succ (ih same.2)

theorem compareListsBy_eq {lefts rights : List Value}
    (each : ∀ left ∈ lefts, ∀ right, right.IsJson →
      left.compare right = .ok (left.unified.sameJson right.unified))
    (rightJson : ∀ right ∈ rights, right.IsJson) (sameLength : lefts.length = rights.length) :
    compareListsBy compareScalars lefts rights =
      .ok (sameItems (unifiedItems lefts) (unifiedItems rights)) := by
  induction lefts generalizing rights with
  | nil =>
      obtain rfl := List.length_eq_zero_iff.mp sameLength.symm
      rfl
  | cons left lefts ih =>
      cases rights with
      | nil => cases sameLength
      | cons right rights =>
          obtain ⟨first, others⟩ := List.forall_mem_cons.mp each
          obtain ⟨firstJson, othersJson⟩ := List.forall_mem_cons.mp rightJson
          rw [compareListsBy, unifiedItems, unifiedItems, sameItems,
            show compareBy compareScalars left right = _ from first right firstJson]
          cases left.unified.sameJson right.unified with
          | false => rfl
          | true => exact ih others othersJson (Nat.succ.inj sameLength)

theorem compareMembersBy_eq {lefts rights : Members}
    (each : ∀ left ∈ lefts, ∀ right, right.IsJson →
      left.2.compare right = .ok (left.2.unified.sameJson right.unified))
    (rightJson : ∀ right ∈ rights, right.2.IsJson) :
    compareMembersBy compareScalars lefts rights =
      .ok (sameMembers (unifiedMembers lefts) (unifiedMembers rights)) := by
  induction lefts with
  | nil => rfl
  | cons member lefts ih =>
      obtain ⟨key, left⟩ := member
      obtain ⟨first, others⟩ := List.forall_mem_cons.mp each
      rw [compareMembersBy, unifiedMembers, sameMembers, get?_unifiedMembers]
      cases found : Members.get? key rights with
      | none => rfl
      | some right =>
          obtain ⟨other, isMember, rfl⟩ := Members.value_of_get? found
          dsimp only [Option.map_some]
          rw [show compareBy compareScalars left other.2 = _ from
            first other.2 (rightJson other isMember)]
          cases left.unified.sameJson other.2.unified with
          | false => rfl
          | true => exact ih others

theorem compare_of_flat (leftJson : left.IsJson) (rightJson : right.IsJson)
    (flat : areNested left right = false) :
    left.compare right = .ok (left.unified.sameJson right.unified) := by
  have scalars : left.compare right = left.compareScalars right := by
    cases left <;> cases right <;> first | rfl | cases flat
  rw [scalars, compareScalars_eq leftJson rightJson flat]

/-- Equality across kinds has a result on values of JSON.  It is that of the values with their
truth values and integral doubles written as integers. -/
theorem compare_eq (leftJson : left.IsJson) (rightJson : right.IsJson) :
    left.compare right = .ok (left.unified.sameJson right.unified) := by
  induction leftJson generalizing right with
  | @list lefts values ih =>
      have flat := compare_of_flat (.list values) rightJson
      cases rightJson with
      | @list rights rightValues =>
          have each := compareListsBy_eq (fun left isLeft _ => ih left isLeft) rightValues
          rw [compare, compareBy, unified, unified, sameJson]
          split
          · rename_i sameLength
            exact each sameLength
          · rename_i otherLength
            rw [Except.ok.injEq, eq_comm, Bool.eq_false_iff]
            intro same
            apply otherLength
            simpa [unifiedItems_eq_map] using length_eq_of_sameItems same
      | _ => exact flat rfl
  | @object lefts texts distinct values ih =>
      have flat := compare_of_flat (.object texts distinct values) rightJson
      cases rightJson with
      | object rightTexts rightDistinct rightValues =>
          have each := compareMembersBy_eq (fun left isLeft _ => ih left isLeft) rightValues
          rw [compare, compareBy, unified, unified, sameJson, each]
          simp only [unifiedMembers_eq_map, List.length_map]
          split <;> rename_i lengths <;> simp [lengths]
      | _ => exact flat rfl
  | _ => exact compare_of_flat (by constructor) rightJson rfl

/-! ## What is confused -/

theorem kind_eq_of_sameJson (same : left.sameJson right = true) : left.kind = right.kind := by
  cases left <;> cases right <;> first | rfl | cases same

/-- Scalars of one kind are the same value exactly if they are equal across kinds. -/
theorem sameJson_unified_of_flat (leftJson : left.IsJson) (rightJson : right.IsJson)
    (sameKind : left.kind = right.kind) (flat : areNested left right = false) :
    left.unified.sameJson right.unified = left.sameJson right := by
  cases leftJson with
  | bool flag =>
      cases rightJson <;> cases sameKind
      rename_i other
      cases flag <;> cases other <;> rfl
  | float number =>
      cases rightJson <;> cases sameKind
      rename_i other
      rw [sameJson_of_exactNumber? (.float number) rfl,
        ← equal_exactNumber? (.float number) (.float other) rfl rfl]
      rfl
  | list =>
      cases rightJson with
      | list => cases flat
      | _ => cases sameKind
  | object =>
      cases rightJson with
      | object => cases flat
      | _ => cases sameKind
  | _ =>
      cases rightJson <;> cases sameKind
      rfl

theorem sameItems_unified {lefts rights : List Value}
    (each : ∀ left ∈ lefts, ∀ right, right.IsJson → left.sameJson right = true →
      left.unified.sameJson right.unified = true)
    (rightJson : ∀ right ∈ rights, right.IsJson) (same : sameItems lefts rights = true) :
    sameItems (unifiedItems lefts) (unifiedItems rights) = true := by
  induction lefts generalizing rights with
  | nil => cases rights with
    | nil => rfl
    | cons => cases same
  | cons left lefts ih => cases rights with
    | nil => cases same
    | cons right rights =>
        obtain ⟨first, others⟩ := List.forall_mem_cons.mp each
        obtain ⟨firstJson, othersJson⟩ := List.forall_mem_cons.mp rightJson
        obtain ⟨firstSame, othersSame⟩ := (Bool.and_eq_true _ _ ▸ same :)
        rw [unifiedItems, unifiedItems, sameItems, first right firstJson firstSame,
          ih others othersJson othersSame, Bool.and_true]

theorem sameMembers_unified {lefts rights : Members}
    (each : ∀ left ∈ lefts, ∀ right, right.IsJson → left.2.sameJson right = true →
      left.2.unified.sameJson right.unified = true)
    (rightJson : ∀ right ∈ rights, right.2.IsJson) (same : sameMembers lefts rights = true) :
    sameMembers (unifiedMembers lefts) (unifiedMembers rights) = true := by
  induction lefts with
  | nil => rfl
  | cons member lefts ih =>
      obtain ⟨key, left⟩ := member
      obtain ⟨first, others⟩ := List.forall_mem_cons.mp each
      rw [unifiedMembers, sameMembers, get?_unifiedMembers]
      rw [sameMembers] at same
      cases found : Members.get? key rights with
      | none =>
          rw [found] at same
          cases same
      | some right =>
          obtain ⟨other, isMember, rfl⟩ := Members.value_of_get? found
          rw [found] at same
          obtain ⟨firstSame, othersSame⟩ := (Bool.and_eq_true _ _ ▸ same :)
          simp only [Option.map_some, first other.2 (rightJson other isMember) firstSame,
            ih others othersSame, Bool.and_true]

/-- The same values stay the same when they are written as integers. -/
theorem sameJson_unified (leftJson : left.IsJson) (rightJson : right.IsJson)
    (same : left.sameJson right = true) : left.unified.sameJson right.unified = true := by
  induction leftJson generalizing right with
  | @list lefts values ih =>
      cases rightJson with
      | @list rights rightValues =>
          exact sameItems_unified (fun left isLeft _ => ih left isLeft) rightValues same
      | _ => cases same
  | @object lefts texts distinct values ih =>
      cases rightJson with
      | @object rights rightTexts rightDistinct rightValues =>
          obtain ⟨sameLength, sameMembers⟩ := (Bool.and_eq_true _ _ ▸ same :)
          have each := sameMembers_unified (fun left isLeft _ => ih left isLeft) rightValues
            sameMembers
          rw [unified, unified, sameJson, each, unifiedMembers_eq_map, unifiedMembers_eq_map,
            List.length_map, List.length_map, sameLength, Bool.true_and]
      | _ => cases same
  | _ =>
      rw [sameJson_unified_of_flat (by constructor) rightJson (kind_eq_of_sameJson same) rfl, same]

end Value

/-! ## Values that are the same as one -/

theorem Double.positive_of_ofDouble {number : Double} {top : Int} {bottom : Nat}
    (isRatio : Exact.ofDouble number = .ratio top bottom) : 0 < bottom := by
  cases number with
  | nan => cases isRatio
  | infinite negative => cases isRatio
  | finite negative significand exponent =>
      cases exponent <;> obtain ⟨_, rfl⟩ := Exact.ratio.inj isRatio
      · exact one_pos
      · exact Nat.pow_pos two_pos

/-- Numbers that equal one double are equal. -/
theorem Exact.equal_of_common {number : Double} {left right : Exact}
    (leftSame : (Exact.ofDouble number).equal left = true)
    (rightSame : (Exact.ofDouble number).equal right = true) : left.equal right = true := by
  cases isNumber : Exact.ofDouble number with
  | undefined => simp [isNumber, equal] at leftSame
  | infinite negative =>
      rw [isNumber] at leftSame rightSame
      cases left <;> cases right <;> simp_all [equal]
  | ratio top bottom =>
      rw [isNumber] at leftSame rightSame
      have positive := Double.positive_of_ofDouble isNumber
      cases left with
      | ratio leftTop leftBottom =>
          cases right with
          | ratio rightTop rightBottom =>
              have nonzero : (bottom : Int) ≠ 0 := by positivity
              simp only [equal, beq_iff_eq] at leftSame rightSame ⊢
              refine mul_right_cancel₀ nonzero ?_
              calc leftTop * rightBottom * bottom
                  = top * leftBottom * rightBottom := by rw [leftSame]; ring
                _ = rightTop * leftBottom * bottom := by
                    rw [mul_right_comm, rightSame]; ring
          | _ => cases rightSame
      | _ => cases leftSame

namespace Value

variable {left right : Value}

theorem sameJson_of_isContainer (scalar : left.isContainer = false) :
    left.sameJson right = left.sameScalar right := by
  cases left <;> cases right <;> first | rfl | cases scalar

theorem eq_of_sameScalar (noFloat : ∀ number, left ≠ .float number)
    (same : left.sameScalar right = true) : left = right := by
  cases left with
  | float number => exact absurd rfl (noFloat number)
  | _ => cases right <;> simp_all [sameScalar]

theorem sameMembers_iff {lefts rights : Members} :
    sameMembers lefts rights = true ↔ ∀ member ∈ lefts, ∃ right,
      Members.get? member.1 rights = some right ∧ member.2.sameJson right = true := by
  induction lefts with
  | nil => simp [sameMembers]
  | cons member lefts ih =>
      obtain ⟨key, left⟩ := member
      rw [sameMembers, List.forall_mem_cons, ← ih]
      cases Members.get? key rights <;> simp

theorem sameItems_of_common {items lefts rights : List Value}
    (each : ∀ item ∈ items, ∀ left right, left.IsJson → right.IsJson →
      item.sameJson left = true → item.sameJson right = true → left.sameJson right = true)
    (leftJson : ∀ left ∈ lefts, left.IsJson) (rightJson : ∀ right ∈ rights, right.IsJson)
    (leftSame : sameItems items lefts = true) (rightSame : sameItems items rights = true) :
    sameItems lefts rights = true := by
  induction items generalizing lefts rights with
  | nil =>
      cases lefts <;> cases leftSame
      exact rightSame
  | cons item items ih =>
      cases lefts with
      | nil => cases leftSame
      | cons left lefts =>
          cases rights with
          | nil => cases rightSame
          | cons right rights =>
              obtain ⟨first, others⟩ := List.forall_mem_cons.mp each
              obtain ⟨firstLeft, otherLefts⟩ := List.forall_mem_cons.mp leftJson
              obtain ⟨firstRight, otherRights⟩ := List.forall_mem_cons.mp rightJson
              obtain ⟨isLeft, areLefts⟩ := (Bool.and_eq_true _ _ ▸ leftSame :)
              obtain ⟨isRight, areRights⟩ := (Bool.and_eq_true _ _ ▸ rightSame :)
              rw [sameItems, first left right firstLeft firstRight isLeft isRight,
                ih others otherLefts otherRights areLefts areRights, Bool.and_true]

/-- Objects of as many members, all of them the same, have the same keys. -/
theorem keys_subset_of_sameMembers {members lefts : Members} (keyed : members.TextKeyed)
    (sameLength : members.length = lefts.length) (same : sameMembers members lefts = true) :
    lefts.keys ⊆ members.keys := by
  have within : members.keys ⊆ lefts.keys := by
    intro key isKey
    obtain ⟨member, isMember, rfl⟩ := List.mem_map.mp isKey
    obtain ⟨left, found, _⟩ := sameMembers_iff.mp same member isMember
    obtain ⟨content, isText⟩ := keyed.texts _ isKey
    rw [isText] at found ⊢
    exact Members.contains_text_iff.mp (Option.isSome_iff_exists.mpr ⟨left, found⟩)
  have lengths : lefts.keys.length ≤ members.keys.length := by
    simp [Members.keys, sameLength]
  exact ((List.subperm_of_subset keyed.distinct within).perm_of_length_le lengths).symm.subset

theorem sameMembers_of_common {members lefts rights : Members}
    (each : ∀ member ∈ members, ∀ left right, left.IsJson → right.IsJson →
      member.2.sameJson left = true → member.2.sameJson right = true →
      left.sameJson right = true)
    (keyed : members.TextKeyed) (leftJson : (Value.object lefts).IsJson)
    (rightJson : (Value.object rights).IsJson) (sameLength : members.length = lefts.length)
    (leftSame : sameMembers members lefts = true)
    (rightSame : sameMembers members rights = true) : sameMembers lefts rights = true := by
  refine sameMembers_iff.mpr fun left isLeft => ?_
  have isKey := keys_subset_of_sameMembers keyed sameLength leftSame
    (List.mem_map.mpr ⟨left, isLeft, rfl⟩)
  obtain ⟨member, isMember, sameKey⟩ := List.mem_map.mp isKey
  obtain ⟨content, isText⟩ := keyed.texts _ isKey
  obtain ⟨value, leftFound, leftEqual⟩ := sameMembers_iff.mp leftSame member isMember
  obtain ⟨right, rightFound, rightEqual⟩ := sameMembers_iff.mp rightSame member isMember
  rw [sameKey, isText] at leftFound
  have isValue : (Key.text content, left.2) ∈ lefts := by
    rw [← isText]
    exact isLeft
  obtain rfl : left.2 = value :=
    Option.some.inj ((leftJson.textKeyed.get?_of_mem isValue).symm.trans leftFound)
  exact ⟨right, sameKey ▸ rightFound, each member isMember _ _ (leftJson.of_mem isLeft)
    (rightJson.get? rightFound) leftEqual rightEqual⟩

/-- Values of JSON that are the same as one value are the same. -/
theorem sameJson_of_common {value : Value} (isJson : value.IsJson) (leftJson : left.IsJson)
    (rightJson : right.IsJson) (leftSame : value.sameJson left = true)
    (rightSame : value.sameJson right = true) : left.sameJson right = true := by
  induction isJson generalizing left right with
  | @list items values ih =>
      cases leftJson with
      | list leftValues =>
          cases rightJson with
          | list rightValues =>
              exact sameItems_of_common (fun item isItem _ _ => ih item isItem) leftValues
                rightValues leftSame rightSame
          | _ => cases rightSame
      | _ => cases leftSame
  | @object members texts distinct values ih =>
      cases left with
      | object lefts =>
          cases right with
          | object rights =>
              obtain ⟨leftLength, areLefts⟩ := (Bool.and_eq_true _ _ ▸ leftSame :)
              obtain ⟨rightLength, areRights⟩ := (Bool.and_eq_true _ _ ▸ rightSame :)
              have each := sameMembers_of_common (fun member isMember _ _ => ih member isMember)
                (IsJson.object texts distinct values).textKeyed leftJson rightJson
                (beq_iff_eq.mp leftLength) areLefts areRights
              rw [sameJson, each, Bool.and_true]
              exact beq_iff_eq.mpr ((beq_iff_eq.mp leftLength).symm.trans
                (beq_iff_eq.mp rightLength))
          | _ => cases rightSame
      | _ => cases leftSame
  | float number =>
      rw [sameJson_of_isContainer rfl] at leftSame rightSame
      cases left with
      | float =>
          cases right with
          | float => exact Exact.equal_of_common leftSame rightSame
          | _ => cases rightSame
      | _ => cases leftSame
  | _ =>
      rw [sameJson_of_isContainer rfl] at leftSame
      obtain rfl := eq_of_sameScalar (by simp) leftSame
      exact rightSame

end Value

end DocStore
