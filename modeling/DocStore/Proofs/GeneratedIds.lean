import Mathlib.Algebra.Group.Int.Defs
import Mathlib.Data.String.Basic
import DocStore.ObjectId

/-!
# Generated ids

The digits of a padded number have the order of the numbers, as long as these fit into the
width.  An id is such digits of the seconds and then those of the random bytes, and nothing is
cut off.  So ids have one length, tell apart what they are made of, and are in the order of
their seconds.
-/

namespace DocStore

/-! ## Padded digits -/

/-- The digits of base sixteen, in lower case. -/
def lowerHexDigits : List Char := "0123456789abcdef".toList

theorem digitChar_mem_lowerHexDigits {digit : Nat} (small : digit < 16) :
    digit.digitChar ∈ lowerHexDigits := by
  have all : ∀ digit < 16, Nat.digitChar digit ∈ lowerHexDigits := by decide
  exact all digit small

theorem digitChar_lt_digitChar {left right : Nat} (less : left < right) (small : right < 16) :
    left.digitChar < right.digitChar := by
  have all : ∀ right < 16, ∀ left < right, Nat.digitChar left < Nat.digitChar right := by decide
  exact all right small left less

/-- Texts of one length keep their order, whatever follows them. -/
theorem append_lt_append_of_length_eq {left right : List Char}
    (sameLength : left.length = right.length) (less : left < right)
    (leftRest rightRest : List Char) :
    left ++ leftRest < right ++ rightRest := by
  induction left generalizing right with
  | nil =>
      cases right with
      | nil => exact absurd less (List.lt_irrefl [])
      | cons _ _ => cases sameLength
  | cons first left ih =>
      cases right with
      | nil => cases sameLength
      | cons second right =>
          rw [List.cons_append, List.cons_append, List.cons_lt_cons_iff]
          rcases List.cons_lt_cons_iff.mp less with before | ⟨same, later⟩
          · exact .inl before
          · exact .inr ⟨same, ih (Nat.succ.inj sameLength) later⟩

section

variable {width number left right : Nat}

theorem length_hexDigits (some : 1 ≤ width) (fits : number < 16 ^ width) :
    (hexDigits width number).length = width := by
  induction width, some using Nat.le_induction generalizing number with
  | base => rw [hexDigits_one fits, List.length_singleton]
  | succ width some ih =>
      have rest : number / 16 < 16 ^ width := by omega
      rw [hexDigits_succ some, List.length_append, ih rest, List.length_singleton]

theorem mem_lowerHexDigits_of_mem_hexDigits (some : 1 ≤ width) (fits : number < 16 ^ width)
    {character : Char} (isDigit : character ∈ hexDigits width number) :
    character ∈ lowerHexDigits := by
  induction width, some using Nat.le_induction generalizing number with
  | base =>
      rw [hexDigits_one fits, List.mem_singleton] at isDigit
      exact isDigit ▸ digitChar_mem_lowerHexDigits fits
  | succ width some ih =>
      have rest : number / 16 < 16 ^ width := by omega
      rw [hexDigits_succ some, List.mem_append, List.mem_singleton] at isDigit
      rcases isDigit with isEarlier | isLast
      · exact ih rest isEarlier
      · exact isLast ▸ digitChar_mem_lowerHexDigits (Nat.mod_lt _ (by decide))

/-- Padded digits have the order of their numbers: either the numbers differ before their last
digits, or only in these. -/
theorem hexDigits_lt_hexDigits (some : 1 ≤ width) (less : left < right)
    (fits : right < 16 ^ width) : hexDigits width left < hexDigits width right := by
  induction width, some using Nat.le_induction generalizing left right with
  | base =>
      rw [hexDigits_one fits, hexDigits_one (less.trans fits), List.cons_lt_cons_iff]
      exact .inl (digitChar_lt_digitChar less fits)
  | succ width some ih =>
      have rightRest : right / 16 < 16 ^ width := by omega
      have leftRest : left / 16 < 16 ^ width := by omega
      rw [hexDigits_succ some, hexDigits_succ some]
      rcases (Nat.div_le_div_right (c := 16) less.le).lt_or_eq with before | same
      · refine append_lt_append_of_length_eq ?_ (ih before rightRest) _ _
        rw [length_hexDigits some leftRest, length_hexDigits some rightRest]
      · have lastLess : left % 16 < right % 16 := by omega
        have digitLess := digitChar_lt_digitChar lastLess (Nat.mod_lt _ (by decide))
        rw [same]
        exact List.append_left_lt (List.cons_lt_cons_iff.mpr (.inl digitLess))

end

namespace ObjectId

/-! ## Random bytes -/

theorem mem_lowerHexDigits_of_mem_bytesText {bytes : List UInt8} {character : Char}
    (isDigit : character ∈ bytesText bytes) : character ∈ lowerHexDigits := by
  obtain ⟨byte, _, isDigit⟩ := List.mem_flatMap.mp isDigit
  exact mem_lowerHexDigits_of_mem_hexDigits (by decide) byte.toNat_lt isDigit

theorem hexDigits_byte_inj {left right : UInt8}
    (same : hexDigits 2 left.toNat = hexDigits 2 right.toNat) : left = right := by
  rcases Nat.lt_trichotomy left.toNat right.toNat with less | equal | greater
  · exact absurd same (hexDigits_lt_hexDigits (by decide) less right.toNat_lt).ne
  · exact UInt8.toNat_inj.mp equal
  · exact absurd same.symm (hexDigits_lt_hexDigits (by decide) greater left.toNat_lt).ne

theorem bytesText_inj {left right : List UInt8} (same : bytesText left = bytesText right) :
    left = right := by
  have sameLength : left.length = right.length := by
    have lengths := congrArg List.length same
    rw [length_bytesText, length_bytesText] at lengths
    omega
  induction left generalizing right with
  | nil => exact (List.length_eq_zero_iff.mp sameLength.symm).symm
  | cons first left ih =>
      cases right with
      | nil => cases sameLength
      | cons second right =>
          obtain ⟨sameFirst, sameRest⟩ := List.append_inj same (by
            rw [length_hexDigits (by decide) first.toNat_lt,
              length_hexDigits (by decide) second.toNat_lt])
          rw [hexDigits_byte_inj sameFirst, ih sameRest (Nat.succ.inj sameLength)]

/-! ## Ids -/

/-- What an id is made of: a second of the clock, which counts up to `2 ^ 32`, and eight random
bytes. -/
@[ext]
structure Seed where
  seconds : Int
  random : List UInt8
  isCounted : 0 ≤ seconds
  inRange : seconds < 2 ^ 32
  drawn : random.length = randomLength

namespace Seed

def id (seed : Seed) : String := generate seed.seconds seed.random

variable (seed : Seed) {left right earlier later : Seed}

theorem toNat_seconds_lt : seed.seconds.toNat < 16 ^ 8 := by
  have counted := seed.isCounted
  have bound := seed.inRange
  omega

theorem length_bytesText_random : (bytesText seed.random).length = 16 := by
  rw [length_bytesText, seed.drawn]
  rfl

/-- Nothing of the seconds and the bytes is cut off. -/
theorem toList_id :
    seed.id.toList = hexDigits 8 seed.seconds.toNat ++ bytesText seed.random := by
  have counted : secondsText seed.seconds = hexDigits 8 seed.seconds.toNat := by
    rw [← Int.toNat_of_nonneg seed.isCounted]
    rfl
  rw [id, generate, String.toList_ofList, counted]
  apply List.take_of_length_le
  rw [List.length_append, length_hexDigits (by decide) seed.toNat_seconds_lt,
    length_bytesText_random]
  exact Nat.le_refl 24

theorem length_id : seed.id.length = length := by
  rw [← String.length_toList, toList_id, List.length_append,
    length_hexDigits (by decide) seed.toNat_seconds_lt, length_bytesText_random]
  rfl

theorem mem_lowerHexDigits_of_mem_id {character : Char} (isDigit : character ∈ seed.id.toList) :
    character ∈ lowerHexDigits := by
  rw [toList_id, List.mem_append] at isDigit
  rcases isDigit with ofSeconds | ofBytes
  · exact mem_lowerHexDigits_of_mem_hexDigits (by decide) seed.toNat_seconds_lt ofSeconds
  · exact mem_lowerHexDigits_of_mem_bytesText ofBytes

theorem id_lt_id (less : earlier.seconds < later.seconds) : earlier.id < later.id := by
  have lessNat : earlier.seconds.toNat < later.seconds.toNat := by
    have counted := earlier.isCounted
    omega
  rw [String.lt_iff_toList_lt, toList_id, toList_id]
  refine append_lt_append_of_length_eq ?_
    (hexDigits_lt_hexDigits (by decide) lessNat later.toNat_seconds_lt) _ _
  rw [length_hexDigits (by decide) earlier.toNat_seconds_lt,
    length_hexDigits (by decide) later.toNat_seconds_lt]

/-- Seconds that differ order the ids, and in one second the bytes tell them apart. -/
theorem id_inj : left.id = right.id ↔ left = right := by
  refine ⟨fun same => ?_, congrArg id⟩
  rcases lt_trichotomy left.seconds right.seconds with less | sameSecond | greater
  · exact absurd (same ▸ id_lt_id less) (String.lt_irrefl _)
  · have texts := congrArg String.toList same
    rw [toList_id, toList_id, sameSecond] at texts
    exact Seed.ext sameSecond (bytesText_inj (List.append_cancel_left texts))
  · exact absurd (same ▸ id_lt_id greater) (String.lt_irrefl _)

end Seed

/-- Generated ids are well formed, unique, and in the order of time: an id has exactly 24 digits
of base sixteen in lower case, ids of different seconds or bytes are different, and the id of
an earlier second comes before that of a later one. -/
theorem generated_ids_ordered :
    (∀ seed : Seed, seed.id.length = 24 ∧
      ∀ character ∈ seed.id.toList, character ∈ "0123456789abcdef".toList) ∧
    (∀ left right : Seed, left.id = right.id ↔
      left.seconds = right.seconds ∧ left.random = right.random) ∧
    ∀ earlier later : Seed, earlier.seconds < later.seconds → earlier.id < later.id := by
  refine ⟨fun seed => ⟨seed.length_id, fun _ => seed.mem_lowerHexDigits_of_mem_id⟩,
    fun left right => ?_, fun _ _ => Seed.id_lt_id⟩
  rw [Seed.id_inj, Seed.ext_iff]

/-- A second whose first digit changes, with bytes that are in the other order. -/
theorem generated_ids_ordered_carry :
    let earlier : Seed := ⟨0x6fffffff, List.replicate 8 255, by decide, by decide, rfl⟩
    let later : Seed := ⟨0x70000000, List.replicate 8 0, by decide, by decide, rfl⟩
    earlier.seconds < later.seconds ∧ earlier.id = "6fffffffffffffffffffffff" ∧
      later.id = "700000000000000000000000" ∧ earlier.id < later.id := by
  intro earlier later
  have less : earlier.seconds < later.seconds := by decide
  exact ⟨less, by decide +kernel, by decide +kernel, generated_ids_ordered.2.2 earlier later less⟩

end ObjectId

end DocStore
