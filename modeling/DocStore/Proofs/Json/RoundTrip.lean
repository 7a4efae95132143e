import Mathlib
import DocStore.Document
import DocStore.Proofs.Json.FloatText
import DocStore.Proofs.Json.Text
import DocStore.Proofs.TextKeys

/-!
# What is encoded is decoded

A value with text keys is decoded from its JSON text as it was, doubles and the order
of members included.
-/

namespace DocStore

/-! ## Scalars of JSON, read back

Null, truth values, numbers and texts are read back from what is written for them,
and so are the texts that are keys.
-/

namespace Json

/-! ### Texts -/

theorem length_le_flatMap (characters : List Char) :
    characters.length ≤ (characters.flatMap escapeCharacter).length := by
  induction characters with
  | nil => exact Nat.le_refl 0
  | cons character characters ih =>
      have nonempty : 0 < (escapeCharacter character).length := by
        rcases escapeCharacter_cases character with
          ⟨written, _⟩ | ⟨_, written, _⟩ | ⟨_, written⟩ | ⟨_, _, written⟩ <;>
          simp [written, escapeUnit]
      rw [List.flatMap_cons, List.length_append, List.length_cons]
      omega

theorem readString_written (content : String) (rest : List Char) :
    readString (content.toList.flatMap escapeCharacter ++ '"' :: rest) = .ok (content, rest) := by
  have enough : content.toList.length <
      (content.toList.flatMap escapeCharacter ++ '"' :: rest).length + 1 := by
    have := length_le_flatMap content.toList
    rw [List.length_append]
    omega
  simp only [readString, readText?_written content.toList rest enough, demand, bind, Except.bind,
    String.ofList_toList]

theorem writeText_append (content : String) (rest : List Char) :
    writeText content ++ rest =
      '"' :: (content.toList.flatMap escapeCharacter ++ '"' :: rest) := by
  simp [writeText]

theorem readKey_written (key : String) (rest : List Char) :
    readKey (writeText key ++ ':' :: rest) = .ok (key, rest) := by
  rw [writeText_append, readKey, readString_written]
  rfl

/-! ### Integers -/

theorem toString_int (number : Int) :
    (toString number).toList =
      if number < 0 then '-' :: Nat.toDigits 10 number.natAbs
      else Nat.toDigits 10 number.natAbs := by
  cases number with
  | ofNat count => simp [Int.repr, Nat.toList_repr]
  | negSucc count => simp [Int.repr, Nat.toList_repr]

theorem readScalar_int {number : Int} (writable : isWritableInteger number = true)
    {rest : List Char} (closes : Closes rest) :
    readScalar ((toString number).toList ++ rest) = .ok (.int number, rest) := by
  rw [isWritableInteger, decide_eq_true_eq] at writable
  have read := readScalar_of_readMagnitude
    (readMagnitude_toDigits (decide (number < 0)) closes writable)
  rw [toString_int]
  by_cases below : number < 0
  · have whole : -(number.natAbs : Int) = number := by omega
    rw [if_pos (decide_eq_true below), if_pos (decide_eq_true below), whole] at read
    rw [if_pos below]
    exact read
  · have whole : (number.natAbs : Int) = number := by omega
    rw [if_neg (by simpa using below), if_neg (by simpa using below), whole] at read
    rw [if_neg below]
    exact read

/-! ### Scalars -/

/-- The values that are written without brackets. -/
def IsScalar : Value → Prop
  | .null | .bool _ | .int _ | .float _ | .text _ => True
  | _ => False

theorem readScalar_quote (rest : List Char) :
    readScalar ('"' :: rest) =
      (readString rest).map fun read => (.text read.1, read.2) := by
  have noLiteral : readLiteral? ('"' :: rest) = none := by
    simp [readLiteral?, literals, afterWord?]
  rw [readScalar, noLiteral]
  cases readString rest <;> rfl

theorem readScalar_writeScalar {value : Value} (scalar : IsScalar value)
    (encodable : obstacle? value = none) {rest : List Char} (closes : Closes rest) :
    readScalar (writeScalar value ++ rest) = .ok (value, rest) := by
  cases value with
  | null => rfl
  | bool flag => cases flag <;> rfl
  | int number =>
      refine readScalar_int ?_ closes
      by_contra long
      simp [obstacle?, integerObstacle?, long] at encodable
  | float number => exact readScalar_float number closes
  | text content =>
      rw [writeScalar, writeText_append, readScalar_quote, readString_written]
      rfl
  | _ => cases scalar

end Json

/-! ## Members -/

namespace Members

theorem set_fresh {members : Members} {content : String} {value : Value}
    (fresh : .text content ∉ members.keys) :
    members.set content value = members ++ [(.text content, value)] := by
  induction members with
  | nil => rfl
  | cons member members ih =>
      obtain ⟨name, old⟩ := member
      obtain ⟨other, later⟩ := not_or.mp (mt List.mem_cons.mpr fresh)
      rw [set, Key.same_text, if_neg (by simpa using fun same => other (Eq.symm same)), ih later]
      rfl

theorem merge_fresh {members additions : Members}
    (keyed : TextKeyed (members ++ additions)) : members.merge additions = members ++ additions := by
  induction additions generalizing members with
  | nil => exact (List.append_nil members).symm
  | cons addition additions ih =>
      obtain ⟨key, value⟩ := addition
      obtain ⟨content, rfl⟩ := keyed.texts key (by simp [keys])
      have fresh : .text content ∉ members.keys := by
        have distinct := keyed.distinct
        rw [keys, List.map_append, List.map_cons, List.nodup_append] at distinct
        exact fun used => distinct.2.2 _ used _ List.mem_cons_self rfl
      have split : members ++ (.text content, value) :: additions =
          members ++ [(.text content, value)] ++ additions := by simp
      rw [split] at keyed ⊢
      rw [merge, List.foldl_cons, set_fresh fresh]
      exact ih keyed

theorem TextKeyed.ofPairs {members : Members} (keyed : TextKeyed members) :
    ofPairs members = members :=
  merge_fresh keyed

end Members

namespace Json

/-! ## First characters -/

/-- A text starts with a character that is neither a blank nor a closing bracket. -/
def Starts (text : List Char) : Prop :=
  ∃ character after, text = character :: after ∧ isSpace character = false ∧
    character ≠ ']' ∧ character ≠ '\x7d'

theorem Starts.append {text : List Char} (starts : Starts text) (rest : List Char) :
    Starts (text ++ rest) := by
  obtain ⟨character, after, rfl, visible⟩ := starts
  exact ⟨character, after ++ rest, rfl, visible⟩

theorem Starts.skipSpace {text : List Char} (starts : Starts text) : skipSpace text = text := by
  obtain ⟨character, after, rfl, visible, _⟩ := starts
  simp [Json.skipSpace, visible]

/-- The blanks and the brackets, with which no scalar starts. -/
def marks : List Char := [' ', '\t', '\n', '\r', '[', ']', '\x7b', '\x7d']

theorem readScalar_mark {character : Char} (mark : character ∈ marks) (after : List Char) :
    readScalar (character :: after) = .error .malformedJson := by
  simp only [marks, List.mem_cons, List.not_mem_nil, or_false] at mark
  rcases mark with rfl | rfl | rfl | rfl | rfl | rfl | rfl | rfl <;> rfl

theorem starts_of_readScalar {text : List Char} {found : Value × List Char}
    (read : readScalar text = .ok found) :
    ∃ character after, text = character :: after ∧ character ∉ marks := by
  cases text with
  | nil => cases read
  | cons character after =>
      refine ⟨character, after, rfl, fun mark => ?_⟩
      rw [readScalar_mark mark] at read
      cases read

theorem starts_of_notMem {character : Char} (other : character ∉ marks) (after : List Char) :
    Starts (character :: after) := by
  simp only [marks, List.mem_cons, List.not_mem_nil, or_false, not_or] at other
  exact ⟨character, after, rfl, by simp [isSpace, other], other.2.2.2.2.2.1,
    other.2.2.2.2.2.2.2⟩

theorem readValue_of_readScalar {text : List Char} {found : Value × List Char}
    (read : readScalar text = .ok found) (fuel : Nat) :
    readValue (fuel + 1) text = .ok found := by
  obtain ⟨character, after, rfl, other⟩ := starts_of_readScalar read
  rw [readValue, (starts_of_notMem other after).skipSpace]
  split
  · rename_i same
    cases same
    exact absurd (by decide) other
  · rename_i same
    cases same
    exact absurd (by decide) other
  · exact read

theorem write_scalar {value : Value} (scalar : IsScalar value) :
    write value = writeScalar value := by
  cases value <;> first | rfl | cases scalar

theorem starts_write {value : Value} (encodable : obstacle? value = none) :
    Starts (write value) := by
  by_cases scalar : IsScalar value
  · have read := readScalar_writeScalar scalar encodable (.inl rfl)
    obtain ⟨character, after, written, other⟩ := starts_of_readScalar read
    rw [List.append_nil] at written
    rw [write_scalar scalar, written]
    exact starts_of_notMem other after
  · cases value with
    | list items => cases items <;> exact ⟨'[', _, rfl, rfl, by decide, by decide⟩
    | object members => cases members <;> exact ⟨'\x7b', _, rfl, rfl, by decide, by decide⟩
    | decimal number => cases encodable
    | bytes content => cases encodable
    | _ => exact absurd trivial scalar

/-! ## Containers -/

/-- A value is read up to the end of its text, with enough fuel. -/
def ReadsBack (value : Value) : Prop :=
  ∀ (fuel : Nat) (rest : List Char), Closes rest → 2 * (write value).length ≤ fuel →
    readValue fuel (write value ++ rest) = .ok (value, rest)

theorem closes_writeItems (items : List Value) (rest : List Char) :
    Closes (writeItems items ++ rest) := by
  cases items with
  | nil => exact .inr ⟨']', rest, rfl, .inr (.inl rfl)⟩
  | cons item items => exact .inr ⟨',', _, rfl, .inl rfl⟩

theorem closes_writeMembers (members : Members) (rest : List Char) :
    Closes (writeMembers members ++ rest) := by
  cases members with
  | nil => exact .inr ⟨'\x7d', rest, rfl, .inr (.inr rfl)⟩
  | cons member members => exact .inr ⟨',', _, rfl, .inl rfl⟩

theorem readValue_blank (fuel : Nat) (text : List Char) :
    readValue fuel (' ' :: text) = readValue fuel text := by
  cases fuel with
  | zero => rfl
  | succ fuel =>
      have skipped : skipSpace (' ' :: text) = skipSpace text := rfl
      rw [readValue, readValue, skipped]

theorem readItems_blank (fuel : Nat) (text : List Char) :
    readItems fuel (' ' :: text) = readItems fuel text := by
  cases fuel with
  | zero => rfl
  | succ fuel => rw [readItems, readItems, readValue_blank]

theorem readMembers_blank (fuel : Nat) (text : List Char) :
    readMembers fuel (' ' :: text) = readMembers fuel text := by
  cases fuel with
  | zero => rfl
  | succ fuel =>
      have skipped : skipSpace (' ' :: text) = skipSpace text := rfl
      rw [readMembers, readMembers, skipped]

/-- The element at the front of a list is read before the others. -/
theorem readItems_cons {item : Value} {fuel : Nat} {after : List Char} (reads : ReadsBack item)
    (closes : Closes after) (enough : 2 * (write item).length ≤ fuel) :
    readItems (fuel + 1) (write item ++ after) =
      match skipSpace after with
      | ',' :: rest => do
          let (items, rest) ← readItems fuel rest
          .ok (item :: items, rest)
      | ']' :: rest => .ok ([item], rest)
      | _ => .error .malformedJson := by
  rw [readItems, reads fuel after closes enough]
  rfl

theorem readItems_write {item : Value} {items : List Value}
    (first : ReadsBack item) (others : ∀ value ∈ items, ReadsBack value)
    {fuel : Nat} (enough : 2 * (write item ++ writeItems items).length < fuel)
    (rest : List Char) :
    readItems fuel (write item ++ (writeItems items ++ rest)) = .ok (item :: items, rest) := by
  induction items generalizing item fuel with
  | nil =>
      obtain ⟨fuel, rfl⟩ := Nat.exists_eq_add_one_of_ne_zero (Nat.ne_zero_of_lt enough)
      rw [List.length_append] at enough
      rw [readItems_cons first (closes_writeItems [] rest) (by omega)]
      rfl
  | cons next items ih =>
      obtain ⟨second, later⟩ := List.forall_mem_cons.mp others
      obtain ⟨fuel, rfl⟩ := Nat.exists_eq_add_one_of_ne_zero (Nat.ne_zero_of_lt enough)
      have written : writeItems (next :: items) ++ rest =
          ',' :: ' ' :: (write next ++ (writeItems items ++ rest)) := by
        simp [writeItems]
      simp only [List.length_append, writeItems, List.length_cons] at enough
      have shorter : 2 * (write next ++ writeItems items).length < fuel := by
        rw [List.length_append]
        omega
      have tail := ih second later shorter
      rw [readItems_cons first (closes_writeItems _ rest) (by omega), written]
      change (readItems fuel (' ' :: (write next ++ (writeItems items ++ rest))) >>= _) = _
      rw [readItems_blank, tail]
      rfl

/-- The member at the front of an object is read before the others. -/
theorem readMembers_cons {key : String} {value : Value} {fuel : Nat} {after : List Char}
    (reads : ReadsBack value) (closes : Closes after)
    (enough : 2 * (write value).length ≤ fuel) :
    readMembers (fuel + 1) (writeText key ++ ':' :: ' ' :: (write value ++ after)) =
      match skipSpace after with
      | ',' :: rest => do
          let (members, rest) ← readMembers fuel rest
          .ok ((.text key, value) :: members, rest)
      | '\x7d' :: rest => .ok ([(.text key, value)], rest)
      | _ => .error .malformedJson := by
  have visible (text : List Char) : skipSpace (writeText key ++ text) = writeText key ++ text :=
    rfl
  rw [readMembers, visible, readKey_written]
  change (readValue fuel (' ' :: (write value ++ after)) >>= _) = _
  rw [readValue_blank, reads fuel after closes enough]
  rfl

theorem readMembers_write {key : String} {value : Value} {members : Members}
    (texts : ∀ member ∈ members, ∃ content, member.1 = .text content)
    (first : ReadsBack value) (others : ∀ member ∈ members, ReadsBack member.2) {fuel : Nat}
    (enough : 2 * (writeText key ++ ':' :: ' ' :: (write value ++ writeMembers members)).length <
      fuel) (rest : List Char) :
    readMembers fuel
        (writeText key ++ ':' :: ' ' :: (write value ++ (writeMembers members ++ rest))) =
      .ok ((.text key, value) :: members, rest) := by
  induction members generalizing key value fuel with
  | nil =>
      obtain ⟨fuel, rfl⟩ := Nat.exists_eq_add_one_of_ne_zero (Nat.ne_zero_of_lt enough)
      simp only [List.length_append, List.length_cons] at enough
      rw [readMembers_cons first (closes_writeMembers [] rest) (by omega)]
      rfl
  | cons next members ih =>
      obtain ⟨name, amount⟩ := next
      obtain ⟨⟨content, isText⟩, otherTexts⟩ := List.forall_mem_cons.mp texts
      obtain rfl : name = .text content := isText
      obtain ⟨second, later⟩ := List.forall_mem_cons.mp others
      obtain ⟨fuel, rfl⟩ := Nat.exists_eq_add_one_of_ne_zero (Nat.ne_zero_of_lt enough)
      have written : writeMembers ((.text content, amount) :: members) ++ rest =
          ',' :: ' ' :: (writeText content ++ ':' :: ' ' ::
            (write amount ++ (writeMembers members ++ rest))) := by
        simp [writeMembers, writeKey, keyText]
      simp only [List.length_append, writeMembers, writeKey, keyText, List.length_cons] at enough
      have shorter : 2 * (writeText content ++ ':' :: ' ' ::
          (write amount ++ writeMembers members)).length < fuel := by
        simp only [List.length_append, List.length_cons]
        omega
      have tail := ih otherTexts second later shorter
      rw [readMembers_cons first (closes_writeMembers _ rest) (by omega), written]
      change (readMembers fuel (' ' :: (writeText content ++ ':' :: ' ' ::
        (write amount ++ (writeMembers members ++ rest)))) >>= _) = _
      rw [readMembers_blank, tail]
      rfl

/-! ## Values -/

theorem readsBack_of_succ {value : Value} (nonempty : write value ≠ [])
    (reads : ∀ (fuel : Nat) (rest : List Char), Closes rest →
      2 * (write value).length ≤ fuel + 1 →
        readValue (fuel + 1) (write value ++ rest) = .ok (value, rest)) : ReadsBack value := by
  intro fuel rest closes enough
  have positive := List.length_pos_of_ne_nil nonempty
  obtain ⟨fuel, rfl⟩ := Nat.exists_eq_add_one_of_ne_zero (by omega : fuel ≠ 0)
  exact reads fuel rest closes enough

theorem readsBack_scalar {value : Value} (scalar : IsScalar value)
    (encodable : obstacle? value = none) : ReadsBack value := by
  obtain ⟨character, after, written, _⟩ := starts_write encodable
  refine readsBack_of_succ (written ▸ List.cons_ne_nil _ _) fun fuel rest closes _ => ?_
  rw [write_scalar scalar]
  exact readValue_of_readScalar (readScalar_writeScalar scalar encodable closes) fuel

theorem readValue_openList (fuel : Nat) (text : List Char) :
    readValue (fuel + 1) ('[' :: text) =
      match skipSpace text with
      | ']' :: rest => .ok (.list [], rest)
      | rest => (readItems fuel rest).map fun read => (.list read.1, read.2) := by
  have opened : skipSpace ('[' :: text) = '[' :: text := rfl
  rw [readValue, opened]
  rfl

theorem readValue_list (fuel : Nat) {text : List Char} (starts : Starts text) :
    readValue (fuel + 1) ('[' :: text) =
      (readItems fuel text).map fun read => (.list read.1, read.2) := by
  obtain ⟨character, after, rfl, visible, notClosing, _⟩ := starts
  have skipped : skipSpace (character :: after) = character :: after := by
    simp [skipSpace, visible]
  rw [readValue_openList, skipped]
  split
  · rename_i same
    cases same
    exact absurd rfl notClosing
  · rfl

theorem readValue_openObject (fuel : Nat) (text : List Char) :
    readValue (fuel + 1) ('\x7b' :: text) =
      match skipSpace text with
      | '\x7d' :: rest => .ok (.object [], rest)
      | rest => (readMembers fuel rest).map fun read =>
          (.object (Members.ofPairs read.1), read.2) := by
  have opened : skipSpace ('\x7b' :: text) = '\x7b' :: text := rfl
  rw [readValue, opened]
  rfl

theorem readValue_object (fuel : Nat) {text : List Char} (starts : Starts text) :
    readValue (fuel + 1) ('\x7b' :: text) =
      (readMembers fuel text).map fun read => (.object (Members.ofPairs read.1), read.2) := by
  obtain ⟨character, after, rfl, visible, _, notClosing⟩ := starts
  have skipped : skipSpace (character :: after) = character :: after := by
    simp [skipSpace, visible]
  rw [readValue_openObject, skipped]
  split
  · rename_i same
    cases same
    exact absurd rfl notClosing
  · rfl

theorem readsBack_list {items : List Value} (encodable : itemsObstacle? items = none)
    (reads : ∀ item ∈ items, ReadsBack item) : ReadsBack (.list items) := by
  cases items with
  | nil => exact readsBack_of_succ (List.cons_ne_nil _ _) fun _ _ _ _ => rfl
  | cons item items =>
      refine readsBack_of_succ (List.cons_ne_nil _ _) fun fuel rest closes enough => ?_
      obtain ⟨first, others⟩ := List.forall_mem_cons.mp reads
      have front := obstacle?_of_mem_items encodable item List.mem_cons_self
      have starts := (starts_write front).append (writeItems items ++ rest)
      have shorter : 2 * (write item ++ writeItems items).length < fuel := by
        rw [write, List.length_cons] at enough
        omega
      have read := readItems_write first others shorter rest
      rw [write, List.cons_append, List.append_assoc, readValue_list fuel starts, read]
      rfl

theorem readsBack_object {members : Members} (keyed : Members.TextKeyed members)
    (reads : ∀ member ∈ members, ReadsBack member.2) : ReadsBack (.object members) := by
  cases members with
  | nil => exact readsBack_of_succ (List.cons_ne_nil _ _) fun _ _ _ _ => rfl
  | cons member members =>
      refine readsBack_of_succ (List.cons_ne_nil _ _) fun fuel rest closes enough => ?_
      obtain ⟨key, value⟩ := member
      obtain ⟨content, rfl⟩ := keyed.texts key List.mem_cons_self
      obtain ⟨first, others⟩ := List.forall_mem_cons.mp reads
      have texts : ∀ member ∈ members, ∃ content, member.1 = .text content :=
        fun member later => keyed.texts member.1
          (List.mem_cons_of_mem _ (List.mem_map_of_mem later))
      have written : write (.object ((.text content, value) :: members)) ++ rest =
          '\x7b' :: (writeText content ++ ':' :: ' ' ::
            (write value ++ (writeMembers members ++ rest))) := by
        simp [write, writeKey, keyText]
      have starts : Starts (writeText content ++ ':' :: ' ' ::
          (write value ++ (writeMembers members ++ rest))) :=
        ⟨'"', _, rfl, rfl, by decide, by decide⟩
      have shorter : 2 * (writeText content ++ ':' :: ' ' ::
          (write value ++ writeMembers members)).length < fuel := by
        rw [write, List.length_cons] at enough
        simp only [writeKey, keyText] at enough
        omega
      rw [written, readValue_object fuel starts,
        readMembers_write texts first others shorter rest]
      simp only [Except.map, keyed.ofPairs]

/-- Every value with text keys that can be written is read back. -/
theorem readsBack (value : Value) (keyed : value.hasTextKeys = true)
    (encodable : obstacle? value = none) : ReadsBack value := by
  by_cases scalar : IsScalar value
  · exact readsBack_scalar scalar encodable
  · cases value with
    | list items =>
        rw [Value.hasTextKeys_list] at keyed
        rw [obstacle?] at encodable
        exact readsBack_list encodable fun item member =>
          readsBack item (keyed item member) (obstacle?_of_mem_items encodable item member)
    | object members =>
        rw [Value.hasTextKeys_object] at keyed
        rw [obstacle?] at encodable
        exact readsBack_object keyed fun member isMember =>
          readsBack member.2 (keyed.values member isMember)
            (obstacle?_of_mem_members encodable member isMember)
    | decimal number => cases encodable
    | bytes content => cases encodable
    | _ => exact absurd trivial scalar
termination_by value
decreasing_by
  · subst_vars
    have := List.sizeOf_lt_of_mem member
    rw [Value.list.sizeOf_spec]
    omega
  · subst_vars
    have := List.sizeOf_lt_of_mem isMember
    have inside : sizeOf member = 1 + sizeOf member.1 + sizeOf member.2 := rfl
    rw [Value.object.sizeOf_spec]
    omega

/-- What is encoded is decoded. -/
theorem decode_of_encode {value : Value} (keyed : value.hasTextKeys = true) {text : String}
    (encoded : encode value = .ok text) : decode text = .ok value := by
  have encodable : obstacle? value = none := by
    rw [encode] at encoded
    split at encoded
    · cases encoded
    · assumption
  rw [encode, encodable] at encoded
  obtain rfl := Except.ok.inj encoded
  have read := readsBack value keyed encodable (2 * (write value).length + 2) [] (.inl rfl)
    (by omega)
  rw [List.append_nil] at read
  simp only [decode, String.toList_ofList, read, bind, Except.bind]
  rfl

end Json

end DocStore
