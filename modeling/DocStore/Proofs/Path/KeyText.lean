import DocStore.Json.Decode
import DocStore.Text.Identifier
import DocStore.Proofs.Path.Literal

/-!
# Paths of MySQL, read back

A path of MySQL is a dollar sign with steps after it, each of them a point and a key.  A key
is an identifier, with blanks around it that do not count, or a string in double quotes with
the escapes of JSON.

The quotes and backslashes of a segment are escaped for that string, but not once more for
the literal that the path stands in.  The literal takes each backslash for an escape of its
own, so that the segment reaches the reader of paths as it is, with nothing escaped in it.
It is read back if it has no quote and no backslash.  Otherwise what is read up to the first
quote of the segment is shorter, or it has a quote at an earlier place.
-/

namespace DocStore.Sql

variable (admits : Char → Bool)

/-! ## Steps -/

/-- Reads a key in double quotes, after the first of them.  What may stand there without an
escape is up to the engine. -/
def readKey? : Nat → List Char → Option (List Char × List Char)
  | 0, _ => none
  | _ + 1, [] => none
  | _ + 1, '"' :: rest => some ([], rest)
  | fuel + 1, '\\' :: 'u' :: rest =>
      (Json.readEscapedUnit? rest).bind fun (character, rest) =>
        (readKey? fuel rest).map (Prod.map (character :: ·) id)
  | fuel + 1, '\\' :: letter :: rest =>
      (Json.simpleEscape? letter).bind fun character =>
        (readKey? fuel rest).map (Prod.map (character :: ·) id)
  | fuel + 1, character :: rest =>
      if admits character && character != '\\' then
        (readKey? fuel rest).map (Prod.map (character :: ·) id)
      else none

/-- The keys of an engine that refuses control characters are the strings of JSON. -/
theorem readKey?_json (fuel : Nat) (text : List Char) :
    readKey? (fun character => !decide (character.toNat < 0x20)) fuel text =
      Json.readText? fuel text := by
  have mapped (character : Char) (found : Option (List Char × List Char)) :
      found.map (Prod.map (character :: ·) id) =
        found.bind fun pair => some (character :: pair.1, pair.2) := by
    cases found <;> rfl
  fun_induction Json.readText? fuel text with
  | case1 => rfl
  | case2 => rfl
  | case3 => rfl
  | case4 fuel rest ih => simp [readKey?, ih, mapped]
  | case5 fuel letter rest _ ih => simp_all [readKey?]
  | case6 fuel character rest _ _ _ refused =>
      rw [Bool.or_eq_true, decide_eq_true_eq] at refused
      rcases refused with control | backslash <;> simp_all [readKey?]
  | case7 fuel character rest _ _ _ admitted ih =>
      rw [Bool.or_eq_true, not_or, decide_eq_true_eq] at admitted
      simp_all [readKey?]

/-- Whether a key without quotes ends before a character. -/
def endsKey (character : Char) : Bool :=
  Json.isSpace character || ['.', '[', '*'].contains character

/-- Whether a word may stand for a key without quotes. -/
def isKeyWord : List Char → Bool
  | [] => false
  | first :: rest =>
      (isIdentifierStart first || first == '$') &&
        rest.all fun character => isIdentifierRest character || character == '$'

/-- Reads the key of a step, and what follows it. -/
def readStep? : List Char → Option (String × List Char)
  | '"' :: rest =>
      (readKey? admits (rest.length + 1) rest).map fun (key, rest) => (String.ofList key, rest)
  | text =>
      let word := text.takeWhile fun character => !endsKey character
      if isKeyWord word then
        some (String.ofList word, text.dropWhile fun character => !endsKey character)
      else none

/-- Reads steps up to the end of a path. -/
def readKeys? : Nat → List Char → Option (List String)
  | 0, _ => none
  | fuel + 1, text =>
      match Json.skipSpace text with
      | [] => some []
      | '.' :: rest =>
          (readStep? admits (Json.skipSpace rest)).bind fun (key, rest) =>
            (readKeys? fuel rest).map (key :: ·)
      | _ => none

/-- Reads a path that leads through keys only. -/
def readKeyPath? (text : List Char) : Option (List String) :=
  match Json.skipSpace text with
  | '$' :: rest => readKeys? admits (rest.length + 1) rest
  | _ => none

example :
    readKeyPath? (fun _ => true) "$.a . b_1.\"c.\\\"d\\u0041\"".toList =
      some ["a", "b_1", "c.\"dA"] := by
  decide +kernel

/-! ## Keys in double quotes -/

section

variable {fuel : Nat} {rest : List Char}

theorem readKey?_escape {letter : Char} (noUnit : letter ≠ 'u') :
    readKey? admits (fuel + 1) ('\\' :: letter :: rest) =
      (Json.simpleEscape? letter).bind fun character =>
        (readKey? admits fuel rest).map (Prod.map (character :: ·) id) := by
  rw [readKey?]
  exact noUnit

theorem readKey?_character {character : Char} (noQuote : character ≠ '"')
    (noBackslash : character ≠ '\\') :
    readKey? admits (fuel + 1) (character :: rest) =
      if admits character then (readKey? admits fuel rest).map (Prod.map (character :: ·) id)
      else none := by
  rw [readKey?]
  · simp [noBackslash]
  all_goals simp [noQuote, noBackslash]

end

theorem readUnit?_uses {text after : List Char} {unit : Nat}
    (read : Json.readUnit? text = some (unit, after)) :
    ∃ used, text = used ++ after ∧ '"' ∉ used := by
  unfold Json.readUnit? at read
  split at read
  · rename_i first second third fourth rest
    simp only [Option.bind_eq_bind, Option.bind_eq_some_iff, Option.some.injEq,
      Prod.mk.injEq] at read
    obtain ⟨_, firstDigit, _, secondDigit, _, thirdDigit, _, fourthDigit, _, rfl⟩ := read
    have quote {digit : Char} {value : Nat} (isDigit : hexValue? digit = some value) :
        '"' ≠ digit := by
      rintro rfl
      exact absurd isDigit (by simp [show hexValue? '"' = none by decide])
    exact ⟨[first, second, third, fourth], rfl, by
      simp [quote firstDigit, quote secondDigit, quote thirdDigit, quote fourthDigit]⟩
  · cases read

/-- An escape of JSON has no quote after its letter. -/
theorem readEscapedUnit?_uses {text after : List Char} {character : Char}
    (read : Json.readEscapedUnit? text = some (character, after)) :
    ∃ used, text = used ++ after ∧ '"' ∉ used := by
  simp only [Json.readEscapedUnit?, Option.bind_eq_bind, Option.bind_eq_some_iff,
    Prod.exists] at read
  obtain ⟨unit, rest, first, read⟩ := read
  obtain ⟨used, rfl, noQuote⟩ := readUnit?_uses first
  have firstOnly (same : rest = after) : ∃ taken, used ++ rest = taken ++ after ∧ '"' ∉ taken :=
    ⟨used, by rw [same], noQuote⟩
  split at read
  · split at read
    · rename_i later
      obtain ⟨⟨low, afterLow⟩, second, read⟩ := Option.bind_eq_some_iff.mp read
      obtain ⟨usedLow, rfl, noQuoteLow⟩ := readUnit?_uses second
      split at read
      · obtain rfl : afterLow = after := (Prod.mk.inj (Option.some.inj read)).2
        exact ⟨used ++ ('\\' :: 'u' :: usedLow), by simp, by simp [noQuote, noQuoteLow]⟩
      · exact firstOnly (Prod.mk.inj (Option.some.inj read)).2
    · exact firstOnly (Prod.mk.inj (Option.some.inj read)).2
  · exact firstOnly (Prod.mk.inj (Option.some.inj read)).2

/-- What is used of a text without using its quote is used of what stands before the quote. -/
theorem upToQuote_eq_append {text rest used after : List Char}
    (same : text ++ '"' :: rest = used ++ after) (noQuote : '"' ∉ used) :
    ∃ later, text = used ++ later ∧ after = later ++ '"' :: rest := by
  rcases List.append_eq_append_iff.mp same with ⟨surplus, rfl, quote⟩ | ⟨later, isText, isAfter⟩
  · cases surplus with
    | nil => exact ⟨[], by simp, by simpa using quote.symm⟩
    | cons character surplus =>
        obtain ⟨rfl, _⟩ := List.cons.inj quote
        simp at noQuote
  · exact ⟨later, isText, isAfter⟩

/-- A text that is not read as it is: too much is left of it, or a quote stands too early. -/
def Distorts (text read : List Char) : Prop :=
  read.length < text.length ∨
    ∃ front back, read = front ++ '"' :: back ∧ front.length < text.length

namespace Distorts

variable {text longer read : List Char}

theorem cons (distorts : Distorts text read) (character : Char)
    (grows : text.length < longer.length) : Distorts longer (character :: read) := by
  rcases distorts with shorter | ⟨front, back, rfl, early⟩
  · left
    rw [List.length_cons]
    omega
  · refine .inr ⟨character :: front, back, rfl, ?_⟩
    rw [List.length_cons]
    omega

/-- An escape is longer than the character that it is read as. -/
theorem escape {escaped : List Char} (long : 2 ≤ escaped.length)
    (outcome : read = text ∨ Distorts text read) (character : Char) :
    Distorts (escaped ++ text) (character :: read) := by
  rcases outcome with rfl | distorts
  · left
    rw [List.length_cons, List.length_append]
    omega
  · refine distorts.cons character ?_
    rw [List.length_append]
    omega

/-- What begins with a text without quotes is not what is read. -/
theorem ne (distorts : Distorts text read) (noQuote : '"' ∉ text) (rest : List Char) :
    read ≠ text ++ rest := by
  rintro rfl
  rcases distorts with shorter | ⟨front, back, same, early⟩
  · rw [List.length_append] at shorter
    omega
  · have begins : front ++ ['"'] <+: text ++ rest := ⟨back, by simp [same]⟩
    have inside : front ++ ['"'] <+: text :=
      List.prefix_of_prefix_length_le begins (List.prefix_append text rest)
        (by rw [List.length_append]; exact early)
    exact noQuote (inside.subset (by simp))

end Distorts

/-- What a key in quotes is read as, up to the next quote. -/
theorem readKey?_upToQuote {fuel : Nat} {text rest read after : List Char}
    (noQuote : '"' ∉ text)
    (reads : readKey? admits fuel (text ++ '"' :: rest) = some (read, after)) :
    (after = rest ∧ read = text ∧
      ∀ character ∈ text, character ≠ '\\' ∧ admits character = true) ∨
    Distorts text read := by
  induction fuel generalizing text read with
  | zero => cases reads
  | succ fuel ih =>
      have tailOutcome {later keyRead : List Char} (laterNoQuote : '"' ∉ later)
          (tail : readKey? admits fuel (later ++ '"' :: rest) = some (keyRead, after)) :
          keyRead = later ∨ Distorts later keyRead :=
        (ih laterNoQuote tail).imp_left fun verbatim => verbatim.2.1
      rcases text with _ | ⟨first, text⟩
      · rw [List.nil_append, readKey?] at reads
        cases reads
        exact .inl ⟨rfl, rfl, by simp⟩
      · obtain ⟨firstNoQuote, textNoQuote⟩ := not_or.mp (List.mem_cons.not.mp noQuote)
        rw [List.cons_append] at reads
        by_cases backslash : first = '\\'
        · subst backslash
          right
          rcases text with _ | ⟨letter, text⟩
          · -- the backslash escapes the quote
            rw [List.nil_append, readKey?_escape admits (by decide)] at reads
            obtain ⟨⟨key, _⟩, _, same⟩ := Option.map_eq_some_iff.mp reads
            cases same
            exact .inr ⟨[], key, rfl, by simp⟩
          · have laterNoQuote := (not_or.mp (List.mem_cons.not.mp textNoQuote)).2
            by_cases unit : letter = 'u'
            · subst unit
              rw [List.cons_append, readKey?] at reads
              obtain ⟨⟨character, remaining⟩, first, reads⟩ := Option.bind_eq_some_iff.mp reads
              obtain ⟨⟨key, _⟩, tail, same⟩ := Option.map_eq_some_iff.mp reads
              obtain ⟨used, isText, usedNoQuote⟩ := readEscapedUnit?_uses first
              obtain ⟨later, rfl, rfl⟩ := upToQuote_eq_append isText usedNoQuote
              cases same
              have noLater : '"' ∉ later := fun member =>
                laterNoQuote (List.mem_append_right used member)
              have long : 2 ≤ ('\\' :: 'u' :: used).length := by simp
              exact .escape long (tailOutcome noLater tail) character
            · rw [List.cons_append, readKey?_escape admits unit] at reads
              obtain ⟨character, _, reads⟩ := Option.bind_eq_some_iff.mp reads
              obtain ⟨⟨key, _⟩, tail, same⟩ := Option.map_eq_some_iff.mp reads
              cases same
              have long : 2 ≤ ['\\', letter].length := Nat.le_refl 2
              exact .escape long (tailOutcome laterNoQuote tail) character
        · rw [readKey?_character admits (Ne.symm firstNoQuote) backslash] at reads
          split at reads
          · rename_i admitted
            obtain ⟨⟨key, _⟩, tail, same⟩ := Option.map_eq_some_iff.mp reads
            cases same
            rcases ih textNoQuote tail with ⟨rfl, rfl, plain⟩ | distorts
            · exact .inl ⟨rfl, rfl, List.forall_mem_cons.mpr ⟨⟨backslash, admitted⟩, plain⟩⟩
            · exact .inr (distorts.cons first (by simp))
          · cases reads

/-- A character that a key in quotes holds without an escape. -/
def IsVerbatim (character : Char) : Prop :=
  character ≠ '"' ∧ character ≠ '\\' ∧ admits character = true

variable {admits} {text rest after : List Char} {fuel : Nat}

theorem readKey?_verbatim (verbatim : ∀ character ∈ text, IsVerbatim admits character)
    (enough : text.length < fuel) :
    readKey? admits fuel (text ++ '"' :: rest) = some (text, rest) := by
  induction text generalizing fuel with
  | nil =>
      obtain ⟨fuel, rfl⟩ := Nat.exists_eq_add_one.mpr enough
      rfl
  | cons character text ih =>
      obtain ⟨⟨noQuote, noBackslash, admitted⟩, others⟩ := List.forall_mem_cons.mp verbatim
      obtain ⟨fuel, rfl⟩ := Nat.exists_eq_add_one.mpr (Nat.zero_lt_of_lt enough)
      have tail := ih others (Nat.lt_of_succ_lt_succ enough)
      rw [List.cons_append, readKey?_character admits noQuote noBackslash, if_pos admitted, tail]
      rfl

/-- A key that is read as it was written has nothing to escape. -/
theorem verbatim_of_readKey?
    (reads : readKey? admits fuel (text ++ '"' :: rest) = some (text, after)) :
    after = rest ∧ ∀ character ∈ text, IsVerbatim admits character := by
  by_cases quote : '"' ∈ text
  · exfalso
    obtain ⟨front, back, rfl, noQuote⟩ := List.eq_append_cons_of_mem quote
    rw [List.append_assoc, List.cons_append] at reads
    rcases readKey?_upToQuote admits noQuote reads with ⟨_, same, _⟩ | distorts
    · simp at same
    · exact distorts.ne noQuote _ rfl
  · rcases readKey?_upToQuote admits quote reads with ⟨isRest, _, plain⟩ | distorts
    · refine ⟨isRest, fun character member => ⟨?_, plain character member⟩⟩
      rintro rfl
      exact quote member
    · exact absurd (List.append_nil text).symm (distorts.ne quote [])

/-! ## Segments as keys -/

/-- What is written of a segment, as it reaches the reader of paths. -/
def keyText (segment : String) : List Char :=
  if isSimpleKey segment then segment.toList else '"' :: (segment.toList ++ ['"'])

/-- The steps of segments, as they reach the reader of paths. -/
def keysText (segments : List String) : List Char :=
  segments.flatMap fun segment => '.' :: keyText segment

/-- What a segment is read as, if it is read as one key. -/
def heldKey (segment : String) : String :=
  if isSimpleKey segment then bareName segment else segment

theorem stands_segmentText (segment : String) :
    StandsFor .mysql (segmentText segment).toList (keyText segment) := by
  unfold segmentText keyText
  split
  · rename_i simple
    exact .self _ fun backslash => absurd backslash (backslash_notMem_of_isSimpleKey simple)
  · have quote : StandsFor .mysql ['"'] ['"'] := .character (by decide)
    have escapes : StandsFor .mysql (segment.toList.flatMap escapeSegmentCharacter)
        (segment.toList.flatMap fun character => [character]) := by
      refine .flatMap fun character _ => ?_
      unfold escapeSegmentCharacter
      split
      · rename_i special
        rcases special with rfl | rfl
        · exact .escaped (by decide) rfl
        · exact .escaped (by decide) rfl
      · rename_i plain
        exact .character fun backslash => absurd (.inl backslash) plain
    rw [List.flatMap_singleton'] at escapes
    rw [String.toList_ofList]
    exact quote.append (escapes.append quote)

theorem toList_dollarContent_cons (first : String) (segments : List String) :
    (dollarContent (first :: segments)).toList =
      '$' :: (first :: segments).flatMap fun segment => '.' :: (segmentText segment).toList := by
  rw [dollarContent, List.map_cons, String.toList_append, toList_intercalate_cons,
    List.flatMap_map]
  rfl

/-- The literal takes away the escapes of the segments. -/
theorem content_dollarContent_cons (first : String) (segments : List String) :
    literalContent? .mysql (quotedBody '\'' (dollarContent (first :: segments))) =
      some ('$' :: keysText (first :: segments)) := by
  rw [quotedBody, toList_dollarContent_cons]
  have mark (character : Char) (noEscape : character ≠ '\\') :
      StandsFor .mysql [character] [character] :=
    .character fun backslash => absurd backslash noEscape
  have steps : StandsFor .mysql
      ((first :: segments).flatMap fun segment => '.' :: (segmentText segment).toList)
      (keysText (first :: segments)) :=
    .flatMap fun segment _ => (mark '.' (by decide)).append (stands_segmentText segment)
  exact ((mark '$' (by decide)).append steps).content

/-! ## Reading the steps -/

theorem isIdentifierRest_of_isNamePart {character : Char} (isPart : isNamePart character = true) :
    isIdentifierRest character = true :=
  of_isNamePart (isIdentifierRest · = true) (by decide +kernel) isPart

theorem endsKey_of_isNamePart {character : Char} (isPart : isNamePart character = true) :
    endsKey character = false :=
  of_isNamePart (endsKey · = false) (by decide +kernel) isPart

theorem isIdentifierStart_of_isNameStart {character : Char}
    (isPart : isNamePart character = true) (isStart : isNameStart character = true) :
    isIdentifierStart character = true :=
  of_isNamePart (fun character => isNameStart character = true →
    isIdentifierStart character = true) (by decide +kernel) isPart isStart

theorem isKeyWord_of_isNamePart {first : Char} {rest : List Char}
    (isStart : isNameStart first = true)
    (parts : ∀ character ∈ first :: rest, isNamePart character = true) :
    isKeyWord (first :: rest) = true := by
  obtain ⟨firstPart, others⟩ := List.forall_mem_cons.mp parts
  have tail : ∀ character ∈ rest, isIdentifierRest character = true := fun character member =>
    isIdentifierRest_of_isNamePart (others character member)
  simp only [isKeyWord, isIdentifierStart_of_isNameStart firstPart isStart, Bool.true_or,
    Bool.true_and, List.all_eq_true]
  exact fun character member => by rw [tail character member, Bool.true_or]

/-- A plain name is read up to what ends a key. -/
theorem readStep?_word {first : Char} (isStart : isNameStart first = true)
    (parts : ∀ character ∈ first :: text, isNamePart character = true)
    (ends : ∀ character ∈ rest.head?, endsKey character = true) :
    readStep? admits (first :: (text ++ rest)) =
      some (String.ofList (first :: text), rest) := by
  have goesOn : ∀ character ∈ first :: text, (!endsKey character) = true := by
    intro character member
    rw [endsKey_of_isNamePart (parts character member), Bool.not_false]
  have noQuote : first ≠ '"' := by
    rintro rfl
    exact absurd isStart (by decide)
  have stops : rest.takeWhile (fun character => !endsKey character) = [] ∧
      rest.dropWhile (fun character => !endsKey character) = rest := by
    cases rest with
    | nil => exact ⟨rfl, rfl⟩
    | cons character rest => simp [ends character rfl]
  rw [← List.cons_append, readStep?, List.takeWhile_append_of_pos goesOn,
    List.dropWhile_append_of_pos goesOn, stops.1, stops.2, List.append_nil,
    if_pos (isKeyWord_of_isNamePart isStart parts)]
  exact fun _ same => noQuote (List.cons.inj same).1

theorem readKeys?_point (fuel : Nat) (text : List Char) :
    readKeys? admits (fuel + 1) ('.' :: text) =
      (readStep? admits (Json.skipSpace text)).bind fun (key, rest) =>
        (readKeys? admits fuel rest).map (key :: ·) := rfl

theorem keysText_cases (segments : List String) :
    keysText segments = [] ∨ ∃ text, keysText segments = '.' :: text := by
  cases segments with
  | nil => exact .inl rfl
  | cons segment segments => exact .inr ⟨_, rfl⟩

/-- A plain name is one step, and its line feed a blank after it. -/
theorem readKeys?_bare {segment : String} (simple : isSimpleKey segment = true)
    (segments : List String) :
    readKeys? admits (fuel + 1) (keysText (segment :: segments)) =
      (readKeys? admits fuel (keysText segments)).map (bareName segment :: ·) := by
  obtain ⟨first, word, body, isStart, parts, letters⟩ := isSimpleKey_cases simple
  have noBlank : Json.isSpace first = false := by
    have part := endsKey_of_isNamePart (parts first List.mem_cons_self)
    simpa [endsKey] using (Bool.or_eq_false_iff.mp part).1
  have lineFeed : endsKey '\n' = true := by decide
  have blank : readKeys? admits fuel ('\n' :: keysText segments) =
      readKeys? admits fuel (keysText segments) := by
    cases fuel <;> rfl
  have step {rest : List Char} (ends : ∀ character ∈ rest.head?, endsKey character = true) :
      readKeys? admits (fuel + 1) ('.' :: first :: (word ++ rest)) =
        (readKeys? admits fuel rest).map (bareName segment :: ·) := by
    have skips : Json.skipSpace (first :: (word ++ rest)) = first :: (word ++ rest) :=
      List.dropWhile_cons_of_neg (by simp [noBlank])
    rw [readKeys?_point, skips, readStep?_word isStart parts ends, Option.bind_some, bareName,
      body]
  have text : keysText (segment :: segments) =
      '.' :: (segment.toList ++ keysText segments) := by
    rw [keysText, List.flatMap_cons, keyText, if_pos simple]
    rfl
  rcases letters with same | same <;> rw [text, same]
  · refine step ?_
    rcases keysText_cases segments with none | ⟨text, some⟩
    · simp [none]
    · simpa [some] using by decide
  · rw [List.cons_append, List.append_assoc, List.singleton_append, step (by simp [lineFeed]),
      blank]

theorem readKeys?_quoted {segment : String} (quoted : isSimpleKey segment = false)
    (segments : List String) :
    readKeys? admits (fuel + 1) (keysText (segment :: segments)) =
      (readKey? admits ((segment.toList ++ '"' :: keysText segments).length + 1)
        (segment.toList ++ '"' :: keysText segments)).bind fun (key, rest) =>
          (readKeys? admits fuel rest).map (String.ofList key :: ·) := by
  have text : keysText (segment :: segments) =
      '.' :: '"' :: (segment.toList ++ '"' :: keysText segments) := by
    rw [keysText, List.flatMap_cons, keyText, if_neg (by simp [quoted])]
    simp [keysText]
  rw [text, readKeys?_point]
  change (readStep? admits ('"' :: _)).bind _ = _
  rw [readStep?, Option.bind_map]
  rfl

/-- A segment that is written without quotes, or holds nothing to escape. -/
def HoldsPlainly (admits : Char → Bool) (segment : String) : Prop :=
  isSimpleKey segment = false → ∀ character ∈ segment.toList, IsVerbatim admits character

/-- Steps are read one after another. -/
theorem readKeys?_keysText_iff {segments : List String} {key : String → String}
    (kept : ∀ segment ∈ segments, isSimpleKey segment = false → key segment = segment)
    (enough : segments.length < fuel) :
    readKeys? admits fuel (keysText segments) = some (segments.map key) ↔
      ∀ segment ∈ segments, key segment = heldKey segment ∧ HoldsPlainly admits segment := by
  induction segments generalizing fuel with
  | nil =>
      obtain ⟨fuel, rfl⟩ := Nat.exists_eq_add_one.mpr enough
      simp [keysText, readKeys?, Json.skipSpace]
  | cons segment segments ih =>
      obtain ⟨fuel, rfl⟩ := Nat.exists_eq_add_one.mpr (Nat.zero_lt_of_lt enough)
      obtain ⟨firstKept, othersKept⟩ := List.forall_mem_cons.mp kept
      rw [List.forall_mem_cons, ← ih othersKept (Nat.lt_of_succ_lt_succ enough), List.map_cons]
      cases simple : isSimpleKey segment with
      | true =>
          have first : key segment = heldKey segment ∧ HoldsPlainly admits segment ↔
              bareName segment = key segment := by
            simp [heldKey, HoldsPlainly, simple, eq_comm]
          rw [first, readKeys?_bare simple, Option.map_eq_some_iff]
          simp [and_comm]
      | false =>
          rw [readKeys?_quoted simple]
          constructor
          · intro reads
            obtain ⟨⟨found, after⟩, foundReads, reads⟩ := Option.bind_eq_some_iff.mp reads
            obtain ⟨keys, keysRead, same⟩ := Option.map_eq_some_iff.mp reads
            obtain ⟨isFirst, rfl⟩ := List.cons.inj same
            obtain rfl : found = segment.toList := by
              rw [← firstKept simple, ← isFirst, String.toList_ofList]
            obtain ⟨rfl, verbatim⟩ := verbatim_of_readKey? foundReads
            exact ⟨⟨by simp [heldKey, simple, firstKept simple], fun _ => verbatim⟩, keysRead⟩
          · rintro ⟨⟨_, verbatim⟩, others⟩
            have enough : segment.toList.length <
                (segment.toList ++ '"' :: keysText segments).length + 1 := by
              rw [List.length_append]
              omega
            rw [readKey?_verbatim (verbatim simple) enough, Option.bind_some]
            simp [others, firstKept simple]

/-! ## Path expressions -/

/-- The keys that an extraction leads through, from its tokens. -/
def keyPath? (admits : Char → Bool) : List Lexeme → Option (List String)
  | [ .word function, .separator '(', .word column, .separator ',', .quoted '\'' body,
      .separator ')' ] =>
      if function = "JSON_EXTRACT".toList ∧ column = Dialect.documentColumn.toList then
        (literalContent? .mysql body).bind (readKeyPath? admits)
      else none
  | _ => none

/-- The keys of a path expression of MySQL, as the engine reads its text. -/
def Fragment.keyPath? (admits : Char → Bool) (expression : Fragment) : Option (List String) :=
  (expression.tokens? .mysql).bind (Sql.keyPath? admits)

theorem keyPath?_jsonPath (admits : Char → Bool) (path : String) :
    (Dialect.jsonPath .mysql path).keyPath? admits =
      (literalContent? .mysql (quotedBody '\'' (dollarContent (splitPath path)))).bind
        (readKeyPath? admits) := by
  rw [Fragment.keyPath?, tokens?_jsonPath, Option.bind_some]
  rfl

theorem length_le_length_keysText (segments : List String) :
    segments.length ≤ (keysText segments).length := by
  induction segments with
  | nil => exact Nat.le_refl 0
  | cons segment segments ih =>
      rw [keysText, List.flatMap_cons, List.length_append, List.length_cons, List.length_cons]
      rw [keysText] at ih
      omega

/-- Keys that are the segments but for plain names are read exactly if they are what the
segments are held as, and no segment in quotes has anything to escape. -/
theorem keyPath?_jsonPath_eq_map_iff {path : String} {key : String → String}
    (kept : ∀ segment ∈ splitPath path, isSimpleKey segment = false → key segment = segment) :
    (Dialect.jsonPath .mysql path).keyPath? admits = some ((splitPath path).map key) ↔
      splitPath path ≠ [] ∧ ∀ segment ∈ splitPath path,
        key segment = heldKey segment ∧ HoldsPlainly admits segment := by
  rw [keyPath?_jsonPath]
  cases cut : splitPath path with
  | nil => simp [show (literalContent? .mysql (quotedBody '\'' (dollarContent []))).bind
      (readKeyPath? admits) = none from rfl]
  | cons first segments =>
      rw [cut] at kept
      rw [content_dollarContent_cons, Option.bind_some,
        ← readKeys?_keysText_iff kept (Nat.lt_succ_of_le (length_le_length_keysText _))]
      simp [readKeyPath?, Json.skipSpace, Json.isSpace]

theorem eq_heldKey_iff (segment : String) :
    segment = heldKey segment ↔
      (isSimpleKey segment = true → segment.toList.getLast? ≠ some '\n') := by
  unfold heldKey
  split
  · rename_i simple
    rw [eq_comm, bareName_eq_self_iff, imp_iff_right simple]
  · rename_i quoted
    simp [quoted]

theorem keyPath?_jsonPath_eq_segments_iff {path : String} :
    (Dialect.jsonPath .mysql path).keyPath? admits = some (splitPath path) ↔
      splitPath path ≠ [] ∧ ∀ segment ∈ splitPath path,
        segment = heldKey segment ∧ HoldsPlainly admits segment := by
  simpa only [List.map_id, id_eq] using
    @keyPath?_jsonPath_eq_map_iff admits path id fun _ _ _ => rfl

theorem keyPath?_jsonPath_eq_held_iff {path : String} :
    (Dialect.jsonPath .mysql path).keyPath? admits = some ((splitPath path).map heldKey) ↔
      splitPath path ≠ [] ∧ ∀ segment ∈ splitPath path, HoldsPlainly admits segment := by
  rw [keyPath?_jsonPath_eq_map_iff fun segment _ quoted => by simp [heldKey, quoted]]
  simp only [true_and]

/-- Whichever characters a key in quotes may hold, a path is read as its segments exactly if it
has some, no plain name among them ends with a line feed, and no other one has a quote, a
backslash or a character that the engine refuses. -/
theorem mysql_keys_eq_segments_iff (admits : Char → Bool) (path : String) :
    (Dialect.jsonPath .mysql path).keyPath? admits = some (splitPath path) ↔
      splitPath path ≠ [] ∧ ∀ segment ∈ splitPath path,
        if isSimpleKey segment then segment.toList.getLast? ≠ some '\n'
        else ∀ character ∈ segment.toList,
          character ≠ '"' ∧ character ≠ '\\' ∧ admits character = true := by
  rw [keyPath?_jsonPath_eq_segments_iff]
  refine and_congr_right fun _ => forall₂_congr fun segment _ => ?_
  rw [eq_heldKey_iff, HoldsPlainly]
  cases isSimpleKey segment with
  | true => simp
  | false => simp [IsVerbatim]

/-- A quote in a segment ends its key, and a backslash escapes what stands after it. -/
theorem mysql_quote_unread :
    (Dialect.jsonPath .mysql "a.b\"c").keyPath? (fun _ => true) = none ∧
      (Dialect.jsonPath .mysql "a.\\n").keyPath? (fun _ => true) = some ["a", "\n"] := by
  constructor <;> decide +kernel

end DocStore.Sql
