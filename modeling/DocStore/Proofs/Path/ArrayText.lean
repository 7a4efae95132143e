import DocStore.Proofs.Path.Literal
import Mathlib.Data.List.DropRight

/-!
# Paths of Postgres, read back

An arrow selects by the text of its literal.  The path operators select by an array of texts,
which the engine reads from the literal: elements in braces with commas between them, in
double quotes or bare.  A bare element loses the blanks around it, and the bare word `null`,
in whatever case, is no text at all.

A path of one segment is read back as it is, and so is every segment in double quotes.  The
plain names are written bare, and they are read back but for the word `null` and for the line
feed that a plain name may end with.
-/

namespace DocStore.Sql

/-! ## Array literals -/

/-- A blank between the elements of an array. -/
def isArrayBlank (character : Char) : Bool :=
  character == ' ' || (0x09 ≤ character.toNat && character.toNat ≤ 0x0d)

def isNullWord (word : List Char) : Bool := word.map Char.toLower == "null".toList

/-- The characters of a bare element, and whether a backslash stands before each, without the
blanks after it. -/
def trimBare (content : List (Char × Bool)) : List (Char × Bool) :=
  content.rdropWhile fun (character, escaped) => !escaped && isArrayBlank character

/-- What a bare element is; the word `null` is no text. -/
def bareElement (content : List (Char × Bool)) : Option String :=
  let word := (trimBare content).map Prod.fst
  if (trimBare content).all (fun (_, escaped) => !escaped) && isNullWord word then none
  else some (String.ofList word)

mutual

/-- Reads the elements of an array where one begins. -/
def readElements? : List Char → Option (List (Option String))
  | [] => none
  | ['\\'] => none
  | '"' :: rest => readQuoted? [] rest
  | '\\' :: character :: rest => readBare? [(character, true)] rest
  | character :: rest =>
      if isArrayBlank character then readElements? rest
      else if character ∈ [',', '\x7b', '\x7d'] then none
      else readBare? [(character, false)] rest

/-- Reads the rest of a quoted element, and the elements after it. -/
def readQuoted? (content : List Char) : List Char → Option (List (Option String))
  | [] => none
  | ['\\'] => none
  | '"' :: rest => (readSeparator? rest).map (some (String.ofList content) :: ·)
  | '\\' :: character :: rest => readQuoted? (content ++ [character]) rest
  | character :: rest => readQuoted? (content ++ [character]) rest

/-- Reads the rest of a bare element, and the elements after it. -/
def readBare? (content : List (Char × Bool)) : List Char → Option (List (Option String))
  | [] => none
  | ['\\'] => none
  | ',' :: rest => (readElements? rest).map (bareElement content :: ·)
  | '\x7d' :: rest => if rest.all isArrayBlank then some [bareElement content] else none
  | '\\' :: character :: rest => readBare? (content ++ [(character, true)]) rest
  | character :: rest =>
      if character ∈ ['"', '\x7b'] then none else readBare? (content ++ [(character, false)]) rest

/-- Reads what follows an element. -/
def readSeparator? : List Char → Option (List (Option String))
  | [] => none
  | ',' :: rest => readElements? rest
  | '\x7d' :: rest => if rest.all isArrayBlank then some [] else none
  | character :: rest => if isArrayBlank character then readSeparator? rest else none

end

/-- Reads an array of texts; an element without a text is NULL. -/
def readArray? (text : List Char) : Option (List (Option String)) :=
  match text.dropWhile isArrayBlank with
  | '\x7b' :: rest =>
      match rest.dropWhile isArrayBlank with
      | '\x7d' :: rest => if rest.all isArrayBlank then some [] else none
      | rest => readElements? rest
  | _ => none

example :
    readArray? "\x7b a , \"b,\\\"c\" ,NULL\x7d".toList = some [some "a", some "b,\"c", none] := by
  decide +kernel

/-! ## Segments as elements -/

/-- What is read of a segment that stands among others. -/
def heldElement (segment : String) : Option String :=
  if isSimpleKey segment then
    if isNullWord (bareName segment).toList then none else some (bareName segment)
  else some segment

theorem readQuoted?_escaped (content text rest : List Char) :
    readQuoted? content (text.flatMap escapeSegmentCharacter ++ '"' :: rest) =
      (readSeparator? rest).map (some (String.ofList (content ++ text)) :: ·) := by
  induction text generalizing content with
  | nil => simp [readQuoted?]
  | cons character text ih =>
      have step : readQuoted? content (escapeSegmentCharacter character ++
            (text.flatMap escapeSegmentCharacter ++ '"' :: rest)) =
          readQuoted? (content ++ [character])
            (text.flatMap escapeSegmentCharacter ++ '"' :: rest) := by
        unfold escapeSegmentCharacter
        split
        · rw [List.cons_append, List.cons_append, List.nil_append, readQuoted?]
        · rename_i plain
          rw [not_or] at plain
          rw [List.cons_append, List.nil_append, readQuoted?]
          all_goals simp [plain]
      rw [List.flatMap_cons, List.append_assoc, step, ih, List.append_assoc]
      rfl

/-- A character that a bare element takes as it is. -/
def isBareCharacter (character : Char) : Bool :=
  !(['"', '\\', ',', '\x7b', '\x7d'].contains character)

theorem readBare?_plain (content : List (Char × Bool)) {text : List Char}
    (bare : ∀ character ∈ text, isBareCharacter character = true) (rest : List Char) :
    readBare? content (text ++ rest) = readBare? (content ++ text.map (·, false)) rest := by
  induction text generalizing content with
  | nil => simp
  | cons character text ih =>
      obtain ⟨first, others⟩ := List.forall_mem_cons.mp bare
      have step : readBare? content (character :: (text ++ rest)) =
          readBare? (content ++ [(character, false)]) (text ++ rest) := by
        simp only [isBareCharacter, List.contains_eq_mem, List.mem_cons, List.not_mem_nil,
          or_false, Bool.not_eq_true', decide_eq_false_iff_not, not_or] at first
        rw [readBare?]
        · simp [first]
        all_goals simp [first]
      rw [List.cons_append, step, ih _ others, List.map_cons, List.append_assoc]
      rfl

theorem isBareCharacter_of_isNamePart {character : Char} (isPart : isNamePart character = true) :
    isBareCharacter character = true :=
  of_isNamePart (isBareCharacter · = true) (by decide +kernel) isPart

theorem isArrayBlank_of_isNamePart {character : Char} (isPart : isNamePart character = true) :
    isArrayBlank character = false :=
  of_isNamePart (isArrayBlank · = false) (by decide +kernel) isPart

/-- A bare name is read without its line feed. -/
theorem bareElement_of_isSimpleKey {segment : String} (simple : isSimpleKey segment = true) :
    bareElement (segment.toList.map (·, false)) = heldElement segment := by
  obtain ⟨first, rest, body, _, parts, letters⟩ := isSimpleKey_cases simple
  have kept : trimBare ((first :: rest).map (·, false)) = (first :: rest).map (·, false) := by
    refine List.rdropWhile_eq_self_iff.mpr fun nonempty => ?_
    obtain ⟨last, isLast, same⟩ := List.mem_map.mp (List.getLast_mem nonempty)
    rw [← same]
    simp [isArrayBlank_of_isNamePart (parts last isLast)]
  have trims : trimBare (segment.toList.map (·, false)) = (first :: rest).map (·, false) := by
    rcases letters with same | same <;> rw [same]
    · exact kept
    · rw [← List.cons_append, List.map_append]
      exact (List.rdropWhile_concat_pos _ _ _ (by decide)).trans kept
  rw [heldElement, if_pos simple, bareName, body, bareElement, trims]
  simp [Function.comp_def]

theorem readElements?_bare {first : Char} (isPart : isNamePart first = true)
    (rest : List Char) : readElements? (first :: rest) = readBare? [(first, false)] rest := by
  have bare := isBareCharacter_of_isNamePart isPart
  simp only [isBareCharacter, List.contains_eq_mem, List.mem_cons, List.not_mem_nil,
    or_false, Bool.not_eq_true', decide_eq_false_iff_not, not_or] at bare
  rw [readElements?]
  · simp [isArrayBlank_of_isNamePart isPart, bare]
  all_goals simp [bare]

/-- A bare element ends at a comma and at the closing brace. -/
theorem readBare?_ends {mark : Char} (ends : mark = ',' ∨ mark = '\x7d')
    (content : List (Char × Bool)) (rest : List Char) :
    readBare? content (mark :: rest) =
      (readSeparator? (mark :: rest)).map (bareElement content :: ·) := by
  rcases ends with rfl | rfl
  · rw [readBare?, readSeparator?]
  · rw [readBare?, readSeparator?]
    split <;> rfl

/-- A plain name begins with a letter or an underscore. -/
theorem toList_of_isSimpleKey {segment : String} (simple : isSimpleKey segment = true) :
    ∃ first rest, segment.toList = first :: rest ∧ isNamePart first = true := by
  obtain ⟨first, rest, _, _, parts, letters⟩ := isSimpleKey_cases simple
  have isPart := parts first List.mem_cons_self
  rcases letters with same | same
  · exact ⟨first, rest, same, isPart⟩
  · exact ⟨first, rest ++ ['\n'], same, isPart⟩

theorem isBareCharacter_of_isSimpleKey {segment : String} (simple : isSimpleKey segment = true) :
    ∀ character ∈ segment.toList, isBareCharacter character = true := by
  intro character member
  rcases isNamePart_or_lineFeed simple member with isPart | rfl
  · exact isBareCharacter_of_isNamePart isPart
  · decide

/-- A segment is read as an element up to what follows it. -/
theorem readElements?_segmentText (segment : String) {mark : Char}
    (ends : mark = ',' ∨ mark = '\x7d') (rest : List Char) :
    readElements? ((segmentText segment).toList ++ mark :: rest) =
      (readSeparator? (mark :: rest)).map (heldElement segment :: ·) := by
  unfold segmentText
  split
  · rename_i simple
    obtain ⟨first, others, letters, isPart⟩ := toList_of_isSimpleKey simple
    have bare := isBareCharacter_of_isSimpleKey simple
    rw [letters] at bare
    calc readElements? (segment.toList ++ mark :: rest)
        = readBare? [(first, false)] (others ++ mark :: rest) := by
          rw [letters, List.cons_append, readElements?_bare isPart]
      _ = readBare? (segment.toList.map (·, false)) (mark :: rest) := by
          rw [readBare?_plain _ (List.forall_mem_cons.mp bare).2, letters]
          rfl
      _ = (readSeparator? (mark :: rest)).map (heldElement segment :: ·) := by
          rw [readBare?_ends ends, bareElement_of_isSimpleKey simple]
  · rename_i quoted
    rw [String.toList_ofList, List.cons_append, List.append_assoc, readElements?]
    have held : heldElement segment = some segment := if_neg quoted
    simpa [held] using readQuoted?_escaped [] segment.toList (mark :: rest)

/-- The elements of an array are read one after another. -/
theorem readElements?_segments (first : String) (segments : List String) :
    readElements? ((segmentText first).toList ++
        (segments.flatMap fun segment => ',' :: (segmentText segment).toList) ++ ['\x7d']) =
      some (heldElement first :: segments.map heldElement) := by
  induction segments generalizing first with
  | nil =>
      rw [List.flatMap_nil, List.append_nil, readElements?_segmentText first (.inr rfl)]
      rfl
  | cons second segments ih =>
      rw [List.flatMap_cons, List.cons_append, List.append_assoc, List.cons_append,
        readElements?_segmentText first (.inl rfl), readSeparator?, ih]
      rfl

theorem segmentText_begins (segment : String) :
    ∃ first rest, (segmentText segment).toList = first :: rest ∧
      isArrayBlank first = false ∧ first ≠ '\x7d' := by
  unfold segmentText
  split
  · rename_i simple
    obtain ⟨first, rest, letters, isPart⟩ := toList_of_isSimpleKey simple
    refine ⟨first, rest, letters, isArrayBlank_of_isNamePart isPart, ?_⟩
    rintro rfl
    exact absurd isPart (by decide)
  · exact ⟨'"', _, by rw [String.toList_ofList], by decide, by decide⟩

/-- An array of segments is read, and every element is what its segment leaves of it. -/
theorem readArray?_arrayContent (segments : List String) :
    readArray? (arrayContent segments).toList = some (segments.map heldElement) := by
  cases segments with
  | nil => rfl
  | cons first segments =>
      obtain ⟨begins, rest, letters, noBlank, noBrace⟩ := segmentText_begins first
      let tail := (segments.flatMap fun segment => ',' :: (segmentText segment).toList) ++ ['\x7d']
      have content : (arrayContent (first :: segments)).toList =
          '\x7b' :: begins :: (rest ++ tail) := by
        rw [arrayContent, List.map_cons, String.toList_append, String.toList_append,
          toList_intercalate_cons, List.flatMap_map, letters]
        simp [tail]
      have elements := readElements?_segments first segments
      rw [letters, List.append_assoc, List.cons_append] at elements
      have skips : (begins :: (rest ++ tail)).dropWhile isArrayBlank = begins :: (rest ++ tail) :=
        List.dropWhile_cons_of_neg (by simp [noBlank])
      rw [content, readArray?, List.dropWhile_cons_of_neg (by decide)]
      simp only [skips]
      split
      · rename_i same
        exact absurd (List.cons.inj same).1 noBrace
      · exact elements

/-! ## Path expressions -/

/-- The steps of a path expression of Postgres, from its tokens.  An arrow takes one step, a
path operator those of an array. -/
def arraySteps? : List Lexeme → Option (List (Option String))
  | [.word column, .sign operator, .quoted '\'' body] =>
      if column = Dialect.documentColumn.toList then
        (literalContent? .postgres body).bind fun content =>
          if operator ∈ ["->".toList, "->>".toList] then some [some (String.ofList content)]
          else if operator ∈ ["#>".toList, "#>>".toList] then readArray? content
          else none
      else none
  | _ => none

/-- The steps of a path expression of Postgres, as the engine reads its text. -/
def Fragment.arraySteps? (expression : Fragment) : Option (List (Option String)) :=
  (expression.tokens? .postgres).bind Sql.arraySteps?

/-- The steps that are read of a path. -/
def heldSteps (path : String) : List (Option String) :=
  match splitPath path with
  | [segment] => [some segment]
  | segments => segments.map heldElement

/-- A path of one segment is written as it is, and any other path as an array. -/
theorem heldSteps_cases (path : String) :
    (∃ segment, splitPath path = [segment] ∧ isNested path = false ∧
      pathContent .postgres path = segment ∧ heldSteps path = [some segment]) ∨
    isNested path = true ∧ pathContent .postgres path = arrayContent (splitPath path) ∧
      heldSteps path = (splitPath path).map heldElement := by
  rcases cut : splitPath path with _ | ⟨first, _ | ⟨second, others⟩⟩
  · exact .inr ⟨by simp [isNested, cut], by simp [pathContent, cut], by simp [heldSteps, cut]⟩
  · refine .inl ⟨first, rfl, ?_, ?_, ?_⟩
    all_goals simp [isNested, pathContent, heldSteps, cut]
  · exact .inr ⟨by simp [isNested, cut], by simp [pathContent, cut], by simp [heldSteps, cut]⟩

theorem content_postgres (content : String) :
    literalContent? .postgres (quotedBody '\'' content) = some content.toList :=
  (StandsFor.self _ fun _ => rfl).content

theorem arraySteps?_path {path : String} (operator : List Char)
    (fits : operator ∈ if isNested path then ["#>".toList, "#>>".toList]
      else ["->".toList, "->>".toList]) :
    Sql.arraySteps? [ .word Dialect.documentColumn.toList, .sign operator,
        .quoted '\'' (quotedBody '\'' (pathContent .postgres path)) ] =
      some (heldSteps path) := by
  have apart : ∀ operator ∈ ["#>".toList, "#>>".toList],
      operator ∉ ["->".toList, "->>".toList] := by decide
  rw [Sql.arraySteps?, if_pos rfl, content_postgres, Option.bind_some]
  rcases heldSteps_cases path with ⟨segment, _, nested, content, steps⟩ | ⟨nested, content, steps⟩
  · have isArrow : operator ∈ ["->".toList, "->>".toList] := by simpa [nested] using fits
    rw [if_pos isArrow, content, steps, String.ofList_toList]
  · have isPath : operator ∈ ["#>".toList, "#>>".toList] := by simpa [nested] using fits
    rw [if_neg (apart operator isPath), if_pos isPath, content, steps, readArray?_arrayContent]

theorem arraySteps?_jsonPath (path : String) :
    (Dialect.jsonPath .postgres path).arraySteps? = some (heldSteps path) := by
  rw [Fragment.arraySteps?, tokens?_jsonPath, Dialect.jsonPath_postgres, Option.bind_some,
    ← arraySteps?_path (if isNested path then "#>".toList else "->".toList)
      (by cases isNested path <;> simp)]
  cases isNested path <;> rfl

theorem arraySteps?_fieldPath (path : String) :
    (Dialect.fieldPath .postgres path).arraySteps? = some (heldSteps path) := by
  rw [Fragment.arraySteps?, tokens?_fieldPath, Dialect.fieldPath_postgres, Option.bind_some,
    ← arraySteps?_path (if isNested path then "#>>".toList else "->>".toList)
      (by cases isNested path <;> simp)]
  cases isNested path <;> rfl

/-! ## Paths that are read back -/

/-- A segment that an element keeps as it is. -/
theorem heldElement_eq_self_iff (segment : String) :
    heldElement segment = some segment ↔
      (isSimpleKey segment = true →
        isNullWord segment.toList = false ∧ segment.toList.getLast? ≠ some '\n') := by
  unfold heldElement
  split
  · rename_i simple
    by_cases ended : segment.toList.getLast? = some '\n'
    · have shorter : bareName segment ≠ segment :=
        mt (bareName_eq_self_iff segment).mp (not_not.mpr ended)
      split <;> simp [simple, ended, shorter]
    · rw [(bareName_eq_self_iff segment).mpr ended]
      cases isNullWord segment.toList <;> simp [simple, ended]
  · rename_i quoted
    simp [quoted]

/-- Every path is read as a list of steps, by both expressions.  The steps are the segments
exactly if there is one segment, or no plain name among them is the word `null` or ends with
a line feed. -/
theorem postgres_steps_eq_segments_iff (path : String) :
    ∃ steps, (Dialect.jsonPath .postgres path).arraySteps? = some steps ∧
      (Dialect.fieldPath .postgres path).arraySteps? = some steps ∧
      (steps = (splitPath path).map some ↔
        (splitPath path).length = 1 ∨
          ∀ segment ∈ splitPath path, isSimpleKey segment = true →
            isNullWord segment.toList = false ∧ segment.toList.getLast? ≠ some '\n') := by
  refine ⟨heldSteps path, arraySteps?_jsonPath path, arraySteps?_fieldPath path, ?_⟩
  rcases heldSteps_cases path with ⟨segment, one, _, _, steps⟩ | ⟨nested, _, steps⟩
  · simp [steps, one]
  · have several : (splitPath path).length ≠ 1 := by simpa [isNested] using nested
    rw [steps, List.map_inj_left, or_iff_right several]
    exact forall₂_congr fun segment _ => heldElement_eq_self_iff segment

/-- The word `null` is written bare and read as no text, and a line feed is lost. -/
theorem postgres_null_step :
    (Dialect.jsonPath .postgres "a.null").arraySteps? = some [some "a", none] ∧
      (Dialect.fieldPath .postgres "a.b\n").arraySteps? = some [some "a", some "b"] := by
  constructor <;> decide +kernel

end DocStore.Sql
