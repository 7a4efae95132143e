import DocStore.Proofs.ListedPaths

/-!
# Keys that are listed

The keys of an index are read from its path literals: in a Postgres catalog from all of those in
its definition, in a MySQL catalog from the first one in each of its rows.  Both literals are read
to their end, whatever they contain, so the keys of an index are listed as they were given exactly
if all of its paths are read back.
-/

namespace DocStore

open Sql

namespace Catalog

/-! ## Literals -/

theorem afterWord?_eq_some_iff {word text rest : List Char} :
    Json.afterWord? word text = some rest ↔ text = word ++ rest := by
  induction word generalizing text with
  | nil => simp [Json.afterWord?, eq_comm]
  | cons letter word ih =>
      cases text with
      | nil => simp [Json.afterWord?]
      | cons character text =>
          rw [Json.afterWord?]
          by_cases same : letter = character
          · simp [same, ih]
          · simp [same, Ne.symm same]

variable {next : Char} {rest : List Char}

/-- A quoted text is read up to its closing quote, if doubled quotes and other characters are
passed. -/
theorem read_quotedBody {read : List Char → Option (List Char × List Char)}
    (doubled : ∀ {text part}, read text = some (part, rest) →
      read ('\'' :: '\'' :: text) = some ('\'' :: '\'' :: part, rest))
    (other : ∀ {character text part}, character ≠ '\'' → read text = some (part, rest) →
      read (character :: text) = some (character :: part, rest))
    (closed : read ('\'' :: rest) = some ([], rest)) (content : String) :
    read (quotedBody '\'' content ++ '\'' :: rest) = some (quotedBody '\'' content, rest) := by
  unfold quotedBody
  induction content.toList with
  | nil => exact closed
  | cons character text ih =>
      rw [List.flatMap_cons, quotedCharacter]
      split
      · rename_i isQuote
        rw [isQuote]
        exact doubled ih
      · rename_i noQuote
        exact other noQuote ih

theorem readQuoted_quotedBody (closed : next ≠ '\'') (content : String) (rest : List Char) :
    readQuoted (quotedBody '\'' content ++ '\'' :: next :: rest) =
      some (quotedBody '\'' content, next :: rest) :=
  read_quotedBody (fun reads => by simp [readQuoted, reads])
    (fun noQuote reads => by simp [readQuoted, noQuote, reads]) (by simp [readQuoted, closed])
    content

theorem readLooselyQuoted_quotedBody (closed : next ≠ '\'') (content : String) (rest : List Char) :
    readLooselyQuoted (quotedBody '\'' content ++ '\'' :: next :: rest) =
      some (quotedBody '\'' content, next :: rest) :=
  read_quotedBody (fun reads => by simp [readLooselyQuoted, reads])
    (fun noQuote reads => by simp [readLooselyQuoted, noQuote, reads])
    (by simp [readLooselyQuoted, closed]) content

theorem singleQuotes_quotedBody (content : String) :
    singleQuotes (quotedBody '\'' content) = content.toList := by
  unfold quotedBody
  induction content.toList with
  | nil => rfl
  | cons character text ih =>
      rw [List.flatMap_cons, quotedCharacter]
      split
      · rename_i isQuote
        simp [singleQuotes, isQuote, ih]
      · rename_i noQuote
        simp [singleQuotes, noQuote, ih]

/-! ## Keys of Postgres -/

/-- What a key of an index definition begins with. -/
def keyStarts : List (List Char) := ["data ->> '".toList, "data #>> '".toList]

theorem postgresKey?_eq_none {text : List Char} (noStart : ∀ start ∈ keyStarts, ¬start <+: text) :
    postgresKey? text = none := by
  have starts {rest : List Char} {word : String} (begins : after? "data " text = some rest)
      (isStart : "data ".toList ++ word.toList ∈ keyStarts) : after? word rest = none := by
    cases goesOn : after? word rest with
    | none => rfl
    | some later =>
        have isText := afterWord?_eq_some_iff.mp begins
        have isRest := afterWord?_eq_some_iff.mp goesOn
        refine absurd ⟨later, ?_⟩ (noStart _ isStart)
        rw [isText, isRest, List.append_assoc]
  unfold postgresKey?
  cases begins : after? "data " text with
  | none => rfl
  | some rest =>
      have single : after? "->> '" rest = none := starts begins (by decide)
      have nested : after? "#>> '" rest = none := starts begins (by decide)
      simp [single, nested]

/-- The keys that are read from a text, if there is fuel for all of it. -/
def ReadsKeys (text : List Char) (keys : List (Key × Int)) : Prop :=
  ∀ fuel, text.length < fuel → postgresKeysFrom fuel text = keys

namespace ReadsKeys

variable {text : List Char} {keys : List (Key × Int)} {key : Key × Int}

theorem nil : ReadsKeys [] [] := fun fuel _ => by cases fuel <;> rfl

theorem pass {character : Char} (noKey : postgresKey? (character :: text) = none)
    (reads : ReadsKeys text keys) : ReadsKeys (character :: text) keys := by
  intro fuel enough
  cases fuel with
  | zero => cases enough
  | succ fuel =>
      rw [postgresKeysFrom, noKey]
      exact reads fuel (Nat.lt_of_succ_lt_succ enough)

theorem take (isKey : postgresKey? text = some (key, rest)) (shorter : rest.length < text.length)
    (reads : ReadsKeys rest keys) : ReadsKeys text (key :: keys) := by
  intro fuel enough
  cases fuel with
  | zero => cases enough
  | succ fuel =>
      cases text with
      | nil => cases shorter
      | cons character text =>
          rw [postgresKeysFrom, isKey]
          dsimp only
          rw [reads fuel (Nat.lt_of_lt_of_le shorter (Nat.le_of_lt_succ enough))]

/-- Text in which no key starts is passed over up to a mark that is in no start of a key. -/
theorem skip {mark : Char} (apart : ∀ start ∈ keyStarts, mark ∉ start) {head : List Char}
    (noStart : ∀ start ∈ keyStarts, ¬start <:+: head) (reads : ReadsKeys rest keys) :
    ReadsKeys (head ++ mark :: rest) keys := by
  have atNoKey {front : List Char} (part : ∀ start ∈ keyStarts, ¬start <:+: front) :
      postgresKey? (front ++ mark :: rest) = none :=
    postgresKey?_eq_none fun start isStart isPrefix => part start isStart
      ((isPrefix_append_cons_iff (apart start isStart)).mp isPrefix).isInfix
  induction head with
  | nil => exact reads.pass (atNoKey noStart)
  | cons character head ih =>
      have later := ih fun start isStart isInfix => noStart start isStart (List.infix_cons isInfix)
      exact later.pass (atNoKey noStart)

end ReadsKeys

/-- The direction of a key. -/
def direction (descends : Bool) : Int := if descends then -1 else 1

/-- The braces of an array are dropped before its text is cut. -/
theorem listedPath_postgres {path : String} (full : IsFullPath path) :
    (if isNested path then dottedPath ','
        (trimEnds (fun c => c == '\x7b' || c == '\x7d') (pathContent .postgres path).toList)
      else pathContent .postgres path) = listedPath .postgres path := by
  have braces : trimEnds (fun c => c == '\x7b' || c == '\x7d')
      (arrayContent (splitPath path)).toList = joinedTexts ',' (splitPath path) :=
    trimEnds_arrayContent (splitPath_ne_nil full)
  rcases heldSteps_cases path with ⟨_, _, single, _⟩ | ⟨nested, content, _⟩
  · simp [listedPath, single]
  · simp [listedPath, nested, content, braces]

/-- A printed key is read as the path that its literal stands for, and its direction. -/
theorem postgresKey?_printed {path : String} (full : IsFullPath path) (descends : Bool)
    {rest : List Char} (ends : Json.afterWord? " DESC".toList (rest.dropWhile (· == ')')) = none) :
    postgresKey? (FieldIndex.keyOpening (isNested path) ++
      (quotedText '\'' (pathContent .postgres path) ++
        (FieldIndex.keyClosing (isNested path) descends ++ rest))) =
      some ((.text (listedPath .postgres path), direction descends),
        if descends then rest else rest.dropWhile (· == ')')) := by
  have literal (next : Char) (closed : next ≠ '\'') (later : List Char) :=
    readQuoted_quotedBody closed (pathContent .postgres path) later
  change Json.afterWord? [' ', 'D', 'E', 'S', 'C'] _ = none at ends
  rw [← listedPath_postgres full]
  cases isNested path <;> cases descends <;>
    simp [postgresKey?, after?, Json.afterWord?, FieldIndex.keyOpening, FieldIndex.keyClosing,
      quotedText, literal, afterOptional, singleQuotes_quotedBody, direction, ends]

/-- The keys of an index as they are listed. -/
def listedKeys (dialect : Dialect) (spec : List (String × Bool)) : List (Key × Int) :=
  spec.map fun (path, descends) => (.text (listedPath dialect path), direction descends)

namespace ReadsKeys

/-- A printed key is read before the keys that follow it. -/
theorem printKey {path : String} (full : IsFullPath path) (descends : Bool) {rest : List Char}
    {keys : List (Key × Int)}
    (follows : rest = [')'] ∧ keys = [] ∨
      ∃ later, rest = ',' :: ' ' :: later ∧ ReadsKeys later keys) :
    ReadsKeys (FieldIndex.printKey path descends ++ rest)
      ((.text (listedPath .postgres path), direction descends) :: keys) := by
  have ends : Json.afterWord? " DESC".toList (rest.dropWhile (· == ')')) = none := by
    rcases follows with ⟨rfl, _⟩ | ⟨later, rfl, _⟩ <;> rfl
  -- a key that does not descend takes the brackets after it, be they of the key or of the index
  have reads : ReadsKeys (if descends then rest else rest.dropWhile (· == ')')) keys := by
    rcases follows with ⟨rfl, rfl⟩ | ⟨later, rfl, reads⟩
    · cases descends with
      | true => exact nil.pass rfl
      | false => exact nil
    · cases descends <;> exact (reads.pass rfl).pass rfl
  have shorter : (if descends then rest else rest.dropWhile (· == ')')).length <
      (FieldIndex.keyOpening (isNested path) ++
        (quotedText '\'' (pathContent .postgres path) ++
          (FieldIndex.keyClosing (isNested path) descends ++ rest))).length := by
    have dropped := (rest.dropWhile_sublist (· == ')')).length_le
    have quotes : 0 < (quotedText '\'' (pathContent .postgres path)).length := Nat.succ_pos _
    simp only [List.length_append]
    split <;> omega
  have taken := reads.take (postgresKey?_printed full descends ends) shorter
  have printed : FieldIndex.printKey path descends ++ rest = '(' :: '(' ::
      (FieldIndex.keyOpening (isNested path) ++
        (quotedText '\'' (pathContent .postgres path) ++
          (FieldIndex.keyClosing (isNested path) descends ++ rest))) := by
    simp [FieldIndex.printKey]
  rw [printed]
  exact (taken.pass rfl).pass rfl

theorem printKeys {spec : List (String × Bool)} (some : spec ≠ [])
    (full : ∀ key ∈ spec, IsFullPath key.1) :
    ReadsKeys (", ".toList.intercalate
        (spec.map fun key => FieldIndex.printKey key.1 key.2) ++ [')'])
      (listedKeys .postgres spec) := by
  induction spec with
  | nil => exact absurd rfl some
  | cons key spec ih =>
      obtain ⟨path, descends⟩ := key
      obtain ⟨first, others⟩ := List.forall_mem_cons.mp full
      cases spec with
      | nil =>
          rw [List.map_singleton, List.intercalate_singleton]
          exact printKey first descends (.inl ⟨rfl, rfl⟩)
      | cons second spec =>
          rw [List.map_cons, List.map_cons, List.intercalate_cons_cons, List.append_assoc,
            List.append_assoc]
          exact printKey first descends (.inr ⟨_, rfl, ih (by simp) others⟩)

/-- The definition of an index is read as its keys if no key starts before them. -/
theorem definition {style : NameStyle} {index : FieldIndex} (some : index.spec ≠ [])
    (full : ∀ key ∈ index.spec, IsFullPath key.1)
    (noStart : ∀ start ∈ keyStarts, ¬start <:+: index.head style) :
    ReadsKeys (index.definition style) (listedKeys .postgres index.spec) :=
  skip (by decide) noStart (printKeys some full)

end ReadsKeys

/-! ## Merged keys -/

section

variable {field : Key} {given : Int} {merged keys : List (Key × Int)}

theorem setKey_of_absent (absent : ∀ key ∈ keys, key.1.same field = false) :
    setKey field given keys = keys ++ [(field, given)] := by
  induction keys with
  | nil => rfl
  | cons key keys ih =>
      obtain ⟨first, others⟩ := List.forall_mem_cons.mp absent
      rw [setKey, first, ih others]
      rfl

theorem length_setKey_of_present (present : ∃ key ∈ keys, key.1.same field = true) :
    (setKey field given keys).length = keys.length := by
  induction keys with
  | nil => simp at present
  | cons key keys ih =>
      rw [setKey]
      split
      · rfl
      · rename_i other
        rw [List.exists_mem_cons_iff, or_iff_right other] at present
        rw [List.length_cons, List.length_cons, ih present]

/-- A key is added at the end, or no key is added. -/
theorem setKey_cases (field : Key) (given : Int) (keys : List (Key × Int)) :
    setKey field given keys = keys ++ [(field, given)] ∨
      (setKey field given keys).length = keys.length := by
  by_cases present : ∃ key ∈ keys, key.1.same field = true
  · exact .inr (length_setKey_of_present present)
  · exact .inl (setKey_of_absent (by simpa using present))

theorem length_foldl_setKey_le (merged keys : List (Key × Int)) :
    (keys.foldl (fun merged key => setKey key.1 key.2 merged) merged).length ≤
      merged.length + keys.length := by
  induction keys generalizing merged with
  | nil => rfl
  | cons key keys ih =>
      have step : (setKey key.1 key.2 merged).length ≤ merged.length + 1 := by
        rcases setKey_cases key.1 key.2 merged with added | same
        · rw [added, List.length_append, List.length_singleton]
        · omega
      have rest := ih (setKey key.1 key.2 merged)
      rw [List.foldl_cons, List.length_cons]
      omega

/-- If there are as many keys as before, then all were added in their order. -/
theorem foldl_setKey_of_length (merged keys : List (Key × Int))
    (all : (keys.foldl (fun merged key => setKey key.1 key.2 merged) merged).length =
      merged.length + keys.length) :
    keys.foldl (fun merged key => setKey key.1 key.2 merged) merged = merged ++ keys := by
  induction keys generalizing merged with
  | nil => exact (List.append_nil _).symm
  | cons key keys ih =>
      rw [List.foldl_cons] at all ⊢
      rw [List.length_cons] at all
      rcases setKey_cases key.1 key.2 merged with added | same
      · rw [added] at all ⊢
        rw [ih _ (by rw [all, List.length_append, List.length_singleton]; omega),
          List.append_assoc, List.singleton_append]
      · have short := length_foldl_setKey_le (setKey key.1 key.2 merged) keys
        omega

theorem foldl_setKey_of_pairwise (merged keys : List (Key × Int))
    (distinct : (merged ++ keys).Pairwise fun first second => first.1.same second.1 = false) :
    keys.foldl (fun merged key => setKey key.1 key.2 merged) merged = merged ++ keys := by
  induction keys generalizing merged with
  | nil => exact (List.append_nil _).symm
  | cons key keys ih =>
      have absent : ∀ other ∈ merged, other.1.same key.1 = false := fun other isOther =>
        (List.pairwise_append.mp distinct).2.2 other isOther key List.mem_cons_self
      rw [List.foldl_cons, setKey_of_absent absent, ih, List.append_assoc, List.singleton_append]
      rwa [List.append_assoc, List.singleton_append]

end

/-- The keys that an index was given. -/
def givenKeys (spec : List (String × Bool)) : List (Key × Int) :=
  spec.map fun (path, descends) => (.text path, direction descends)

theorem mergeKeys_givenKeys {spec : List (String × Bool)}
    (distinct : (spec.map Prod.fst).Nodup) : mergeKeys (givenKeys spec) = givenKeys spec := by
  refine foldl_setKey_of_pairwise [] (givenKeys spec) ?_
  rw [List.nil_append, givenKeys, List.pairwise_map]
  refine (List.pairwise_map.mp distinct).imp fun {first second} other => ?_
  rw [Key.same_text]
  exact decide_eq_false (by simpa using other)

/-- The keys are listed as they were given if and only if all paths are read back. -/
theorem mergeKeys_listedKeys_iff (dialect : Dialect) {spec : List (String × Bool)}
    (distinct : (spec.map Prod.fst).Nodup) (full : ∀ key ∈ spec, IsFullPath key.1) :
    mergeKeys (listedKeys dialect spec) = givenKeys spec ↔
      ∀ key ∈ spec, IsReadBack dialect key.1 := by
  have same : listedKeys dialect spec = givenKeys spec ↔
      ∀ key ∈ spec, IsReadBack dialect key.1 := by
    rw [listedKeys, givenKeys, List.map_inj_left]
    refine forall₂_congr fun key isKey => ?_
    simp [listedPath_eq_iff (full key isKey)]
  rw [← same]
  constructor
  · intro merged
    -- as many keys are left as there were before, so no two of them were merged
    have all : (mergeKeys (listedKeys dialect spec)).length =
        ([] : List (Key × Int)).length + (listedKeys dialect spec).length := by
      rw [merged]
      simp [givenKeys, listedKeys]
    exact (foldl_setKey_of_length [] _ all).symm.trans merged
  · intro same
    rw [same, mergeKeys_givenKeys distinct]

/-! ## Rows of MySQL -/

theorem mysqlPath?_append {before : List Char} (noQuote : '\'' ∉ before) (text : List Char) :
    mysqlPath? (before ++ text) = mysqlPath? text := by
  induction before with
  | nil => rfl
  | cons character before ih =>
      rw [List.mem_cons, not_or] at noQuote
      have noPath : after? "'$." (character :: (before ++ text)) = none := if_neg noQuote.1
      rw [List.cons_append, mysqlPath?, noPath, Option.bind_none]
      exact ih noQuote.2

end Catalog

namespace FieldIndex

/-- What stands before the path literal of a key in a MySQL catalog. -/
def mysqlOpening : List Char := "(cast(json_unquote(json_extract(`data`,_utf8mb4".toList

/-- What stands after the path literal of a key in a MySQL catalog. -/
def mysqlClosing : List Char := ")) as char(255) charset utf8mb4) collate utf8mb4_bin)".toList

/-- The expression of a key in a MySQL catalog. -/
def mysqlExpression (path : String) : List Char :=
  mysqlOpening ++ (quotedText '\'' (pathContent .mysql path) ++ mysqlClosing)

/-- The row of a key in a MySQL catalog. -/
def mysqlRow (index : FieldIndex) (path : String) (descends : Bool) : Value :=
  .object
    [ ("name", .text index.name), ("non_unique", .int (if index.unique then 0 else 1)),
      ("column_name", .null), ("expression", .text (String.ofList (mysqlExpression path))),
      ("collation", .text (if descends then "D" else "A")) ]

def mysqlRows (index : FieldIndex) : List Value :=
  index.spec.map fun key => index.mysqlRow key.1 key.2

end FieldIndex

namespace Catalog

/-- The first path literal of an expression is that of its key. -/
theorem mysqlPath?_mysqlExpression (path : String) :
    mysqlPath? (FieldIndex.mysqlExpression path) =
      some (quotedBody '\'' (String.ofList (joinedTexts '.' (splitPath path)))) := by
  obtain ⟨rest, closing⟩ : ∃ rest, FieldIndex.mysqlClosing = ')' :: rest := ⟨_, rfl⟩
  have noQuote : '\'' ∉ FieldIndex.mysqlOpening := by decide
  have literal : quotedText '\'' (pathContent .mysql path) = '\'' :: '$' :: '.' ::
      (quotedBody '\'' (String.ofList (joinedTexts '.' (splitPath path))) ++ ['\'']) := by
    rw [pathContent, quotedText, quotedBody, toList_dollarContent, quotedBody, String.toList_ofList]
    rfl
  have opening (rest : List Char) : after? "'$." ('\'' :: '$' :: '.' :: rest) = some rest := rfl
  rw [FieldIndex.mysqlExpression, mysqlPath?_append noQuote, closing, literal, List.cons_append,
    List.cons_append, List.cons_append, List.append_assoc, List.singleton_append, mysqlPath?,
    opening, Option.bind_some, readLooselyQuoted_quotedBody (by decide)]

theorem mysqlField_mysqlExpression {path : String} (full : IsFullPath path) (column : Value) :
    mysqlField (String.ofList (FieldIndex.mysqlExpression path)) column =
      .ok (some (.text (listedPath .mysql path))) := by
  have some : (listedPath .mysql path).isEmpty = false := by
    simpa using listedPath_mysql_ne_empty full
  rw [mysqlField, String.toList_ofList, mysqlPath?_mysqlExpression]
  dsimp only
  rw [singleQuotes_quotedBody, String.toList_ofList]
  change Except.ok (if (listedPath .mysql path).isEmpty then _ else _) = _
  rw [some]
  rfl

theorem addMysqlRow_object (scalars : ScalarReader) (name collation : String) (nonUnique : Int)
    {expression : String} {field : Key} (isField : mysqlField expression .null = .ok (some field))
    (descriptions : List (Key × IndexDescription)) :
    addMysqlRow scalars descriptions (.object
        [ ("name", .text name), ("non_unique", .int nonUnique), ("column_name", .null),
          ("expression", .text expression), ("collation", .text collation) ]) =
      .ok (addMysqlField (.text name) name (!(Value.int nonUnique).isTruthy)
        (some (field, if (Value.text collation).equal (.text "D") then -1 else 1))
        descriptions) := by
  have read : rowMember (.object
      [ ("name", .text name), ("non_unique", .int nonUnique), ("column_name", .null),
        ("expression", .text expression), ("collation", .text collation) ]) "expression" =
      .ok (.text expression) := rfl
  unfold addMysqlRow
  rw [read]
  change (indexName scalars (.text name) >>= _) = _
  rw [indexName_text]
  change ((liftM (textOrEmpty (.text expression)) : Except Failure String) >>= _) = _
  rw [textOrEmpty_text]
  change ((liftM (mysqlField expression .null) : Except Failure (Option Key)) >>= _) = _
  rw [isField]
  rfl

/-- The row of a key adds the key to the index of its name. -/
theorem addMysqlRow_mysqlRow (scalars : ScalarReader) (index : FieldIndex) {path : String}
    (full : IsFullPath path) (descends : Bool) (descriptions : List (Key × IndexDescription)) :
    addMysqlRow scalars descriptions (index.mysqlRow path descends) =
      .ok (addMysqlField (.text index.name) index.name index.unique
        (some (.text (listedPath .mysql path), direction descends)) descriptions) := by
  have added := addMysqlRow_object scalars index.name (if descends then "D" else "A")
    (if index.unique then 0 else 1) (mysqlField_mysqlExpression full .null) descriptions
  have direct : (Value.text (if descends then "D" else "A")).equal (.text "D") = descends := by
    cases descends <;> rfl
  have truth : (!(Value.int (if index.unique then 0 else 1)).isTruthy) = index.unique := by
    cases index.unique <;> rfl
  rw [direct, truth] at added
  exact added

section

variable {label : Key} {name : String} {unique : Bool} {key : Key × Int}
  {before : List (Key × IndexDescription)}

theorem addMysqlField_of_absent (absent : ∀ entry ∈ before, entry.1.same label = false) :
    addMysqlField label name unique (some key) before =
      before ++ [(label, { name, key := [key], unique })] := by
  induction before with
  | nil => rfl
  | cons entry before ih =>
      obtain ⟨first, others⟩ := List.forall_mem_cons.mp absent
      rw [addMysqlField, first, ih others]
      rfl

theorem addMysqlField_of_last (absent : ∀ entry ∈ before, entry.1.same label = false)
    (isLabel : label.same label = true) (description : IndexDescription) :
    addMysqlField label name unique (some key) (before ++ [(label, description)]) =
      before ++ [(label, { description with key := setKey key.1 key.2 description.key })] := by
  induction before with
  | nil => rw [List.nil_append, addMysqlField, if_pos isLabel]; rfl
  | cons entry before ih =>
      obtain ⟨first, others⟩ := List.forall_mem_cons.mp absent
      rw [List.cons_append, addMysqlField, first, ih others]
      rfl

end

end Catalog

namespace FieldIndex

open Catalog

/-- An index with paths that are different and have no empty segments. -/
structure IsSpecified (index : FieldIndex) : Prop where
  some : index.spec ≠ []
  distinct : (index.spec.map Prod.fst).Nodup
  full : ∀ key ∈ index.spec, IsFullPath key.1

/-- What is read from the rows of an index in a MySQL catalog. -/
def mysqlReported (index : FieldIndex) : IndexDescription :=
  { name := index.name, key := mergeKeys (listedKeys .mysql index.spec), unique := index.unique }

theorem foldlM_mysqlRow (scalars : ScalarReader) (index : FieldIndex) {spec : List (String × Bool)}
    (full : ∀ key ∈ spec, IsFullPath key.1) {before : List (Key × IndexDescription)}
    (absent : ∀ entry ∈ before, entry.1.same (.text index.name) = false)
    (description : IndexDescription) :
    (spec.map fun key => index.mysqlRow key.1 key.2).foldlM (addMysqlRow scalars)
        (before ++ [(.text index.name, description)]) =
      .ok (before ++ [(.text index.name, { description with
        key := (listedKeys .mysql spec).foldl (fun merged key => setKey key.1 key.2 merged)
          description.key })]) := by
  have isLabel : (Key.text index.name).same (.text index.name) = true := by
    rw [Key.same_text, decide_eq_true rfl]
  induction spec generalizing description with
  | nil => rfl
  | cons key spec ih =>
      obtain ⟨first, others⟩ := List.forall_mem_cons.mp full
      rw [List.map_cons, List.foldlM_cons, addMysqlRow_mysqlRow scalars index first,
        addMysqlField_of_last absent isLabel]
      exact ih others _

/-- The rows of an index add one description, with the keys of the index. -/
theorem foldlM_mysqlRows (scalars : ScalarReader) {index : FieldIndex}
    (specified : index.IsSpecified) {before : List (Key × IndexDescription)}
    (absent : ∀ entry ∈ before, entry.1.same (.text index.name) = false) :
    index.mysqlRows.foldlM (addMysqlRow scalars) before =
      .ok (before ++ [(.text index.name, index.mysqlReported)]) := by
  obtain ⟨name, collection, spec, unique⟩ := index
  obtain ⟨key, spec, rfl⟩ := List.exists_cons_of_ne_nil specified.some
  obtain ⟨first, others⟩ := List.forall_mem_cons.mp specified.full
  rw [mysqlRows, List.map_cons, List.foldlM_cons, addMysqlRow_mysqlRow scalars _ first,
    addMysqlField_of_absent absent]
  exact foldlM_mysqlRow scalars _ others absent _

/-- The indexes of a MySQL catalog are listed in the order of their first rows. -/
theorem indexes_mysqlRows (scalars : ScalarReader) {indexes : List FieldIndex}
    (specified : ∀ index ∈ indexes, index.IsSpecified)
    (distinct : (indexes.map FieldIndex.name).Nodup) :
    Catalog.indexes scalars .mysql (indexes.flatMap mysqlRows) =
      .ok (indexes.map mysqlReported) := by
  let entry (index : FieldIndex) : Key × IndexDescription := (.text index.name, index.mysqlReported)
  -- by induction on the indexes whose rows are left, after those of the indexes before
  have folded : ∀ before : List FieldIndex, ((before ++ indexes).map name).Nodup →
      (indexes.flatMap mysqlRows).foldlM (addMysqlRow scalars) (before.map entry) =
        .ok ((before ++ indexes).map entry) := by
    clear distinct
    induction indexes with
    | nil =>
        intro before _
        rw [List.append_nil]
        rfl
    | cons index indexes ih =>
        intro before distinct
        obtain ⟨first, others⟩ := List.forall_mem_cons.mp specified
        have absent : ∀ known ∈ before.map entry, known.1.same (.text index.name) = false := by
          rw [List.forall_mem_map]
          intro other isOther
          have different : other.name ≠ index.name := by
            rw [List.map_append, List.map_cons] at distinct
            exact (List.nodup_append.mp distinct).2.2 _ (List.mem_map_of_mem isOther) _
              List.mem_cons_self
          rw [Key.same_text]
          exact decide_eq_false fun same => different (Key.text.inj same)
        rw [List.flatMap_cons, List.foldlM_append, foldlM_mysqlRows scalars first absent]
        have later := ih others (before ++ [index])
        rw [List.append_assoc, List.singleton_append, List.map_append (f := entry)] at later
        exact later distinct
  have all := folded [] distinct
  rw [List.map_nil, List.nil_append] at all
  rw [Catalog.indexes, all]
  change Except.ok ((indexes.map entry).map Prod.snd) = _
  rw [List.map_map]
  rfl

theorem key_reported {style : NameStyle} {index : FieldIndex} (specified : index.IsSpecified)
    (apart : ∀ start ∈ keyStarts, ¬start <:+: index.head style) :
    (index.reported style).key = mergeKeys (listedKeys .postgres index.spec) := by
  have reads := ReadsKeys.definition specified.some specified.full apart
  change postgresKeys (String.ofList (index.definition style)) = _
  rw [postgresKeys, String.toList_ofList (l := index.definition style)]
  exact congrArg mergeKeys (reads _ (Nat.lt_succ_self _))

end FieldIndex

/-- The rows of some indexes in the catalog of a dialect. -/
def catalogRows (dialect : Dialect) (style : NameStyle) (indexes : List FieldIndex) : List Value :=
  match dialect with
  | .postgres => indexes.map (FieldIndex.postgresRow style)
  | .mysql => indexes.flatMap FieldIndex.mysqlRows

/-- The indexes of a catalog are listed in their order.  An index has the keys that it was given if
and only if all of its paths are read back.  No key may start in the names of a Postgres index. -/
theorem keys_listed_iff (scalars : ScalarReader) (dialect : Dialect) (style : NameStyle)
    {indexes : List FieldIndex}
    (specified : ∀ index ∈ indexes, index.IsSpecified)
    (distinct : (indexes.map FieldIndex.name).Nodup)
    (apart : dialect = .postgres →
      ∀ index ∈ indexes, ∀ start ∈ Catalog.keyStarts, ¬start <:+: index.head style) :
    ∃ descriptions,
      Catalog.indexes scalars dialect (catalogRows dialect style indexes) = .ok descriptions ∧
      List.Forall₂ (fun index description => description.name = index.name ∧
        (description.key = Catalog.givenKeys index.spec ↔
          ∀ key ∈ index.spec, IsReadBack dialect key.1)) indexes descriptions := by
  have listed {index : FieldIndex} (isIndex : index ∈ indexes) :=
    Catalog.mergeKeys_listedKeys_iff dialect (specified index isIndex).distinct
      (specified index isIndex).full
  cases dialect with
  | postgres =>
      refine ⟨_, FieldIndex.indexes_postgresRow scalars style indexes,
        List.forall₂_map_right_iff.mpr (List.forall₂_same.mpr fun index isIndex => ⟨rfl, ?_⟩)⟩
      rw [FieldIndex.key_reported (specified index isIndex) (apart rfl index isIndex)]
      exact listed isIndex
  | mysql =>
      exact ⟨_, FieldIndex.indexes_mysqlRows scalars specified distinct,
        List.forall₂_map_right_iff.mpr (List.forall₂_same.mpr fun index isIndex => ⟨rfl, listed isIndex⟩)⟩

/-- A comma is read back in a path of one segment, and in none of more. -/
theorem keys_listed_users :
    let style : NameStyle := { isQuoted := fun _ => false, schema := some "public" }
    let cities : FieldIndex :=
      { name := "cities", collection := "users", unique := false
        spec := [("address.city", false), ("created", true)] }
    let names : FieldIndex :=
      { name := "names", collection := "users", unique := true, spec := [("last,first", false)] }
    ∃ first second,
      Catalog.indexes .lenient .postgres (catalogRows .postgres style [cities, names]) =
        .ok [first, second] ∧
      first.key = [(.text "address.city", 1), (.text "created", -1)] ∧
      second.key = [(.text "last,first", 1)] := by
  intro style cities names
  have apart (index : FieldIndex) (isIndex : index ∈ [cities, names]) :
      ∀ start ∈ Catalog.keyStarts, ¬start <:+: index.head style := by
    simp only [← occursIn_iff]
    revert index
    decide
  have specified : ∀ index ∈ [cities, names], index.IsSpecified := by
    simp only [List.forall_mem_cons]
    exact ⟨⟨by decide, by decide, by decide⟩, ⟨by decide, by decide, by decide⟩, by simp⟩
  obtain ⟨_, listed, keys⟩ :=
    keys_listed_iff .lenient .postgres style specified (by decide) fun _ => apart
  obtain _ | ⟨first, others⟩ := keys
  obtain _ | ⟨second, none⟩ := others
  cases none
  exact ⟨_, _, listed, first.2.mpr (by decide), second.2.mpr (by decide)⟩

/-- A comma in a segment is read as a point. -/
theorem keys_listed_comma :
    let style : NameStyle := { isQuoted := fun _ => false, schema := some "public" }
    let index : FieldIndex :=
      { name := "idx", collection := "users", spec := [("a.b,c", false)], unique := false }
    index.IsSpecified ∧
    ∃ description,
      Catalog.indexes .lenient .postgres (catalogRows .postgres style [index]) = .ok [description] ∧
      description.key = [(.text "a.b.c", 1)] ∧ description.key ≠ Catalog.givenKeys index.spec :=
  ⟨⟨by decide, by decide, by decide⟩, _, rfl, rfl, by decide⟩

end DocStore
