import DocStore.Proofs.IndexCatalog
import DocStore.Proofs.Path.ArrayText

/-!
# Paths that are read back

The path of an index key is read back from its literal.  The text of the segments is cut at the
character that joins them, whether or not it stands inside of a segment, and the quotes around a
segment are taken off, but its escapes are not undone.  So a path is read back if and only if no
segment has a character that is taken for a joint or that was escaped.
-/

namespace DocStore

open Sql

/-! ## Trimming -/

section

variable {isTrimmed : Char → Bool} {character : Char} {text : List Char}

theorem trimEnds_cons (trimmed : isTrimmed character = true) :
    trimEnds isTrimmed (character :: text) = trimEnds isTrimmed text := by
  rw [trimEnds, List.dropWhile_cons_of_pos trimmed, trimEnds]

theorem trimEnds_concat (trimmed : isTrimmed character = true) :
    trimEnds isTrimmed (text ++ [character]) = trimEnds isTrimmed text := by
  change ((text ++ [character]).dropWhile isTrimmed).rdropWhile isTrimmed =
    (text.dropWhile isTrimmed).rdropWhile isTrimmed
  rw [List.dropWhile_append]
  split
  · rename_i nothing
    rw [List.isEmpty_iff.mp nothing, List.dropWhile_cons_of_pos trimmed, List.dropWhile_nil]
  · rw [List.rdropWhile_concat_pos _ _ _ trimmed]

theorem trimEnds_eq_self (first : ∀ character ∈ text.head?, isTrimmed character = false)
    (last : ∀ character ∈ text.getLast?, isTrimmed character = false) :
    trimEnds isTrimmed text = text := by
  have kept : text.dropWhile isTrimmed = text := by
    cases text with
    | nil => rfl
    | cons character text => exact List.dropWhile_cons_of_neg (by simp [first character rfl])
  change (text.dropWhile isTrimmed).rdropWhile isTrimmed = text
  rw [kept, List.rdropWhile_eq_self_iff]
  intro full
  simp [last _ (List.getLast?_eq_some_getLast full)]

theorem trimEnds_of_kept (kept : ∀ character ∈ text, isTrimmed character = false) :
    trimEnds isTrimmed text = text :=
  trimEnds_eq_self (fun character first => kept character (List.mem_of_mem_head? first))
    fun character last => kept character (List.mem_of_mem_getLast? last)

theorem isTrimmed_getLast?_trimEnds :
    ∀ character ∈ (trimEnds isTrimmed text).getLast?, isTrimmed character = false := by
  intro character isLast
  change character ∈ ((text.dropWhile isTrimmed).rdropWhile isTrimmed).getLast? at isLast
  obtain ⟨full, rfl⟩ := List.mem_getLast?_eq_getLast isLast
  simpa using List.rdropWhile_last_not isTrimmed (text.dropWhile isTrimmed) full

theorem trimEnds_ne_nil (member : character ∈ text) (kept : isTrimmed character = false) :
    trimEnds isTrimmed text ≠ [] := by
  intro nothing
  have all : ∀ other ∈ text.dropWhile isTrimmed, isTrimmed other = true :=
    List.rdropWhile_eq_nil_iff.mp nothing
  by_cases full : text.dropWhile isTrimmed = []
  · simp [List.dropWhile_eq_nil_iff.mp full character member] at kept
  · have first := List.head_dropWhile_not isTrimmed full
    simp [all _ (List.head_mem full)] at first

end

/-! ## Segments -/

section

variable {text : List Char}

theorem length_le_length_escaped (text : List Char) :
    text.length ≤ (text.flatMap escapeSegmentCharacter).length := by
  induction text with
  | nil => rfl
  | cons character text ih =>
      have one : 1 ≤ (escapeSegmentCharacter character).length := by
        unfold escapeSegmentCharacter
        split <;> simp
      rw [List.flatMap_cons, List.length_append, List.length_cons]
      omega

theorem escaped_eq_self_iff :
    text.flatMap escapeSegmentCharacter = text ↔
      ∀ character ∈ text, character ≠ '"' ∧ character ≠ '\\' := by
  induction text with
  | nil => simp
  | cons character text ih =>
      rw [List.flatMap_cons, List.forall_mem_cons, escapeSegmentCharacter]
      split
      · rename_i special
        have longer := length_le_length_escaped text
        refine iff_of_false (fun same => ?_) (by tauto)
        have lengths := congrArg List.length same
        rw [List.length_append, List.length_cons, List.length_cons, List.length_cons] at lengths
        omega
      · rename_i plain
        have ordinary : character ≠ '"' ∧ character ≠ '\\' := by tauto
        rw [List.singleton_append, List.cons_inj_right, ih, and_iff_right ordinary]

theorem head?_escaped : ∀ character ∈ (text.flatMap escapeSegmentCharacter).head?,
    (character == '"') = false := by
  cases text with
  | nil => simp
  | cons character text =>
      rw [List.flatMap_cons, escapeSegmentCharacter]
      split
      · simp
      · simp_all

theorem getLast?_escaped (text : List Char) :
    (text.flatMap escapeSegmentCharacter).getLast? = text.getLast? := by
  induction text using List.reverseRecOn with
  | nil => rfl
  | append_singleton front character _ =>
      rw [List.flatMap_append, List.flatMap_singleton, List.getLast?_append, List.getLast?_concat,
        escapeSegmentCharacter]
      split <;> simp

/-- Trimming quotes does not undo escapes. -/
theorem trimEnds_escaped : trimEnds (· == '"') (text.flatMap escapeSegmentCharacter) = text ↔
    ∀ character ∈ text, character ≠ '"' ∧ character ≠ '\\' := by
  rw [← escaped_eq_self_iff]
  constructor
  · intro same
    have last : ∀ character ∈ text.getLast?, (character == '"') = false := by
      rw [← same]
      exact isTrimmed_getLast?_trimEnds
    rwa [trimEnds_eq_self head?_escaped (by rwa [getLast?_escaped])] at same
  · intro same
    have plain := escaped_eq_self_iff.mp same
    rw [same]
    exact trimEnds_of_kept fun character member => beq_false_of_ne (plain character member).1

end

theorem trimEnds_segmentText (segment : String) :
    trimEnds (· == '"') (segmentText segment).toList = segment.toList ↔
      ∀ character ∈ segment.toList, character ≠ '"' ∧ character ≠ '\\' := by
  unfold segmentText
  split
  · rename_i simple
    have plain (character : Char) (member : character ∈ segment.toList) :
        character ≠ '"' ∧ character ≠ '\\' := by
      rcases isNamePart_or_lineFeed simple member with isPart | rfl
      · constructor <;> rintro rfl <;> exact absurd isPart (by decide)
      · decide
    exact iff_of_true
      (trimEnds_of_kept fun character member => beq_false_of_ne (plain character member).1) plain
  · rw [String.toList_ofList, trimEnds_cons rfl, trimEnds_concat rfl, trimEnds_escaped]

/-- The text of a segment has the characters of the segment, quotes and escapes. -/
theorem mem_segmentText_iff {mark : Char} (noQuote : mark ≠ '"') (noEscape : mark ≠ '\\')
    (segment : String) : mark ∈ (segmentText segment).toList ↔ mark ∈ segment.toList := by
  unfold segmentText
  split
  · rfl
  · have escaped (character : Char) :
        mark ∈ escapeSegmentCharacter character ↔ character = mark := by
      unfold escapeSegmentCharacter
      split <;> simp [noEscape, eq_comm]
    simp [escaped, noQuote]

/-! ## Joined segments -/

theorem cutAt_ne_nil (separator : Char) (text : List Char) : cutAt separator text ≠ [] := by
  rw [cutAt_eq_splitOn]
  exact List.splitOn_ne_nil separator text

theorem cutAt_eq_singleton_iff {separator : Char} {text piece : List Char} :
    cutAt separator text = [piece] ↔ separator ∉ text ∧ text = piece := by
  constructor
  · intro single
    obtain rfl : text = piece := by
      rw [← intercalate_cutAt separator text, single, List.intercalate_singleton]
    exact ⟨separator_notMem_of_mem_cutAt (single ▸ List.mem_singleton_self text), rfl⟩
  · rintro ⟨whole, rfl⟩
    exact cutAt_of_notMem whole

theorem mem_of_mem_cutAt {separator character : Char} {text piece : List Char}
    (isPiece : piece ∈ cutAt separator text) (member : character ∈ piece) : character ∈ text := by
  induction text generalizing piece with
  | nil => simp_all [cutAt]
  | cons first text ih =>
      unfold cutAt at isPiece
      split at isPiece
      · rcases List.mem_cons.mp isPiece with rfl | later
        · cases member
        · exact List.mem_cons_of_mem _ (ih later member)
      · cases cut : cutAt separator text with
        | nil => exact absurd cut (cutAt_ne_nil separator text)
        | cons head pieces =>
            rw [cut] at isPiece ih
            rcases List.mem_cons.mp isPiece with rfl | later
            · rcases List.mem_cons.mp member with rfl | inHead
              · exact List.mem_cons_self
              · exact List.mem_cons_of_mem _ (ih List.mem_cons_self inHead)
            · exact List.mem_cons_of_mem _ (ih (List.mem_cons_of_mem _ later) member)

theorem mem_of_mem_trimEnds {isTrimmed : Char → Bool} {character : Char} {text : List Char}
    (member : character ∈ trimEnds isTrimmed text) : character ∈ text :=
  (text.dropWhile_sublist isTrimmed).subset
    ((List.rdropWhile_prefix isTrimmed (text.dropWhile isTrimmed)).subset member)

/-- Parts that are not empty are as many as the items only if each item has one part. -/
theorem flatMap_eq_map_iff {α β : Type} {parts : α → List β} {part : α → β}
    (full : ∀ item, parts item ≠ []) (items : List α) :
    items.flatMap parts = items.map part ↔ ∀ item ∈ items, parts item = [part item] := by
  have atLeast (items : List α) : items.length ≤ (items.flatMap parts).length := by
    induction items with
    | nil => rfl
    | cons item items ih =>
        have one := List.length_pos_of_ne_nil (full item)
        rw [List.flatMap_cons, List.length_append, List.length_cons]
        omega
  induction items with
  | nil => simp
  | cons item items ih =>
      rw [List.flatMap_cons, List.map_cons, List.forall_mem_cons]
      refine ⟨fun same => ?_, fun ⟨single, others⟩ => ?_⟩
      · cases isParts : parts item with
        | nil => exact absurd isParts (full item)
        | cons first rest =>
            cases rest with
            | nil =>
                rw [isParts, List.singleton_append] at same
                obtain ⟨rfl, others⟩ := List.cons.inj same
                exact ⟨rfl, ih.mp others⟩
            | cons second rest =>
                have lengths := congrArg List.length same
                have others := atLeast items
                rw [isParts, List.length_append, List.length_cons, List.length_cons,
                  List.length_cons, List.length_map] at lengths
                omega
      · rw [single, ih.mpr others, List.singleton_append]

theorem toList_dollarContent (segments : List String) :
    (dollarContent segments).toList = '$' :: '.' :: joinedTexts '.' segments := by
  simp [dollarContent, joinedTexts, String.toList_append, String.toList_intercalate,
    Function.comp_def]

def isBrace (character : Char) : Bool := character == '\x7b' || character == '\x7d'

/-- A text that is not empty and has no brace at its ends. -/
structure IsBare (text : List Char) : Prop where
  full : text ≠ []
  first : ∀ character ∈ text.head?, isBrace character = false
  last : ∀ character ∈ text.getLast?, isBrace character = false

theorem isBare_segmentText (segment : String) : IsBare (segmentText segment).toList := by
  unfold segmentText
  split
  · rename_i simple
    obtain ⟨first, rest, letters, _⟩ := toList_of_isSimpleKey simple
    have inside (character : Char) (member : character ∈ segment.toList) :
        isBrace character = false := by
      rw [isBrace, Bool.or_eq_false_iff, beq_eq_false_iff_ne, beq_eq_false_iff_ne]
      rcases isNamePart_or_lineFeed simple member with isPart | rfl
      · constructor <;> rintro rfl <;> exact absurd isPart (by decide)
      · decide
    exact ⟨by simp [letters], fun character first => inside character (List.mem_of_mem_head? first),
      fun character last => inside character (List.mem_of_mem_getLast? last)⟩
  · rw [String.toList_ofList]
    refine ⟨by simp, by simp [isBrace], ?_⟩
    rw [← List.cons_append, List.getLast?_concat]
    simp [isBrace]

theorem isBare_joinedTexts (separator : Char) {segments : List String} (full : segments ≠ []) :
    IsBare (joinedTexts separator segments) := by
  induction segments with
  | nil => exact absurd rfl full
  | cons first segments ih =>
      have bare := isBare_segmentText first
      cases segments with
      | nil => simpa [joinedTexts] using bare
      | cons second segments =>
          have others := ih (by simp)
          have joined : joinedTexts separator (first :: second :: segments) =
              (segmentText first).toList ++
                separator :: joinedTexts separator (second :: segments) := by
            simp [joinedTexts, List.intercalate_cons_cons]
          rw [joined]
          refine ⟨by simp, ?_, ?_⟩
          · rw [List.head?_append_of_ne_nil _ bare.full]
            exact bare.first
          · rw [List.getLast?_append_of_ne_nil _ (by simp),
              List.getLast?_cons_of_ne_nil others.full]
            exact others.last

/-- The braces of an array are taken off, and no others. -/
theorem trimEnds_arrayContent {segments : List String} (full : segments ≠ []) :
    trimEnds isBrace (arrayContent segments).toList = joinedTexts ',' segments := by
  have bare := isBare_joinedTexts ',' full
  rw [toList_arrayContent, trimEnds_cons rfl, trimEnds_concat rfl,
    trimEnds_eq_self bare.first bare.last]

theorem toList_dottedPath (separator : Char) (text : List Char) :
    (Catalog.dottedPath separator text).toList =
      ['.'].intercalate ((cutAt separator text).map (trimEnds (· == '"'))) := by
  rw [Catalog.dottedPath, String.toList_intercalate, List.map_map]
  congr 2
  funext piece
  exact String.toList_ofList

/-- The pieces into which the text of a segment is cut, without the quotes at their ends. -/
def readPieces (separator : Char) (segment : String) : List (List Char) :=
  (cutAt separator (segmentText segment).toList).map (trimEnds (· == '"'))

theorem readPieces_ne_nil (separator : Char) (segment : String) :
    readPieces separator segment ≠ [] := by
  simpa [readPieces] using cutAt_ne_nil separator (segmentText segment).toList

/-- The characters of the pieces are in the segment, but for quotes and escapes. -/
theorem notMem_readPieces {mark separator : Char} (noQuote : mark ≠ '"') (noEscape : mark ≠ '\\')
    {segment : String} (apart : mark ∉ segment.toList) :
    ∀ piece ∈ readPieces separator segment, mark ∉ piece := by
  intro piece isPiece member
  obtain ⟨whole, isWhole, rfl⟩ := List.mem_map.mp isPiece
  exact apart ((mem_segmentText_iff noQuote noEscape segment).mp
    (mem_of_mem_cutAt isWhole (mem_of_mem_trimEnds member)))

theorem readPieces_eq_singleton_iff {separator : Char} (noQuote : separator ≠ '"')
    (noEscape : separator ≠ '\\') (segment : String) :
    readPieces separator segment = [segment.toList] ↔
      separator ∉ segment.toList ∧
        ∀ character ∈ segment.toList, character ≠ '"' ∧ character ≠ '\\' := by
  rw [readPieces, List.map_eq_singleton_iff]
  simp only [cutAt_eq_singleton_iff]
  rw [mem_segmentText_iff noQuote noEscape segment, ← trimEnds_segmentText]
  constructor
  · rintro ⟨_, ⟨whole, rfl⟩, trimmed⟩
    exact ⟨whole, trimmed⟩
  · rintro ⟨whole, trimmed⟩
    exact ⟨_, ⟨whole, rfl⟩, trimmed⟩

section

variable {separator : Char} {segments : List String}

/-- The pieces of joined texts are those of the texts. -/
theorem map_cutAt_joinedTexts (full : segments ≠ []) :
    (cutAt separator (joinedTexts separator segments)).map (trimEnds (· == '"')) =
      segments.flatMap (readPieces separator) := by
  rw [joinedTexts, cutAt_intercalate separator (by simpa using full), List.flatMap_map,
    List.map_flatMap]
  rfl

/-- Segments are read back if and only if each of them has one piece, which is itself. -/
theorem dottedPath_joinedTexts_iff (noQuote : separator ≠ '"') (noEscape : separator ≠ '\\')
    (full : segments ≠ []) (pointFree : ∀ segment ∈ segments, '.' ∉ segment.toList) :
    Catalog.dottedPath separator (joinedTexts separator segments) =
        String.intercalate "." segments ↔
      ∀ segment ∈ segments, separator ∉ segment.toList ∧
        ∀ character ∈ segment.toList, character ≠ '"' ∧ character ≠ '\\' := by
  have noPoint : ∀ piece ∈ segments.flatMap (readPieces separator), '.' ∉ piece := by
    intro piece isPiece
    obtain ⟨segment, isSegment, cut⟩ := List.mem_flatMap.mp isPiece
    exact notMem_readPieces (by decide) (by decide) (pointFree segment isSegment) piece cut
  have someText : segments.map String.toList ≠ [] := by simpa using full
  have somePiece : segments.flatMap (readPieces separator) ≠ [] := by
    obtain ⟨first, others, rfl⟩ := List.exists_cons_of_ne_nil full
    simp [readPieces_ne_nil]
  rw [← String.toList_inj, toList_dottedPath, map_cutAt_joinedTexts full,
    String.toList_intercalate]
  change ['.'].intercalate _ = ['.'].intercalate _ ↔ _
  rw [← @cutAt_inj '.', cutAt_eq_splitOn, cutAt_eq_splitOn,
    List.splitOn_intercalate '.' noPoint somePiece,
    List.splitOn_intercalate '.' (by simpa using pointFree) someText, flatMap_eq_map_iff (readPieces_ne_nil separator)]
  exact forall₂_congr fun segment _ => readPieces_eq_singleton_iff noQuote noEscape segment

end

/-! ## Listed paths -/

/-- A path without empty segments. -/
def IsFullPath (path : String) : Prop := [] ∉ cutAt '.' path.toList

instance (path : String) : Decidable (IsFullPath path) :=
  decidable_of_iff ((cutAt '.' path.toList).contains [] = false) (by simp [IsFullPath])

section

variable {path : String}

theorem pointFree_splitPath (path : String) : ∀ segment ∈ splitPath path, '.' ∉ segment.toList := by
  intro segment isSegment
  obtain ⟨piece, isPiece, rfl⟩ := List.mem_map.mp isSegment
  rw [String.toList_ofList]
  exact separator_notMem_of_mem_cutAt (List.mem_of_mem_filter isPiece)

theorem splitPath_of_isFullPath (full : IsFullPath path) :
    splitPath path = (cutAt '.' path.toList).map String.ofList := by
  rw [splitPath, List.filter_eq_self.mpr]
  intro piece isPiece
  cases piece with
  | nil => exact absurd isPiece full
  | cons => rfl

theorem splitPath_ne_nil (full : IsFullPath path) : splitPath path ≠ [] := by
  simpa [splitPath_of_isFullPath full] using cutAt_ne_nil '.' path.toList

/-- The segments of a path, joined by points, are the path. -/
theorem intercalate_splitPath (full : IsFullPath path) :
    String.intercalate "." (splitPath path) = path := by
  rw [← String.toList_inj, String.toList_intercalate, splitPath_of_isFullPath full, List.map_map]
  have same : String.toList ∘ String.ofList = id := funext fun piece => String.toList_ofList
  rw [same, List.map_id]
  exact intercalate_cutAt '.' path.toList

end

/-- The path that is read back from the literal of a path. -/
def listedPath (dialect : Dialect) (path : String) : String :=
  match dialect with
  | .postgres =>
      if isNested path then Catalog.dottedPath ',' (joinedTexts ',' (splitPath path))
      else pathContent .postgres path
  | .mysql => Catalog.dottedPath '.' (joinedTexts '.' (splitPath path))

/-- The characters in a segment that are not read back. -/
def lostMarks : Dialect → List Char
  | .postgres => [',', '"', '\\']
  | .mysql => ['"', '\\']

/-- A path is read back if no segment has such a character.  Postgres has the only segment of a
path without an array around it, so it is read back whatever it is. -/
def IsReadBack (dialect : Dialect) (path : String) : Prop :=
  dialect = .postgres ∧ isNested path = false ∨
    ∀ segment ∈ splitPath path, ∀ character ∈ segment.toList, character ∉ lostMarks dialect

instance (dialect : Dialect) (path : String) : Decidable (IsReadBack dialect path) :=
  have (segment : String) :
      Decidable (∀ character ∈ segment.toList, character ∉ lostMarks dialect) :=
    List.decidableBAll ..
  inferInstanceAs (Decidable (dialect = .postgres ∧ isNested path = false ∨
    ∀ segment ∈ splitPath path, ∀ character ∈ segment.toList, character ∉ lostMarks dialect))

theorem listedPath_eq_iff {dialect : Dialect} {path : String} (full : IsFullPath path) :
    listedPath dialect path = path ↔ IsReadBack dialect path := by
  have joins {separator : Char} (noQuote : separator ≠ '"') (noEscape : separator ≠ '\\') :=
    dottedPath_joinedTexts_iff noQuote noEscape (splitPath_ne_nil full) (pointFree_splitPath path)
  simp only [intercalate_splitPath full] at joins
  unfold listedPath IsReadBack
  cases dialect with
  | postgres =>
      cases nested : isNested path with
      | false =>
          obtain ⟨segment, single⟩ : ∃ segment, splitPath path = [segment] :=
            List.length_eq_one_iff.mp (by simpa [isNested] using nested)
          have isPath := intercalate_splitPath full
          rw [single, String.intercalate_singleton] at isPath
          simp [pathContent, single, isPath]
      | true =>
          rw [if_pos rfl, joins (by decide) (by decide)]
          simp only [reduceCtorEq, and_false, false_or]
          refine forall₂_congr fun segment _ => ?_
          have lost (character : Char) : character ∉ lostMarks .postgres ↔
              character ≠ ',' ∧ character ≠ '"' ∧ character ≠ '\\' := by simp [lostMarks]
          simp only [lost]
          constructor
          · rintro ⟨noComma, plain⟩ character member
            exact ⟨ne_of_mem_of_not_mem member noComma, plain character member⟩
          · intro kept
            exact ⟨fun comma => (kept ',' comma).1 rfl,
              fun character member => (kept character member).2⟩
  | mysql =>
      rw [joins (by decide) (by decide)]
      simp only [reduceCtorEq, false_and, false_or]
      refine forall₂_congr fun segment isSegment => ?_
      rw [and_iff_right (pointFree_splitPath path segment isSegment)]
      simp [lostMarks]

/-- Of a segment that is not empty, something is left between its quotes. -/
theorem trimEnds_segmentText_ne_nil {segment : String} (full : segment.toList ≠ []) :
    trimEnds (· == '"') (segmentText segment).toList ≠ [] := by
  unfold segmentText
  split
  · rename_i simple
    obtain ⟨first, rest, letters, isPart⟩ := toList_of_isSimpleKey simple
    refine trimEnds_ne_nil (letters ▸ List.mem_cons_self) (beq_false_of_ne ?_)
    rintro rfl
    exact absurd isPart (by decide)
  · have longer := length_le_length_escaped segment.toList
    obtain ⟨first, rest, escaped⟩ : ∃ first rest,
        segment.toList.flatMap escapeSegmentCharacter = first :: rest := by
      refine List.exists_cons_of_ne_nil fun nothing => ?_
      rw [nothing] at longer
      exact full (List.eq_nil_of_length_eq_zero (Nat.le_zero.mp longer))
    have kept : (first == '"') = false := head?_escaped first (by rw [escaped]; rfl)
    rw [String.toList_ofList, trimEnds_cons rfl, trimEnds_concat rfl, escaped]
    exact trimEnds_ne_nil List.mem_cons_self kept

theorem listedPath_mysql_ne_empty {path : String} (full : IsFullPath path) :
    listedPath .mysql path ≠ "" := by
  obtain ⟨segment, segments, cut⟩ := List.exists_cons_of_ne_nil (splitPath_ne_nil full)
  have isSegment : segment ∈ splitPath path := cut ▸ List.mem_cons_self
  have someText : segment.toList ≠ [] := by
    obtain ⟨piece, isPiece, rfl⟩ := List.mem_map.mp isSegment
    simpa using (List.mem_filter.mp isPiece).2
  have whole : readPieces '.' segment = [trimEnds (· == '"') (segmentText segment).toList] := by
    have noPoint := pointFree_splitPath path segment isSegment
    rw [readPieces, cutAt_of_notMem]
    · rfl
    · rwa [mem_segmentText_iff (by decide) (by decide)]
  intro nothing
  have letters := congrArg String.toList nothing
  rw [listedPath, toList_dottedPath, map_cutAt_joinedTexts (splitPath_ne_nil full), cut,
    List.flatMap_cons, whole] at letters
  have left := trimEnds_segmentText_ne_nil someText
  cases rest : segments.flatMap (readPieces '.') with
  | nil => simp [rest, left] at letters
  | cons second others => simp [rest, left, List.intercalate_cons_cons] at letters

end DocStore
