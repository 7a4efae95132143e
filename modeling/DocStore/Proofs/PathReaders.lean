import DocStore.Proofs.FieldPaths
import DocStore.Proofs.PageBoundary
import DocStore.Proofs.UpsertSeed

/-!
# Paths in memory

A statement follows a field path to the nested location of its segments.  In memory a
document is asked for the whole path as one key: by the cursor of a page, by unwinding, by
the projections and by the seed of an upsert.  Each of them agrees with the statements in
every document exactly if the path is the name of a field.
-/

namespace DocStore

open Sql

variable (element? : List Value → String → Option Value) {path : String}

/-! ## Cursors -/

open ClientAction Client Database

/-- A search for a page that compiles, on a table of a database. -/
structure PageSearch where
  database : Database
  settings : ClientSettings
  collection : String
  filter : Value
  options : CursorOptions
  session : Option SessionId
  schemas : SchemaCatalog
  disk : Disk
  rows : List Members
  serves : database.Serves disk collection rows
  compiles : (Filter.trail settings.strict filter).failure = none
  pageCompiles : (Filter.trail settings.strict (pageFilter filter options)).failure = none
  positive : 1 ≤ options.limit
  writable : isWritableInteger (options.limit + 1 : Nat) = true

namespace PageSearch

variable (search : PageSearch)

def Finds (page : CursorPage) : Prop :=
  run search.database.answers
      (findPage search.settings search.collection search.filter search.options search.session)
      search.schemas search.disk = ((.ok page, search.schemas), search.disk)

def page : CursorPage :=
  pageOf search.options (search.rows.countP (search.database.accepts search.filter))
    (search.database.beyond search.filter search.options search.rows)

theorem finds_iff {page : CursorPage} : search.Finds page ↔ page = search.page := by
  rw [Finds, run_findPage search.serves search.compiles search.pageCompiles search.writable]
  simp [PageSearch.page, eq_comm]

/-- The cursor of a full page is the value of the last document under the whole path. -/
theorem nextCursor_page (full : search.page.data.length = search.options.limit) :
    search.page.nextCursor =
      (search.page.data.getLast?.bind (Members.get? search.options.cursorField)).getD .null := by
  change nextCursor search.options search.page.data = _
  rw [nextCursor, if_pos full]
  cases search.page.data.getLast? <;> rfl

/-- A page of one document, on a table that holds no other. -/
def single (path : String) (document : Members) (keyed : document.TextKeyed) : PageSearch where
  database := plain
  settings := plainSettings
  collection := "users"
  filter := .object []
  options := { cursorField := path, limit := 1 }
  session := none
  schemas := []
  disk := Disk.holding [document]
  rows := [document]
  serves := serves_holding (List.forall_mem_singleton.mpr keyed)
  compiles := rfl
  pageCompiles := rfl
  positive := Nat.le_refl 1
  writable := (by decide +kernel : isWritableInteger (1 + 1 : Nat) = true)

theorem page_of_single {document : Members} {keyed : document.TextKeyed} {page : CursorPage}
    (found : (single path document keyed).Finds page) :
    page.data = [document] ∧ page.nextCursor = (document.get? path).getD .null := by
  obtain rfl := (finds_iff _).mp found
  have beyond : plain.beyond (.object []) { cursorField := path, limit := 1 } [document] =
      [document] := List.perm_singleton.mp (plain.arrange_perm _ _)
  have data : (single path document keyed).page.data = [document] :=
    congrArg (List.take 1) beyond
  have full : (single path document keyed).page.data.length =
      (single path document keyed).options.limit := congrArg List.length data
  refine ⟨data, ?_⟩
  rw [nextCursor_page _ full, data]
  rfl

end PageSearch

/-- The cursor of a full page is the value of the last document at the cursor field. -/
def CursorFollows (path : String) : Prop :=
  ∀ search : PageSearch, search.options.cursorField = path →
    ∃ page, search.Finds page ∧
      (page.data.length = search.options.limit →
        page.nextCursor =
          (page.data.getLast?.bind (Members.located element? path)).getD .null)

/-- A full page of documents that have a value at the cursor field has a cursor. -/
def CursorGoesOn (path : String) : Prop :=
  ∀ search : PageSearch, search.options.cursorField = path →
    ∃ page, search.Finds page ∧
      (page.data.length = search.options.limit →
        (∀ document ∈ page.data,
          ((document.located element? path).getD .null).isNull = false) →
        page.nextCursor.isNull = false)

theorem cursorFollows_iff : CursorFollows element? path ↔ IsFieldName path := by
  constructor
  · intro follows
    by_contra noName
    -- the page shows a value under the whole path that is not at the nested location
    have keyed : (Members.flat path (.text "value")).TextKeyed := Members.textKeyed_single rfl
    obtain ⟨page, found, isValue⟩ := follows (.single path _ keyed) rfl
    obtain ⟨data, cursor⟩ := PageSearch.page_of_single found
    rw [data, cursor, Members.get?_flat] at isValue
    have apart := Members.located_flat_ne element? noName (.text "value")
    cases located : (Members.flat path (.text "value")).located element? path with
    | none => simpa [located] using isValue rfl
    | some value =>
        rw [located] at apart
        exact apart (congrArg some (by simpa [located] using (isValue rfl).symm))
  · rintro isName search rfl
    refine ⟨search.page, search.finds_iff.mpr rfl, fun full => ?_⟩
    rw [search.nextCursor_page full]
    cases search.page.data.getLast? with
    | none => rfl
    | some last =>
        rw [Option.bind_some, Option.bind_some, Members.located_of_isFieldName element? isName]

theorem cursorGoesOn_iff : CursorGoesOn element? path ↔ IsFieldName path := by
  constructor
  · intro goesOn
    by_contra noName
    -- the page shows no value under the whole path, but there is one at the nested location
    obtain ⟨page, found, hasCursor⟩ :=
      goesOn (.single path _ (Members.textKeyed_nested path)) rfl
    obtain ⟨data, cursor⟩ := PageSearch.page_of_single found
    obtain ⟨value, located, notNull⟩ := Members.located_nested element? path
    rw [data, cursor, Members.get?_nested noName] at hasCursor
    have hasValue : ∀ document ∈ [Members.nested path],
        ((document.located element? path).getD .null).isNull = false := by
      rw [List.forall_mem_singleton, located]
      exact notNull
    cases hasCursor rfl hasValue
  · rintro isName search rfl
    refine ⟨search.page, search.finds_iff.mpr rfl, fun full hasValues => ?_⟩
    rw [search.nextCursor_page full]
    cases isLast : search.page.data.getLast? with
    | none =>
        rw [List.getLast?_eq_none_iff.mp isLast] at full
        exact absurd full.symm (Nat.ne_of_gt search.positive)
    | some last =>
        have hasValue := hasValues last (List.mem_of_getLast? isLast)
        rwa [Members.located_of_isFieldName element? isName] at hasValue

/-! ## Unwinding -/

/-- A document with a list at the path yields one document for each element, which has it at
the path; any other document passes. -/
def UnwindFollows (path : String) : Prop :=
  ∀ specification, Document.unwindField specification = .ok path → ∀ document : Members,
    ∃ unwound, Document.unwind [.object document] specification = .ok unwound ∧
      match document.located element? path with
      | some (.list items) =>
          unwound.map (Value.located element? (splitPath path)) = items.map some
      | _ => unwound = [.object document]

theorem Document.unwindOne_object (path : String) (document : Members) :
    unwindOne path (.object document) =
      .ok (match document.get? path with
        | some (.list items) => items.map fun item => .object (document.set path item)
        | _ => [.object document]) := by
  change (match document.get? path with
    | some (.list items) =>
        pure (items.map fun item => Value.object (document.set path item))
    | _ => pure [Value.object document] : Except Fault (List Value)) = _
  split <;> rfl

theorem Document.unwind_single {specification : Value}
    (named : unwindField specification = .ok path) (document : Members) :
    unwind [.object document] specification =
      .ok (match document.get? path with
        | some (.list items) => items.map fun item => .object (document.set path item)
        | _ => [.object document]) := by
  simp only [unwind, named, List.mapM_cons, List.mapM_nil, unwindOne_object]
  exact congrArg Except.ok (List.append_nil _)

/-- Every path is the field that some operand of an unwinding names. -/
theorem Document.unwindField_reference (path : String) :
    unwindField (.text ("$" ++ path)) = .ok path := by
  have marked : hasDollar ("$" ++ path) = true := by
    simp [hasDollar, String.toList_append]
  change Except.ok (fieldOfReference ("$" ++ path)) = _
  rw [fieldOfReference, if_pos marked]
  simp [String.toList_append]

theorem unwindFollows_iff : UnwindFollows element? path ↔ IsFieldName path := by
  constructor
  · intro follows
    by_contra noName
    have named := Document.unwindField_reference path
    obtain ⟨unwound, unwinds, placed⟩ := follows _ named (.flat path (.list []))
    rw [Document.unwind_single named, Members.get?_flat] at unwinds
    cases unwinds
    split at placed
    · rename_i items located
      obtain rfl : items = [] := List.map_eq_nil_iff.mp placed.symm
      exact Members.located_flat_ne element? noName (.list []) located
    · cases placed
  · intro isName specification named document
    refine ⟨_, Document.unwind_single named document, ?_⟩
    rw [Members.located_of_isFieldName element? isName]
    cases document.get? path with
    | none => rfl
    | some value =>
        cases value with
        | list items =>
            rw [List.map_map]
            refine List.map_congr_left fun item _ => ?_
            exact (Members.located_of_isFieldName element? isName _).trans
              ((Members.get?_set path path item document).trans (if_pos rfl))
        | _ => rfl

/-! ## Projections -/

/-- A projection keeps the value at a flagged path where it is. -/
def ProjectionKeeps (project : Value → Value → Except Fault Members) (path : String) : Prop :=
  ∀ (document projection : Members) (flag : Value), projection.TextKeyed →
    (.text path, flag) ∈ projection → flag.isTruthy = true →
      ∃ kept, project (.object document) (.object projection) = .ok kept ∧
        kept.located element? path = document.located element? path

/-- A projection without a set flag leaves no value at a named path. -/
def ProjectionDrops (path : String) : Prop :=
  ∀ (document projection : Members) (flag : Value), projection.TextKeyed →
    (.text path, flag) ∈ projection → (∀ entry ∈ projection, entry.2.isTruthy = false) →
      ∃ kept, Document.project (.object document) (.object projection) = .ok kept ∧
        kept.located element? path = none

theorem Document.field?_text (document : Members) (content : String) :
    field? (.object document) (.text content) = .ok (document.get? content) := by
  change (if document.contains content then
      (((document.get? content).elim (.error .missingEntry) .ok : Except Fault Value).map some)
    else pure none) = _
  unfold Members.contains
  cases document.get? content <;> rfl

theorem Document.keepFlagged_cons {document flags rest : Members} (content : String) (flag : Value)
    (keeps : keepFlagged (.object document) flags = .ok rest) :
    keepFlagged (.object document) ((.text content, flag) :: flags) =
      .ok (match flag.isTruthy, document.get? content with
        | true, some value => (.text content, value) :: rest
        | _, _ => rest) := by
  unfold keepFlagged
  rw [field?_text, keeps]
  cases flag.isTruthy <;> cases document.get? content <;> rfl

/-- A set flag at a path. -/
def Flagged (path : String) (flags : Members) : Prop :=
  ∃ flag, (.text path, flag) ∈ flags ∧ flag.isTruthy = true

theorem flagged_cons {path content : String} {flag : Value} {flags : Members} :
    Flagged path ((.text content, flag) :: flags) ↔
      content = path ∧ flag.isTruthy = true ∨ Flagged path flags := by
  simp only [Flagged, List.mem_cons, Prod.mk.injEq, Key.text.injEq]
  grind

/-- The fields that are flagged are kept, and no others. -/
theorem Document.keepFlagged_returns (document : Members) {flags : Members}
    (texts : ∀ key ∈ flags.keys, ∃ content, key = .text content) :
    ∃ kept, keepFlagged (.object document) flags = .ok kept ∧
      ∀ path : String,
        (Flagged path flags → kept.get? path = document.get? path) ∧
          (¬Flagged path flags → kept.get? path = none) := by
  induction flags with
  | nil => exact ⟨[], rfl, fun path => ⟨by simp [Flagged], fun _ => rfl⟩⟩
  | cons entry flags ih =>
      obtain ⟨key, flag⟩ := entry
      obtain ⟨content, rfl⟩ := texts key List.mem_cons_self
      obtain ⟨rest, keeps, isKept⟩ := ih fun key member => texts key (List.mem_cons_of_mem _ member)
      refine ⟨_, keepFlagged_cons content flag keeps, fun path => ?_⟩
      obtain ⟨kept, dropped⟩ := isKept path
      rw [flagged_cons]
      cases flag.isTruthy with
      | false => simpa using isKept path
      | true =>
          -- a flagged field that the document does not have is missing either way
          cases found : document.get? content with
          | none => grind
          | some value =>
              dsimp only
              rw [Members.get?_cons_text]
              grind

/-- A projection keeps what is flagged if a flag is set, and drops what is named if not. -/
theorem Document.project_object {document projection : Members} (named : projection ≠ []) :
    project (.object document) (.object projection) =
      if projection.any fun flag => flag.2.isTruthy then
        keepFlagged (.object document) projection
      else .ok (document.filter fun member => !(projection.contains member.1)) := by
  cases projection with
  | nil => exact absurd rfl named
  | cons first rest => rfl

theorem Document.project_of_flagged {document projection : Members}
    (flagged : ∃ entry ∈ projection, entry.2.isTruthy = true) :
    project (.object document) (.object projection) =
      keepFlagged (.object document) projection := by
  obtain ⟨entry, member, truthy⟩ := flagged
  rw [project_object (List.ne_nil_of_mem member),
    if_pos (List.any_eq_true.mpr ⟨entry, member, truthy⟩)]

theorem Document.project_of_unflagged {document projection : Members} (named : projection ≠ [])
    (unflagged : ∀ entry ∈ projection, entry.2.isTruthy = false) :
    project (.object document) (.object projection) =
      .ok (document.filter fun member => !(projection.contains member.1)) := by
  rw [project_object named, if_neg (by simpa using unflagged)]

theorem Members.get?_filter_keys (keeps : Key → Bool) (dropped : keeps (.text path) = false)
    (members : Members) : get? path (members.filter fun member => keeps member.1) = none := by
  induction members with
  | nil => rfl
  | cons member members ih =>
      rw [List.filter_cons]
      split
      · rename_i kept
        have other : member.1 ≠ .text path := by
          rintro same
          simp [same, dropped] at kept
        rw [get?, Key.same_text, if_neg (by simpa using other)]
        exact ih
      · exact ih

/-- Dropping a field that a document does not have changes nothing. -/
theorem Members.filter_flat {document : Members} {flag : Value}
    (missing : document.get? path = none) :
    document.filter (fun member => !((flat path flag).contains member.1)) = document := by
  rw [List.filter_eq_self]
  intro member isMember
  have other : member.1 ≠ .text path := by
    intro same
    have named : document.contains path = true :=
      contains_text_iff.mpr (List.mem_map.mpr ⟨member, isMember, same⟩)
    rw [contains, missing] at named
    cases named
  obtain ⟨key, value⟩ := member
  cases key with
  | text content =>
      have distinct : path ≠ content := fun same => other (congrArg Key.text same.symm)
      simp [flat, contains, get?, Key.same, distinct]
  | _ => simp [flat, contains, get?, Key.same, Key.number?]

theorem projectionKeeps_iff {project : Value → Value → Except Fault Members}
    (keeps : ∀ document projection : Members, (∃ entry ∈ projection, entry.2.isTruthy = true) →
      project (.object document) (.object projection) =
        Document.keepFlagged (.object document) projection) :
    ProjectionKeeps element? project path ↔ IsFieldName path := by
  constructor
  · intro follows
    by_contra noName
    have flagged : (.text path, .bool true) ∈ Members.flat path (.bool true) :=
      List.mem_singleton_self _
    obtain ⟨kept, projects, same⟩ := follows (.nested path) (.flat path (.bool true)) (.bool true)
      (Members.textKeyed_single rfl) flagged rfl
    rw [keeps _ _ ⟨_, flagged, rfl⟩, Members.flat, Document.keepFlagged_cons path _ rfl,
      Members.get?_nested noName] at projects
    cases projects
    exact Members.located_nil_ne element? path same
  · intro isName document projection flag keyed member truthy
    obtain ⟨kept, projects, isKept⟩ := Document.keepFlagged_returns document keyed.texts
    refine ⟨kept, by rw [keeps _ _ ⟨_, member, truthy⟩, projects], ?_⟩
    rw [Members.located_of_isFieldName element? isName,
      Members.located_of_isFieldName element? isName]
    exact (isKept path).1 ⟨flag, member, truthy⟩

theorem projectionDrops_iff : ProjectionDrops element? path ↔ IsFieldName path := by
  constructor
  · intro follows
    by_contra noName
    have named : (.text path, .bool false) ∈ Members.flat path (.bool false) :=
      List.mem_singleton_self _
    have unflagged : ∀ entry ∈ Members.flat path (.bool false), entry.2.isTruthy = false :=
      List.forall_mem_singleton.mpr rfl
    obtain ⟨kept, projects, isNone⟩ := follows (.nested path) (.flat path (.bool false))
      (.bool false) (Members.textKeyed_single rfl) named unflagged
    rw [Document.project_of_unflagged (List.ne_nil_of_mem named) unflagged,
      Members.filter_flat (Members.get?_nested noName)] at projects
    cases projects
    obtain ⟨value, located, _⟩ := Members.located_nested element? path
    cases located.symm.trans isNone
  · intro isName document projection flag keyed member unflagged
    refine ⟨_, Document.project_of_unflagged (List.ne_nil_of_mem member) unflagged, ?_⟩
    rw [Members.located_of_isFieldName element? isName]
    have named : projection.contains path = true :=
      Members.contains_text_iff.mpr (List.mem_map_of_mem member)
    exact Members.get?_filter_keys (fun key => !(projection.contains key)) (by simp [named])
      document

/-! ## Seeds -/

/-- What the seed of an upsert takes from a filter for a path stands at the nested
location. -/
def SeedFollows (path : String) : Prop :=
  ∀ entries : Members, entries.TextKeyed →
    ∃ seed, Document.equalityFields (.object entries) = .ok seed ∧
      ∀ value, (.text path, value) ∈ seed → seed.located element? path = some value

/-- A field with a text is taken unless it has a dollar sign or is named like a
combinator. -/
theorem Document.isSeeded_text (unmarked : hasDollar path = false) (noName : ¬IsFieldName path)
    (content : String) : isSeeded (.text path, .text content) = true := by
  have uncombined : Combinator.ofKey? path = none := by
    cases named : Combinator.ofKey? path with
    | none => rfl
    | some combinator => exact absurd (isFieldName_of_combinator named) noName
  simp [isSeeded, Key.shown, unmarked, uncombined, holdsOperator]

theorem seedFollows_iff :
    SeedFollows element? path ↔ IsFieldName path ∨ hasDollar path = true := by
  constructor
  · intro follows
    by_contra neither
    obtain ⟨noName, unmarked⟩ := not_or.mp neither
    have taken := Document.isSeeded_text (Bool.eq_false_iff.mpr unmarked) noName "value"
    have seeded : Document.equalityFields (.object (Members.flat path (.text "value"))) =
        .ok (Members.flat path (.text "value")) := by
      refine (Document.equalityFields_eq (some (Members.flat path (.text "value")))).trans ?_
      simp [Members.flat, taken]
    obtain ⟨seed, isSeed, stands⟩ := follows (.flat path (.text "value"))
      (Members.textKeyed_single rfl)
    cases seeded.symm.trans isSeed
    exact Members.located_flat_ne element? noName _ (stands _ (List.mem_singleton_self _))
  · intro named entries keyed
    refine ⟨_, Document.equalityFields_eq (some entries), fun value member => ?_⟩
    have isSeeded := (List.mem_filter.mp member).2
    rcases named with isName | marked
    · rw [Members.located_of_isFieldName element? isName]
      exact (keyed.sublist List.filter_sublist).get?_of_mem member
    · simp [Document.isSeeded, Key.shown, marked] at isSeeded

/-! ## Paths and names -/

/-- In memory a path leads to the nested location of its segments, in every document,
exactly if it is the name of a field.  So it is for the cursor of a page, and for full pages
of documents with a value there to have a cursor at all; for unwinding; for both ways of a
projection and for the stage that projects; and for the seed of an upsert, which takes no
path with a dollar sign. -/
theorem followed_iff_isFieldName (path : String) :
    (CursorFollows element? path ↔ IsFieldName path) ∧
      (CursorGoesOn element? path ↔ IsFieldName path) ∧
      (UnwindFollows element? path ↔ IsFieldName path) ∧
      (ProjectionKeeps element? Document.project path ↔ IsFieldName path) ∧
      (ProjectionDrops element? path ↔ IsFieldName path) ∧
      (ProjectionKeeps element? Document.projectFields path ↔ IsFieldName path) ∧
      (SeedFollows element? path ↔ IsFieldName path ∨ hasDollar path = true) :=
  ⟨cursorFollows_iff element?, cursorGoesOn_iff element?, unwindFollows_iff element?,
    projectionKeeps_iff element? fun _ _ => Document.project_of_flagged,
    projectionDrops_iff element?, projectionKeeps_iff element? fun _ _ _ => rfl,
    seedFollows_iff element?⟩

/-- A page is full and more documents follow, all of them with a city in their address, but
there is no cursor for the next page. -/
theorem nextCursor_nested :
    let resident (id city : String) : Members :=
      [("id", .text id), ("address", .object [("city", .text city)])]
    let rows := [resident "a" "Oslo", resident "b" "Rome"]
    ∃ page : CursorPage,
      run plain.answers (findPage plainSettings "users" (.object [])
          { cursorField := "address.city", limit := 1 } none) [] (Disk.holding rows) =
        ((.ok page, []), Disk.holding rows) ∧
      page.data.length = 1 ∧ page.hasMore = true ∧ page.nextCursor = .null ∧
      ∀ element?, ∀ document ∈ page.data,
        ∃ city, document.located element? "address.city" = some (.text city) := by
  intro resident rows
  have keyed : ∀ document ∈ rows, document.TextKeyed := by
    rw [List.forall_mem_cons, List.forall_mem_singleton]
    exact ⟨membersHaveTextKeys_iff.mp rfl, membersHaveTextKeys_iff.mp rfl⟩
  let options : CursorOptions := { cursorField := "address.city", limit := 1 }
  have permuted : (plain.beyond (.object []) options rows).Perm rows := plain.arrange_perm _ _
  have writable : isWritableInteger (1 + 1 : Nat) = true := by decide +kernel
  refine ⟨pageOf options _ (plain.beyond (.object []) options rows),
    run_findPage (serves_holding keyed) rfl rfl writable, ?_⟩
  generalize plain.beyond (.object []) options rows = documents at permuted ⊢
  match documents, permuted.length_eq with
  | [first, second], _ =>
      have isRow : first ∈ rows := permuted.mem_iff.mp List.mem_cons_self
      obtain ⟨id, city, rfl⟩ : ∃ id city, first = resident id city := by
        rcases List.mem_pair.mp isRow with rfl | rfl
        · exact ⟨_, _, rfl⟩
        · exact ⟨_, _, rfl⟩
      refine ⟨rfl, rfl, rfl, fun element? document member => ⟨city, ?_⟩⟩
      rw [List.mem_singleton.mp member]
      rfl

end DocStore
