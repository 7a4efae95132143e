import DocStore.Proofs.Pagination

/-!
# All pages, and the page behind a boundary

With values of one kind, the pages of a search hold every matching document once.
With texts and numbers mixed, a boundary hides the documents of the other kind
behind it, and the page there can be empty.
-/

namespace DocStore

namespace Database

open ClientAction Client

variable {database : Database} {less : Value → Value → Prop} {settings : ClientSettings}
  {collection : String} {filter : Value} {options : CursorOptions} {disk : Disk}
  {rows : List Members}

/-! ## All pages -/

/-- Searching from cursor to cursor visits all matching documents once and in order, if
they have different values of one kind. -/
theorem all_pages_cover (session : Option SessionId) (schemas : SchemaCatalog)
    (serves : database.Serves disk collection rows)
    (pages : database.Pages less filter options rows)
    (alike : ∀ first ∈ rows.filter (database.accepts filter),
      ∀ second ∈ rows.filter (database.accepts filter),
        (first.getD options.cursorField).sameKind (second.getD options.cursorField) = true)
    (compiles : (Filter.trail settings.strict filter).failure = none)
    (positive : 1 ≤ options.limit)
    (writable : isWritableInteger (options.limit + 1 : Nat) = true) :
    ∃ documents visited,
      documents.Perm (rows.filter (database.accepts filter)) ∧
        documents.Pairwise (fun first later =>
          Ahead less options.reverse (first.getD options.cursorField)
            (later.getD options.cursorField)) ∧
        Visits (database.FindsPage settings collection filter options session schemas disk) .null
          visited ∧
        Covers options.limit (if options.count then some (documents.length : Int) else none)
          documents visited := by
  have start : database.beyond filter { options with cursorValue := .null } rows =
      database.matched filter (some (pageSort options)) rows := beyond_null rfl
  have permuted : (database.matched filter (some (pageSort options)) rows).Perm
      (rows.filter (database.accepts filter)) := database.arrange_perm _ _
  obtain ⟨visited, visits, covers⟩ := pages.exists_visits session schemas serves alike compiles
    positive writable .null (.inl rfl)
  rw [start, List.countP_eq_length_filter, ← permuted.length_eq] at covers
  exact ⟨_, visited, permuted, pages.pairwise_matched, visits, covers⟩

def Disk.holding (documents : List Members) : Disk where
  tables := fun _ => some documents
  asked := 0
  touched := 0

theorem serves_holding {documents : List Members}
    (keyed : ∀ document ∈ documents, document.TextKeyed) :
    plain.Serves (Disk.holding documents) collection documents where
  stored := rfl
  shown := fun _ _ => rfl
  keyed := keyed

theorem textKeyed_titled (id : String) : Members.TextKeyed (titled id []) :=
  membersHaveTextKeys_iff.mp rfl

theorem serves_titled (collection first second : String) :
    plain.Serves (Disk.holding [titled first [], titled second []]) collection
      [titled first [], titled second []] := by
  refine serves_holding ?_
  rw [List.forall_mem_cons, List.forall_mem_singleton]
  exact ⟨textKeyed_titled first, textKeyed_titled second⟩

theorem distinguished_pair {field : String} {first second : Members}
    (firstKey : (first.getD field).isKey = true) (secondKey : (second.getD field).isKey = true)
    (differ : sameId (first.getD field) (second.getD field) = false) :
    Distinguished field [first, second] where
  keys := by
    rw [List.forall_mem_cons, List.forall_mem_singleton]
    exact ⟨firstKey, secondKey⟩
  distinct := List.pairwise_pair.mpr differ

/-- Two documents with texts as their ids, in the plain database. -/
theorem pages_titled {first second : String} (differ : first ≠ second) {options : CursorOptions}
    (byId : options.cursorField = idField) (unsorted : options.sort = none) :
    plain.Pages (fun left right => place left < place right) (.object []) options
      [titled first [], titled second []] where
  names := by
    rw [byId]
    exact ⟨by decide, by decide⟩
  unsorted := unsorted
  sorts := by
    rw [byId]
    refine sorts_plain fun document member => .inl ?_
    simp only [List.mem_filter, List.mem_cons, List.not_mem_nil, or_false] at member
    rcases member.1 with rfl | rfl
    · exact ⟨first, rfl⟩
    · exact ⟨second, rfl⟩
  distinguished := by
    rw [byId]
    refine distinguished_pair rfl rfl ?_
    change sameId (.text first) (.text second) = false
    simp [sameId, differ]

/-- Two documents on pages of one: the third page is empty. -/
theorem all_pages_cover_titled :
    ∃ documents visited,
      documents.Perm [titled "b" [], titled "a" []] ∧
        Visits (plain.FindsPage plainSettings "users" (.object []) { limit := 1 } none []
          (Disk.holding [titled "b" [], titled "a" []])) .null visited ∧
        Covers 1 none documents visited ∧ visited.length = 3 := by
  have serves := serves_titled "users" "b" "a"
  have alike : ∀ first ∈ [titled "b" [], titled "a" []],
      ∀ second ∈ [titled "b" [], titled "a" []],
        (first.getD idField).sameKind (second.getD idField) = true := by
    decide
  have pages : plain.Pages _ (.object []) { limit := 1 } [titled "b" [], titled "a" []] :=
    pages_titled (by decide) rfl rfl
  have compiles : (Filter.trail plainSettings.strict (.object [])).failure = none := rfl
  have writable : isWritableInteger (1 + 1 : Nat) = true := by decide +kernel
  obtain ⟨documents, visited, permuted, _, visits, covers⟩ :=
    all_pages_cover none [] serves pages alike compiles (Nat.le_refl 1) writable
  refine ⟨documents, visited, permuted, visits, covers, ?_⟩
  rw [covers.length, permuted.length_eq]
  rfl

/-- Two documents with a field `not`. -/
def negated : List Members :=
  [titled "a" [("not", .text "x")], titled "b" [("not", .text "y")]]

/-- In front of a boundary, `not` is the combinator and bounds nothing: although the
database sorts by the field, the same page comes again and again. -/
theorem not_visits_negated :
    plain.Sorts (fun left right => place left < place right) "not" negated ∧
      Distinguished "not" negated ∧
      ¬∃ visited,
        Visits (plain.FindsPage plainSettings "users" (.object [])
          { cursorField := "not", limit := 1 } none [] (Disk.holding negated)) .null visited := by
  have keyed : ∀ document ∈ negated, document.TextKeyed := by
    rw [negated, List.forall_mem_cons, List.forall_mem_singleton]
    exact ⟨membersHaveTextKeys_iff.mp rfl, membersHaveTextKeys_iff.mp rfl⟩
  have serves : plain.Serves (Disk.holding negated) "users" negated := serves_holding keyed
  have writable : isWritableInteger (1 + 1 : Nat) = true := by decide +kernel
  have first : plain.FindsPage plainSettings "users" (.object [])
      { cursorField := "not", limit := 1 } none [] (Disk.holding negated) .null _ :=
    run_findPage serves rfl rfl writable
  have again : plain.FindsPage plainSettings "users" (.object [])
      { cursorField := "not", limit := 1 } none [] (Disk.holding negated) (.text "x") _ :=
    run_findPage serves rfl rfl writable
  have goesOn : ∀ cursor page, (cursor = .null ∨ cursor = .text "x") →
      plain.FindsPage plainSettings "users" (.object []) { cursorField := "not", limit := 1 } none []
          (Disk.holding negated) cursor page →
        page.nextCursor.isNull = false ∧
          (page.nextCursor = .null ∨ page.nextCursor = .text "x") := by
    rintro cursor page (rfl | rfl) found
    · cases first.symm.trans found
      exact ⟨rfl, .inr rfl⟩
    · cases again.symm.trans found
      exact ⟨rfl, .inr rfl⟩
  refine ⟨sorts_plain ?_, distinguished_pair rfl rfl rfl, ?_⟩
  · rw [negated, List.forall_mem_cons, List.forall_mem_singleton]
    exact ⟨.inl ⟨"x", rfl⟩, .inl ⟨"y", rfl⟩⟩
  · rintro ⟨visited, visits⟩
    exact not_visits_of_kept goesOn (.inl rfl) visited visits

/-! ## The page behind a boundary -/

/-- A page with more documents beyond it has a cursor, and the next page holds a document
exactly if one of those left over is of the kind of that cursor. -/
theorem next_page_nonempty_iff (session : Option SessionId) (schemas : SchemaCatalog)
    (serves : database.Serves disk collection rows)
    (pages : database.Pages less filter options rows)
    (compiles : (Filter.trail settings.strict filter).failure = none)
    (positive : 1 ≤ options.limit)
    (writable : isWritableInteger (options.limit + 1 : Nat) = true)
    (boundary : Boundary options.cursorField (rows.filter (database.accepts filter))
      options.cursorValue) :
    ∃ page,
      database.FindsPage settings collection filter options session schemas disk
          options.cursorValue page ∧
        Boundary options.cursorField (rows.filter (database.accepts filter)) page.nextCursor ∧
        (page.hasMore = true →
          page.nextCursor.isNull = false ∧
            ∃ next,
              database.FindsPage settings collection filter options session schemas disk
                  page.nextCursor next ∧
                (next.data ≠ [] ↔
                  ∃ document ∈ (database.beyond filter options rows).drop options.limit,
                    page.nextCursor.sameKind (document.getD options.cursorField) = true)) := by
  have found : database.FindsPage settings collection filter options session schemas disk
      options.cursorValue (pageOf options (rows.countP (database.accepts filter))
        (database.beyond filter options rows)) :=
    run_findPage serves compiles (failure_pageFilter pages.names compiles) writable
  refine ⟨_, found, ?_⟩
  by_cases full : options.limit ≤ (database.beyond filter options rows).length
  · obtain ⟨last, lastMember, isCursor, isNext⟩ := pages.beyond_next boundary positive full
    have cursorIs : (pageOf options (rows.countP (database.accepts filter))
        (database.beyond filter options rows)).nextCursor = last.getD options.cursorField :=
      isCursor
    have next : database.FindsPage settings collection filter options session schemas disk
        (last.getD options.cursorField) _ :=
      run_findPage serves compiles (failure_pageFilter pages.names compiles) writable
    rw [isNext] at next
    simp only [cursorIs]
    refine ⟨.inr ⟨last, lastMember, rfl⟩, fun _ => ?_⟩
    refine ⟨pages.isNull_eq_false lastMember, _, next, ?_⟩
    have someLeft (documents : List Members) : documents.take options.limit ≠ [] ↔
        documents ≠ [] := by
      rw [ne_eq, List.take_eq_nil_iff, not_or, and_iff_right (by omega)]
    refine (someLeft _).trans ?_
    rw [ne_eq, List.filter_eq_nil_iff]
    push Not
    rfl
  · refine ⟨.inl (nextCursor_of_short (Nat.lt_of_not_le full)), fun more => ?_⟩
    simp only [pageOf, decide_eq_true_eq] at more
    omega

/-- Behind a boundary between two texts is a document. -/
theorem next_page_nonempty_titled :
    ∃ page next,
      plain.FindsPage plainSettings "users" (.object []) { limit := 1 } none []
          (Disk.holding [titled "b" [], titled "a" []]) .null page ∧
        page.hasMore = true ∧
        plain.FindsPage plainSettings "users" (.object []) { limit := 1 } none []
          (Disk.holding [titled "b" [], titled "a" []]) page.nextCursor next ∧
        next.data ≠ [] := by
  have serves := serves_titled "users" "b" "a"
  have pages : plain.Pages _ (.object []) { limit := 1 } [titled "b" [], titled "a" []] :=
    pages_titled (by decide) rfl rfl
  have compiles : (Filter.trail plainSettings.strict (.object [])).failure = none := rfl
  have writable : isWritableInteger (1 + 1 : Nat) = true := by decide +kernel
  obtain ⟨page, found, _, goesOn⟩ := next_page_nonempty_iff none [] serves pages compiles
    (Nat.le_refl 1) writable (.inl rfl)
  have first : plain.FindsPage plainSettings "users" (.object []) { limit := 1 } none []
      (Disk.holding [titled "b" [], titled "a" []]) .null _ :=
    run_findPage serves rfl rfl writable
  cases first.symm.trans found
  obtain ⟨_, next, foundNext, nonempty⟩ := goesOn rfl
  refine ⟨_, next, found, rfl, foundNext, nonempty.mpr ?_⟩
  exact ⟨titled "b" [], List.mem_singleton.mpr rfl, rfl⟩

/-- Two documents, one with a text and one with a number as its id. -/
def mixed : List Members := [titled "a" [], [(idField, .int 1)]]

/-- Behind a boundary between a text and a number is nothing, although the page before
says that there is more. -/
theorem next_page_empty_mixed :
    plain.Sorts (fun left right => place left < place right) idField mixed ∧
      Distinguished idField mixed ∧
      ∃ page next,
        plain.FindsPage plainSettings "users" (.object []) { limit := 1 } none []
            (Disk.holding mixed) .null page ∧
          page.hasMore = true ∧ page.nextCursor = .text "a" ∧
          plain.FindsPage plainSettings "users" (.object []) { limit := 1 } none []
            (Disk.holding mixed) page.nextCursor next ∧
          next.data = [] := by
  have keyed : ∀ document ∈ mixed, document.TextKeyed := by
    rw [mixed, List.forall_mem_cons, List.forall_mem_singleton]
    exact ⟨textKeyed_titled "a", membersHaveTextKeys_iff.mp rfl⟩
  have serves : plain.Serves (Disk.holding mixed) "users" mixed := serves_holding keyed
  have writable : isWritableInteger (1 + 1 : Nat) = true := by decide +kernel
  have first : plain.FindsPage plainSettings "users" (.object []) { limit := 1 } none []
      (Disk.holding mixed) .null _ := run_findPage serves rfl rfl writable
  have second : plain.FindsPage plainSettings "users" (.object []) { limit := 1 } none []
      (Disk.holding mixed) (.text "a") _ := run_findPage serves rfl rfl writable
  refine ⟨sorts_plain ?_, distinguished_pair rfl rfl rfl, _, _, first, rfl, rfl, second, rfl⟩
  rw [mixed, List.forall_mem_cons, List.forall_mem_singleton]
  exact ⟨.inl ⟨"a", rfl⟩, .inr ⟨1, rfl⟩⟩

end Database

end DocStore
