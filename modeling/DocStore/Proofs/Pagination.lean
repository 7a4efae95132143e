import DocStore.Proofs.PageRun
import DocStore.Proofs.UpdateMany

/-!
# Paging through a table

Pages are cut out of one order of all matching documents.  The next page starts
behind the last document of a full page, with the documents whose values are of
the same kind as the boundary.
-/

namespace DocStore

theorem Value.sameKind_iff {left right : Value} :
    left.sameKind right = true ↔
      (∃ first second, left = .text first ∧ right = .text second) ∨
        (left.isNumber = true ∧ right.isNumber = true) := by
  cases left <;> cases right <;> simp [sameKind, isNumber]

theorem Value.sameKind_trans {first second third : Value}
    (left : first.sameKind second = true) (right : second.sameKind third = true) :
    first.sameKind third = true := by
  rw [sameKind_iff] at left right ⊢
  rcases left with ⟨one, two, rfl, rfl⟩ | ⟨isFirst, isSecond⟩
  · rcases right with ⟨_, three, _, rfl⟩ | ⟨isText, _⟩
    · exact .inl ⟨one, three, rfl, rfl⟩
    · cases isText
  · rcases right with ⟨_, _, rfl, _⟩ | ⟨_, isThird⟩
    · cases isSecond
    · exact .inr ⟨isFirst, isThird⟩

namespace Database

open ClientAction Client

variable {database : Database} {less : Value → Value → Prop} {field : String}
  {documents : List Members}

/-! ## The order of all documents -/

/-- The values of a field tell documents apart. -/
structure Distinguished (field : String) (documents : List Members) : Prop where
  keys : ∀ document ∈ documents, (document.getD field).isKey = true
  distinct : documents.Pairwise fun first later =>
    sameId (first.getD field) (later.getD field) = false

theorem Ahead.of_less_or {reverse : Bool} {first second : Value}
    (ordered : less first second ∨ less second first) :
    Ahead less reverse first second ∨ Ahead less reverse second first := by
  cases reverse with
  | false => exact ordered
  | true => exact ordered.symm

/-- Documents with distinct values are found one ahead of the other. -/
theorem Sorts.pairwise_ahead (sorts : database.Sorts less field documents)
    (reverse : Bool) {found : List Members} (sub : found ⊆ documents)
    (distinct : found.Pairwise fun first later =>
      sameId (first.getD field) (later.getD field) = false) :
    (database.arrange (some [(field, pageDirection reverse)]) found).Pairwise
      fun first later => Ahead less reverse (first.getD field) (later.getD field) := by
  have permuted := database.arrange_perm (some [(field, pageDirection reverse)]) found
  have apart : (database.arrange (some [(field, pageDirection reverse)]) found).Pairwise
      fun first later => sameId (first.getD field) (later.getD field) = false :=
    (permuted.pairwise_iff fun differ => by rwa [sameId_comm]).mpr distinct
  refine ((sorts.arranged reverse found sub).and apart).imp_of_mem ?_
  intro first later isFirst isLater ⟨notAhead, differ⟩
  have ordered := sorts.total first (sub (permuted.mem_iff.mp isFirst)) later
    (sub (permuted.mem_iff.mp isLater)) differ
  exact (Ahead.of_less_or ordered).resolve_right notAhead

/-! ## Beyond a boundary -/

section Beyond

variable {filter : Value} {options : CursorOptions} {rows : List Members}

/-- Whether a page without an order of its own is cut on a field that tells the matching
documents apart. -/
structure Pages (database : Database) (less : Value → Value → Prop) (filter : Value)
    (options : CursorOptions) (rows : List Members) : Prop where
  names : Filter.NamesField options.cursorField
  unsorted : options.sort = none
  sorts : database.Sorts less options.cursorField (rows.filter (database.accepts filter))
  distinguished : Distinguished options.cursorField (rows.filter (database.accepts filter))

/-- A document compares with a boundary as one of the next page does. -/
def passes (database : Database) (options : CursorOptions) (bound : Value) (document : Members) :
    Bool :=
  (database.fields document).satisfies options.cursorField
    (.ordered (boundComparison options.reverse)) bound

theorem pageSort_unsorted (unsorted : options.sort = none) :
    pageSort options = [(options.cursorField, pageDirection options.reverse)] := by
  rw [pageSort, unsorted]
  rfl

theorem beyond_null (isNull : options.cursorValue = .null) :
    database.beyond filter options rows =
      database.matched filter (some (pageSort options)) rows := by
  rw [beyond, pageFilter, isNull]
  rfl

theorem Pages.pairwise_matched (pages : database.Pages less filter options rows) :
    (database.matched filter (some (pageSort options)) rows).Pairwise fun first later =>
      Ahead less options.reverse (first.getD options.cursorField)
        (later.getD options.cursorField) := by
  rw [pageSort_unsorted pages.unsorted]
  exact pages.sorts.pairwise_ahead options.reverse (fun _ member => member)
    pages.distinguished.distinct

/-- Beyond a boundary are the matching documents that compare with it. -/
theorem Pages.beyond_eq_filter (pages : database.Pages less filter options rows)
    (bounded : options.cursorValue.isNull = false) :
    database.beyond filter options rows =
      (database.matched filter (some (pageSort options)) rows).filter
        (database.passes options options.cursorValue) := by
  have selected : rows.filter (database.accepts (pageFilter filter options)) =
      (rows.filter (database.accepts filter)).filter
        (database.passes options options.cursorValue) := by
    rw [List.filter_filter]
    refine List.filter_congr fun document _ => ?_
    rw [accepts, accepts_pageFilter _ pages.names bounded, Bool.and_comm]
    rfl
  have arranged : (database.beyond filter options rows).Pairwise fun first later =>
      Ahead less options.reverse (first.getD options.cursorField)
        (later.getD options.cursorField) := by
    rw [beyond, matched, selected, pageSort_unsorted pages.unsorted]
    exact pages.sorts.pairwise_ahead options.reverse (List.filter_subset_self _)
      (pages.distinguished.distinct.filter _)
  have permuted : (database.beyond filter options rows).Perm
      ((database.matched filter (some (pageSort options)) rows).filter
        (database.passes options options.cursorValue)) := by
    rw [beyond, matched, selected]
    exact (database.arrange_perm _ _).trans ((database.arrange_perm _ _).symm.filter _)
  have strict := pages.sorts.strict
  refine List.Perm.eq_of_pairwise ?_ arranged (pages.pairwise_matched.filter _) permuted
  intro first later _ _ ahead behind
  exact absurd behind ahead.asymm

/-- Of documents in order, those behind one of them compare with it, if they are of its
kind. -/
theorem Pages.filter_passes (pages : database.Pages less filter options rows)
    {front behind : List Members} {last : Members}
    (members : ∀ document ∈ front ++ last :: behind,
      document ∈ rows.filter (database.accepts filter))
    (ordered : (front ++ last :: behind).Pairwise fun first later =>
      Ahead less options.reverse (first.getD options.cursorField)
        (later.getD options.cursorField)) :
    (front ++ last :: behind).filter
        (database.passes options (last.getD options.cursorField)) =
      behind.filter fun document =>
        (last.getD options.cursorField).sameKind (document.getD options.cursorField) := by
  have strict := pages.sorts.strict
  have lastMember := members last (by simp)
  have compared (document : Members) (member : document ∈ front ++ last :: behind) :=
    pages.sorts.compared options.reverse last lastMember document (members document member)
  obtain ⟨_, lastOrdered, frontAhead⟩ := List.pairwise_append.mp ordered
  obtain ⟨lastAhead, _⟩ := List.pairwise_cons.mp lastOrdered
  have frontFails : front.filter (database.passes options (last.getD options.cursorField)) =
      [] := by
    rw [List.filter_eq_nil_iff]
    intro document member passing
    have ahead := frontAhead document member last List.mem_cons_self
    exact ahead.asymm ((compared document (by simp [member])).mp passing).2
  have lastFails : database.passes options (last.getD options.cursorField) last = false := by
    rw [← Bool.not_eq_true]
    intro passing
    have ahead := ((compared last (by simp)).mp passing).2
    exact ahead.asymm ahead
  rw [List.filter_append, frontFails, List.nil_append,
    List.filter_cons_of_neg (by simp [lastFails])]
  refine List.filter_congr fun document member => ?_
  rw [Bool.eq_iff_iff]
  refine (compared document (by simp [member])).trans ?_
  exact and_iff_left (lastAhead document member)

/-- A boundary between pages: none, or the value of a document that matches. -/
def Boundary (field : String) (documents : List Members) (bound : Value) : Prop :=
  bound = .null ∨ ∃ document ∈ documents, document.getD field = bound

theorem Pages.isNull_eq_false (pages : database.Pages less filter options rows)
    {document : Members} (member : document ∈ rows.filter (database.accepts filter)) :
    (document.getD options.cursorField).isNull = false :=
  isNull_of_isKey (pages.distinguished.keys document member)

section Next

variable (pages : database.Pages less filter options rows)
  (boundary : Boundary options.cursorField (rows.filter (database.accepts filter))
    options.cursorValue)

include pages boundary

theorem Pages.beyond_cases :
    database.beyond filter options rows =
        database.matched filter (some (pageSort options)) rows ∨
      ∃ bound ∈ rows.filter (database.accepts filter),
        database.beyond filter options rows =
          (database.matched filter (some (pageSort options)) rows).filter
            (database.passes options (bound.getD options.cursorField)) := by
  rcases boundary with isNull | ⟨bound, member, isBound⟩
  · exact .inl (beyond_null isNull)
  · right
    refine ⟨bound, member, ?_⟩
    rw [isBound]
    exact pages.beyond_eq_filter (by rw [← isBound]; exact pages.isNull_eq_false member)

theorem Pages.sublist_beyond :
    (database.beyond filter options rows).Sublist
      (database.matched filter (some (pageSort options)) rows) := by
  rcases pages.beyond_cases boundary with all | ⟨_, _, filtered⟩
  · rw [all]
  · rw [filtered]
    exact List.filter_sublist

theorem Pages.mem_of_mem_beyond {document : Members}
    (member : document ∈ database.beyond filter options rows) :
    document ∈ rows.filter (database.accepts filter) := by
  rw [List.mem_filter]
  exact database.mem_matched.mp ((pages.sublist_beyond boundary).subset member)

/-- What compares with a document of a page compares with the boundary before it. -/
theorem Pages.filter_beyond {last : Members}
    (member : last ∈ database.beyond filter options rows) :
    (database.beyond filter options rows).filter
        (database.passes options (last.getD options.cursorField)) =
      (database.matched filter (some (pageSort options)) rows).filter
        (database.passes options (last.getD options.cursorField)) := by
  have strict := pages.sorts.strict
  have lastMember := pages.mem_of_mem_beyond boundary member
  rcases pages.beyond_cases boundary with all | ⟨bound, boundMember, filtered⟩
  · rw [all]
  · rw [filtered, List.filter_filter]
    rw [filtered, List.mem_filter] at member
    obtain ⟨sameAsBound, aheadOfLast⟩ :=
      (pages.sorts.compared options.reverse bound boundMember last lastMember).mp member.2
    refine List.filter_congr fun document isMatch => ?_
    have isRow : document ∈ rows.filter (database.accepts filter) := by
      rw [List.mem_filter]
      exact database.mem_matched.mp isMatch
    rw [Bool.eq_iff_iff, Bool.and_eq_true]
    refine and_iff_left_of_imp fun passing => ?_
    obtain ⟨sameAsLast, ahead⟩ :=
      (pages.sorts.compared options.reverse last lastMember document isRow).mp passing
    refine (pages.sorts.compared options.reverse bound boundMember document isRow).mpr ?_
    exact ⟨Value.sameKind_trans sameAsBound sameAsLast, aheadOfLast.trans ahead⟩

/-- The documents of the next page are those left over by this one, of the kind of
the boundary. -/
theorem Pages.beyond_next (positive : 1 ≤ options.limit)
    (full : options.limit ≤ (database.beyond filter options rows).length) :
    ∃ last ∈ rows.filter (database.accepts filter),
      Client.nextCursor options ((database.beyond filter options rows).take options.limit) =
          last.getD options.cursorField ∧
        database.beyond filter { options with cursorValue := last.getD options.cursorField }
            rows =
          ((database.beyond filter options rows).drop options.limit).filter fun document =>
            (last.getD options.cursorField).sameKind (document.getD options.cursorField) := by
  have pageLength :
      ((database.beyond filter options rows).take options.limit).length = options.limit := by
    rw [List.length_take, Nat.min_eq_left full]
  obtain ⟨front, last, isPage⟩ : ∃ front last,
      (database.beyond filter options rows).take options.limit = front ++ [last] := by
    rcases List.eq_nil_or_concat ((database.beyond filter options rows).take options.limit) with
      isEmpty | ⟨front, last, isPage⟩
    · rw [isEmpty, List.length_nil] at pageLength
      omega
    · exact ⟨front, last, by rw [isPage, List.concat_eq_append]⟩
  have whole : database.beyond filter options rows =
      front ++ last :: (database.beyond filter options rows).drop options.limit := by
    calc database.beyond filter options rows
        = (database.beyond filter options rows).take options.limit ++
            (database.beyond filter options rows).drop options.limit :=
          (List.take_append_drop _ _).symm
      _ = _ := by rw [isPage, List.append_assoc, List.singleton_append]
  have lastBeyond : last ∈ database.beyond filter options rows := by
    rw [whole]
    simp
  have lastMember := pages.mem_of_mem_beyond boundary lastBeyond
  have nextPages : database.Pages less filter
      { options with cursorValue := last.getD options.cursorField } rows :=
    ⟨pages.names, pages.unsorted, pages.sorts, pages.distinguished⟩
  refine ⟨last, lastMember, ?_, ?_⟩
  · rw [Client.nextCursor, if_pos pageLength, isPage]
    simp
  · have next := nextPages.beyond_eq_filter (pages.isNull_eq_false lastMember)
    refine next.trans ((pages.filter_beyond boundary lastBeyond).symm.trans ?_)
    have members : ∀ document ∈ database.beyond filter options rows,
        document ∈ rows.filter (database.accepts filter) :=
      fun document => pages.mem_of_mem_beyond boundary
    have ordered := pages.pairwise_matched.sublist (pages.sublist_beyond boundary)
    rw [whole] at members ordered
    rw [congrArg (List.filter _) whole]
    exact pages.filter_passes members ordered

end Next

end Beyond

/-! ## Page after page -/

/-- Pages from a cursor on, each from the cursor of the page before, until there is no
cursor. -/
inductive Visits (finds : Value → CursorPage → Prop) : Value → List CursorPage → Prop
  | last {cursor : Value} {page : CursorPage} :
      finds cursor page → page.nextCursor.isNull = true → Visits finds cursor [page]
  | next {cursor : Value} {page : CursorPage} {pages : List CursorPage} :
      finds cursor page → page.nextCursor.isNull = false → Visits finds page.nextCursor pages →
        Visits finds cursor (page :: pages)

/-- Where every page leads on to another one, there is no end. -/
theorem not_visits_of_kept {finds : Value → CursorPage → Prop} {kept : Value → Prop}
    (goesOn : ∀ cursor page, kept cursor → finds cursor page →
      page.nextCursor.isNull = false ∧ kept page.nextCursor) {cursor : Value}
    (isKept : kept cursor) (visited : List CursorPage) : ¬Visits finds cursor visited := by
  intro visits
  induction visits with
  | last found isNull =>
      rw [(goesOn _ _ isKept found).1] at isNull
      cases isNull
  | next found _ _ ih => exact ih (goesOn _ _ isKept found).2

/-- Pages that hold documents in their order and say rightly how many there are. -/
structure Covers (limit : Nat) (total : Option Int) (documents : List Members)
    (visited : List CursorPage) : Prop where
  data : visited.flatMap (·.data) = documents
  length : visited.length = documents.length / limit + 1
  hasMore : ∀ index page, visited[index]? = some page →
    page.hasMore = decide ((index + 1) * limit < documents.length)
  totalCount : ∀ page ∈ visited, page.totalCount = total

/-- A page that is not full has no cursor. -/
theorem nextCursor_of_short {options : CursorOptions}
    (short : documents.length < options.limit) :
    Client.nextCursor options (documents.take options.limit) = .null := by
  have partly : (documents.take options.limit).length ≠ options.limit := by
    rw [List.length_take]
    omega
  rw [Client.nextCursor, if_neg partly]

section Covers

variable {options : CursorOptions} {total : Nat} {visited : List CursorPage}

theorem covers_last (short : documents.length < options.limit) :
    Covers options.limit (if options.count then some (total : Int) else none) documents
      [pageOf options total documents] where
  data := by simp [pageOf, List.take_of_length_le (Nat.le_of_lt short)]
  length := by simp [Nat.div_eq_of_lt short]
  hasMore := by
    intro index page isPage
    obtain ⟨rfl, rfl⟩ : index = 0 ∧ pageOf options total documents = page := by
      simpa [List.getElem?_cons] using isPage
    simp [pageOf]
  totalCount := by
    rw [List.forall_mem_singleton]
    rfl

theorem covers_next (positive : 1 ≤ options.limit) (full : options.limit ≤ documents.length)
    (covers : Covers options.limit (if options.count then some (total : Int) else none)
      (documents.drop options.limit) visited) :
    Covers options.limit (if options.count then some (total : Int) else none) documents
      (pageOf options total documents :: visited) where
  data := by
    rw [List.flatMap_cons, covers.data]
    exact List.take_append_drop _ _
  length := by
    rw [List.length_cons, covers.length, List.length_drop,
      Nat.div_eq_sub_div positive full]
  hasMore := by
    intro index page isPage
    cases index with
    | zero =>
        cases isPage
        simp [pageOf]
    | succ index =>
        have further : (index + 1 + 1) * options.limit =
            (index + 1) * options.limit + options.limit := Nat.succ_mul _ _
        rw [covers.hasMore index page isPage, List.length_drop, decide_eq_decide]
        omega
  totalCount := List.forall_mem_cons.mpr ⟨rfl, covers.totalCount⟩

end Covers

section Search

variable (settings : ClientSettings) (collection : String) (filter : Value)
  (options : CursorOptions) (session : Option SessionId) (schemas : SchemaCatalog) (disk : Disk)

/-- The search for the page behind a cursor comes to a page. -/
def FindsPage (database : Database) (cursor : Value) (page : CursorPage) : Prop :=
  run database.answers
      (findPage settings collection filter { options with cursorValue := cursor } session)
      schemas disk = ((.ok page, schemas), disk)

variable {settings collection filter options disk} {rows : List Members}

/-- Paging from a boundary on covers the documents beyond it. -/
theorem Pages.exists_visits (pages : database.Pages less filter options rows)
    (serves : database.Serves disk collection rows)
    (alike : ∀ first ∈ rows.filter (database.accepts filter),
      ∀ second ∈ rows.filter (database.accepts filter),
        (first.getD options.cursorField).sameKind (second.getD options.cursorField) = true)
    (compiles : (Filter.trail settings.strict filter).failure = none)
    (positive : 1 ≤ options.limit)
    (writable : isWritableInteger (options.limit + 1 : Nat) = true) (cursor : Value)
    (boundary : Boundary options.cursorField (rows.filter (database.accepts filter)) cursor) :
    ∃ visited,
      Visits (database.FindsPage settings collection filter options session schemas disk) cursor
          visited ∧
        Covers options.limit
          (if options.count then some (rows.countP (database.accepts filter) : Int) else none)
          (database.beyond filter { options with cursorValue := cursor } rows) visited := by
  induction size : (database.beyond filter { options with cursorValue := cursor } rows).length
    using Nat.strong_induction_on generalizing cursor with
  | _ size ih =>
      subst size
      have here : database.Pages less filter { options with cursorValue := cursor } rows :=
        ⟨pages.names, pages.unsorted, pages.sorts, pages.distinguished⟩
      have found : database.FindsPage settings collection filter options session schemas disk
          cursor _ :=
        run_findPage serves compiles (failure_pageFilter pages.names compiles) writable
      by_cases full : options.limit ≤
          (database.beyond filter { options with cursorValue := cursor } rows).length
      · obtain ⟨last, lastMember, isCursor, isNext⟩ := here.beyond_next boundary positive full
        have isRest : database.beyond filter
            { options with cursorValue := last.getD options.cursorField } rows =
              (database.beyond filter { options with cursorValue := cursor } rows).drop
                options.limit := by
          refine isNext.trans (List.filter_eq_self.mpr fun document member => ?_)
          exact alike last lastMember document
            (here.mem_of_mem_beyond boundary (List.mem_of_mem_drop member))
        have shorter : (database.beyond filter
            { options with cursorValue := last.getD options.cursorField } rows).length <
              (database.beyond filter { options with cursorValue := cursor } rows).length := by
          rw [isRest, List.length_drop]
          omega
        obtain ⟨visited, visits, covers⟩ :=
          ih _ shorter _ (.inr ⟨last, lastMember, rfl⟩) rfl
        rw [isRest] at covers
        have cursorIs : (pageOf { options with cursorValue := cursor }
            (rows.countP (database.accepts filter))
            (database.beyond filter { options with cursorValue := cursor } rows)).nextCursor =
              last.getD options.cursorField := isCursor
        refine ⟨_ :: visited, .next found ?_ ?_, covers_next positive full covers⟩
        · rw [cursorIs]
          exact pages.isNull_eq_false lastMember
        · rw [cursorIs]
          exact visits
      · have short := Nat.lt_of_not_le full
        refine ⟨_, .last found ?_, covers_last short⟩
        have noCursor : (pageOf { options with cursorValue := cursor }
            (rows.countP (database.accepts filter))
            (database.beyond filter { options with cursorValue := cursor } rows)).nextCursor =
              .null := nextCursor_of_short short
        rw [noCursor]
        rfl

end Search

end Database

end DocStore
