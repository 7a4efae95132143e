import DocStore.Proofs.Database
import DocStore.Proofs.PageFilter
import DocStore.Proofs.Selection
import DocStore.Proofs.TextKeys

/-!
# Runs of paged searches

A paged search asks for the documents beyond its boundary, one more than the page
holds, and says whether there was one more.
-/

namespace DocStore

/-! ## Pages as results -/

namespace Checked

variable {α : Type}

@[simp] theorem all_map_accepted (values : List α) :
    Checked.all (values.map .accepted) = .accepted values := by
  induction values with
  | nil => rfl
  | cons value values ih =>
      rw [List.map_cons, Checked.all, ih]
      rfl

end Checked

theorem Table.set_of_fresh {α : Type} {name : String} {table : List (String × α)}
    (fresh : name ∉ table.map Prod.fst) (value : α) :
    Table.set name value table = table ++ [(name, value)] := by
  induction table with
  | nil => rfl
  | cons entry table ih =>
      obtain ⟨known, old⟩ := entry
      simp only [List.map_cons, List.mem_cons, not_or] at fresh
      rw [Table.set, if_neg (Ne.symm fresh.1), ih fresh.2, List.cons_append]

theorem Table.foldl_set {α : Type} {entries table : List (String × α)}
    (distinct : ((table ++ entries).map Prod.fst).Nodup) :
    entries.foldl (fun table entry => Table.set entry.1 entry.2 table) table =
      table ++ entries := by
  induction entries generalizing table with
  | nil => simp
  | cons entry entries ih =>
      have fresh : entry.1 ∉ table.map Prod.fst := by
        rw [List.map_append, List.map_cons] at distinct
        intro known
        exact (List.nodup_append.mp distinct).2.2 _ known _ List.mem_cons_self rfl
      have shifted : table ++ entry :: entries = table ++ [(entry.1, entry.2)] ++ entries := by
        simp
      rw [shifted] at distinct
      rw [List.foldl_cons, Table.set_of_fresh fresh, ih distinct, shifted]

/-- The entries of an object with text keys. -/
theorem Members.TextKeyed.exists_table {members : Members} (keyed : members.TextKeyed) :
    ∃ table : List (String × Value),
      members = table.map (fun entry => (.text entry.1, entry.2)) ∧
        (table.map Prod.fst).Nodup := by
  induction members with
  | nil => exact ⟨[], rfl, List.nodup_nil⟩
  | cons member members ih =>
      obtain ⟨key, value⟩ := member
      obtain ⟨content, rfl⟩ := keyed.texts key List.mem_cons_self
      obtain ⟨table, rfl, distinct⟩ := ih (keyed.sublist (List.sublist_cons_self _ _))
      refine ⟨(content, value) :: table, rfl, List.nodup_cons.mpr ⟨?_, distinct⟩⟩
      intro known
      refine (List.nodup_cons.mp keyed.distinct).1 ?_
      obtain ⟨entry, isEntry, rfl⟩ := List.mem_map.mp known
      simp only [List.map_map]
      exact List.mem_map.mpr ⟨entry, isEntry, rfl⟩

namespace Check

variable (scalars : ScalarReader) (place : Place)

@[simp] theorem integer_int (number : Int) :
    integer scalars place (.int number) = .accepted number := by
  simp [integer, ofReading, scalars.integer_int]

@[simp] theorem truth_bool (flag : Bool) : truth scalars place (.bool flag) = .accepted flag := by
  simp [truth, ofReading, scalars.truth_bool]

@[simp] theorem text_text (content : String) :
    text scalars place (.text content) = .accepted content := by
  simp [text, ofReading, scalars.text_text]

/-- A document with text keys is read as it is. -/
theorem object_textKeyed {members : Members} (keyed : members.TextKeyed) :
    object anything scalars place (.object members) = .accepted members := by
  obtain ⟨table, rfl, distinct⟩ := keyed.exists_table
  have entries : (table.map fun entry => (Key.text entry.1, entry.2)).map
      (entry anything scalars place) = table.map .accepted := by
    rw [List.map_map]
    refine List.map_congr_left fun member _ => ?_
    simp [entry, anything, Key.toValue, Checked.map, Checked.both]
  have folded : table.foldl (fun table entry => Table.set entry.1 entry.2 table) [] = table :=
    Table.foldl_set distinct
  simp only [object, Check.table, entries, Checked.all_map_accepted, Checked.map, folded]

theorem list_of_accepted {α : Type} {check : Check α} {values : List α} {shown : α → Value}
    (each : ∀ value ∈ values, ∀ position, check scalars position (shown value) = .accepted value) :
    list check scalars place (.list (values.map shown)) = .accepted values := by
  have outcomes : (values.map shown).mapIdx
      (fun position item => check scalars (place ++ [.index position]) item) =
        values.map .accepted := by
    apply List.ext_getElem
    · simp
    · intro position _ _
      simp [each]
  rw [list, outcomes, Checked.all_map_accepted]

end Check

theorem CursorPage.make_returns (scalars : ScalarReader) {documents : List Members}
    (keyed : ∀ document ∈ documents, document.TextKeyed) (cursor : Value) (more : Bool)
    (total : Option Int) :
    CursorPage.make scalars documents cursor more total =
      .ok { data := documents, nextCursor := cursor, hasMore := more, totalCount := total } := by
  have data : Check.list (Check.object .anything) scalars ([] ++ [.key "data"])
      (.list (documents.map .object)) = .accepted documents :=
    Check.list_of_accepted _ _ fun document member position =>
      Check.object_textKeyed scalars position (keyed document member)
  have count : Check.nullable Check.integer scalars ([] ++ [.key "total_count"])
      (.optional .int total) = .accepted total := by
    cases total with
    | none => rfl
    | some number => simp [Check.nullable, Value.optional, Checked.map]
  have flag : Check.truth scalars ([] ++ [.key "has_more"]) (.bool more) = .accepted more :=
    Check.truth_bool scalars _ more
  have checked : CursorPage.check scalars []
      (.object
        [ ("data", .list (documents.map .object)), ("next_cursor", cursor),
          ("has_more", .bool more), ("total_count", .optional .int total) ]) =
        Checked.both (Checked.both (Checked.both (Checked.map CursorPage.mk
          (Check.list (Check.object .anything) scalars ([] ++ [.key "data"])
            (.list (documents.map .object)))) (.accepted cursor))
          (Check.truth scalars ([] ++ [.key "has_more"]) (.bool more)))
          (Check.nullable Check.integer scalars ([] ++ [.key "total_count"])
            (.optional .int total)) := rfl
  rw [CursorPage.make, checked, data, flag, count]
  rfl

namespace Database

open ClientAction Client

variable {database : Database} {settings : ClientSettings} {collection : String}
  {session : Option SessionId} {schemas : SchemaCatalog} {disk : Disk} {rows : List Members}

/-- A table whose rows show documents with text keys. -/
structure Serves (database : Database) (disk : Disk) (collection : String)
    (rows : List Members) : Prop where
  stored : disk.tables collection = some rows
  shown : database.Shows rows
  keyed : ∀ document ∈ rows, document.TextKeyed

section

variable {filter : Value} {options : CursorOptions}

/-- The documents beyond the boundary of a page. -/
def beyond (database : Database) (filter : Value) (options : CursorOptions)
    (rows : List Members) : List Members :=
  database.matched (pageFilter filter options) (some (pageSort options)) rows

/-- The page that the documents beyond a boundary begin with. -/
def pageOf (options : CursorOptions) (total : Nat) (documents : List Members) : CursorPage where
  data := documents.take options.limit
  nextCursor := Client.nextCursor options (documents.take options.limit)
  hasMore := options.limit < documents.length
  totalCount := if options.count then some total else none

theorem run_findPage (serves : database.Serves disk collection rows)
    (compiles : (Filter.trail settings.strict filter).failure = none)
    (pageCompiles : (Filter.trail settings.strict (pageFilter filter options)).failure = none)
    (writable : isWritableInteger (options.limit + 1 : Nat) = true) :
    run database.answers (findPage settings collection filter options session) schemas disk =
      ((.ok (pageOf options (rows.countP (database.accepts filter))
        (database.beyond filter options rows)), schemas), disk) := by
  obtain ⟨_, selected⟩ := Query.select_returns collection (some (pageSort options))
    (Filter.compile_returns_iff.mpr ⟨pageCompiles, rfl, rfl⟩) writable
  obtain ⟨_, counted⟩ := Query.count_returns collection
    (Filter.compile_returns_iff.mpr ⟨compiles, rfl, rfl⟩)
  have found : run database.answers (find settings collection (pageFilter filter options)
      { sort := some (pageSort options), limit := some (options.limit + 1) } session) schemas
        disk = ((.ok ((database.beyond filter options rows).take (options.limit + 1)), schemas),
          disk) := run_find serves.stored serves.shown rfl selected
  have page : ((database.beyond filter options rows).take (options.limit + 1)).take
      options.limit = (database.beyond filter options rows).take options.limit := by
    rw [List.take_take, Nat.min_eq_left (Nat.le_succ _)]
  have more : decide (options.limit <
      ((database.beyond filter options rows).take (options.limit + 1)).length) =
        decide (options.limit < (database.beyond filter options rows).length) := by
    rw [List.length_take, decide_eq_decide]
    omega
  have keyed : ∀ document ∈ (database.beyond filter options rows).take options.limit,
      document.TextKeyed := by
    intro document member
    exact serves.keyed document (database.mem_matched.mp (List.mem_of_mem_take member)).1
  have made := CursorPage.make_returns settings.scalars keyed
  rw [findPage, run_bind, found]
  dsimp only
  rw [page, more]
  cases counting : options.count with
  | false =>
      simp only [made, pageOf, counting]
      rfl
  | true =>
      simp only [if_true, run_bind, run_countDocuments serves.stored counted, run_pure,
        run_ofReport, made, pageOf, counting]
      rfl

end

end Database

end DocStore
