import DocStore.Proofs.Alignment
import DocStore.Proofs.FilterMeaning

/-!
# The restriction of a statement

The `WHERE` clause of a statement as the engine finds it: after the first `WHERE`
outside brackets and quotes.  The statements on single documents are a head, in
which there is no such word whatever the collection is called, and the clause of
the filter on the id.
-/

namespace DocStore

open Sql Sql.Fragment

namespace Statement

variable (statement : Statement)

def trees? : Option (List Tree) :=
  (format statement.sql.toList statement.params).bind (treesOf? statement.dialect)

/-- The trees after `WHERE`, if the statement has it. -/
def whereTrees? : Option (List Tree) :=
  statement.trees?.bind fun trees =>
    match trees.dropWhile fun tree => !tree.isKeyword .restriction with
    | [] => none
    | _ :: clause => some clause

def whereClause? : Option SqlCondition :=
  statement.whereTrees?.bind fun trees => condition? (items trees)

end Statement

namespace Query

variable {dialect : Dialect}

/-- Text without `WHERE` outside brackets and quotes. -/
def IsHead (dialect : Dialect) (head : Fragment) : Prop :=
  ∃ trees, Reads dialect (head.marks dialect) trees ∧
    ∀ tree ∈ trees, tree.isKeyword .restriction = false

theorem trees?_eq {statement : Statement} {trees : List Tree}
    (free : PercentFree statement.body)
    (reads : Reads statement.dialect (statement.body.marks statement.dialect) trees) :
    statement.trees? = some trees := by
  have formatted := format_render statement.dialect free
  simp [Statement.trees?, Statement.sql, Statement.params, formatted, reads.treesOf?_eq]

theorem whereTrees?_head {head : Fragment} (isHead : IsHead dialect head) (headFull : head ≠ [])
    (free : PercentFree head) : (assemble dialect [head, []]).whereTrees? = none := by
  obtain ⟨trees, reads, noWhere⟩ := isHead
  have body : (assemble dialect [head, []]).body = head := by
    simp [assemble, headFull, joined]
  have found : (assemble dialect [head, []]).trees? = some trees :=
    trees?_eq (by rwa [body]) (by rwa [body])
  have dropped : trees.dropWhile (fun tree => !tree.isKeyword .restriction) = [] := by
    have passed : (trees ++ []).dropWhile (fun tree : Tree => !tree.isKeyword .restriction) = [] :=
      List.dropWhile_append_of_pos fun tree member => by simp [noWhere tree member]
    rwa [List.append_nil] at passed
  simp [Statement.whereTrees?, found, dropped]

theorem whereTrees?_clause {head clause : Fragment} {clauseTrees : List Tree}
    (isHead : IsHead dialect head) (headFull : head ≠ []) (headFree : PercentFree head)
    (clauseReads : Reads dialect (clause.marks dialect) clauseTrees)
    (clauseFree : PercentFree clause) :
    (assemble dialect [head, .raw "WHERE " :: clause]).whereTrees? = some clauseTrees := by
  obtain ⟨trees, reads, noWhere⟩ := isHead
  have body : (assemble dialect [head, .raw "WHERE " :: clause]).body =
      head ++ .raw "\n" :: .raw "WHERE " :: clause := by
    simp [assemble, headFull, joined]
  have connects : Connects dialect "\nWHERE ".toList [.token (.keyword .restriction)] :=
    ⟨fun _ => rfl, fun _ _ _ => by cases dialect <;> rfl⟩
  have whole := reads.connected connects clauseReads
  have found : (assemble dialect [head, .raw "WHERE " :: clause]).trees? =
      some (trees ++ [.token (.keyword .restriction)] ++ clauseTrees) := by
    refine trees?_eq ?_ ?_
    · rw [body]
      simp [headFree, clauseFree]
    · rw [body]
      simpa [assemble, Piece.marks, characters] using whole
  have dropped : (trees ++ .token (.keyword .restriction) :: clauseTrees).dropWhile
        (fun tree => !tree.isKeyword .restriction) =
      .token (.keyword .restriction) :: clauseTrees := by
    rw [List.dropWhile_append_of_pos fun tree member => by simp [noWhere tree member]]
    simp [Tree.isKeyword]
  simp [Statement.whereTrees?, found, dropped]

/-! ## Heads -/

/-- An identifier after a keyword is read as quoted text, whatever its name is. -/
theorem reads_identifier (dialect : Dialect) (name opening : String) (lead : List Tree)
    (opens : ∀ outer before rest,
      Reader.scan dialect { pending := .between, outer, trees := before }
          (characters opening.toList ++ .character dialect.identifierQuote :: rest) =
        Reader.scan dialect
          { pending := .quoted dialect.identifierQuote [], outer
            trees := lead.reverse ++ before } rest) :
    Reads dialect (Fragment.marks dialect [.raw opening, .identifier name])
      (lead ++ [.token (.quoted dialect.identifierQuote
        (quotedBody dialect.identifierQuote name))]) := by
  have noEscapes : hasEscapes dialect dialect.identifierQuote = false := by
    cases dialect <;> rfl
  have noSeparator : isSeparator dialect.identifierQuote = false := by
    cases dialect <;> rfl
  have reads := reads_quoted (quotable_of_noEscapes noEscapes name.toList) noSeparator
    opening.toList lead opens
  simpa [Piece.marks] using reads

theorem isHead_delete (dialect : Dialect) (collection : String) :
    IsHead dialect [.raw "DELETE FROM ", .identifier collection] := by
  have reads := reads_identifier dialect collection "DELETE FROM "
    [.token (.word "DELETE".toList), .token (.word "FROM".toList)]
    fun _ _ _ => by cases dialect <;> rfl
  exact ⟨_, reads, by simp [Tree.isKeyword]⟩

theorem isHead_update (dialect : Dialect) (collection json : String) :
    IsHead dialect [.raw "UPDATE ", .identifier collection,
      .raw (" SET " ++ Dialect.documentColumn ++ " = "), .document json] := by
  have target := reads_identifier dialect collection "UPDATE " [.token (.word "UPDATE".toList)]
    fun _ _ _ => by cases dialect <;> rfl
  have connects : Connects dialect (" SET " ++ Dialect.documentColumn ++ " = ").toList
      [ .token (.word "SET".toList), .token (.word "data".toList), .token (.relation .equal)] :=
    ⟨fun _ => rfl, fun _ _ _ => by cases dialect <;> rfl⟩
  have document := isExpression_document dialect json
  have reads := target.connected connects document.reads
  refine ⟨_, by simpa only [marks_cons, marks_nil, Piece.marks, List.append_nil,
    List.append_assoc] using reads, ?_⟩
  have plain := fun tree member => (Tree.foreign_of_isPlain (document.plain tree member)).2
  simpa [Tree.isKeyword, or_imp, forall_and] using fun tree member => plain tree member .restriction

end Query

end DocStore
