import DocStore.Proofs.Clause.Expression

/-!
# Texts with a meaning

A text is a conjunction or a disjunction with a meaning if the engine reads it as
conditions that hold, all or one of them, exactly where the meaning does.
Connecting texts connects their meanings; only a disjunction needs parentheses.
-/

namespace DocStore

open Sql

namespace Sql.Fragment

variable (dialect : Dialect)

/-- The text is read as conditions that all hold exactly where the meaning does. -/
def IsConjoined (meaning : Valuation → Prop) (fragment : Fragment) : Prop :=
  ∃ trees factors, Reads dialect (fragment.marks dialect) trees ∧
    IsConjunction trees factors ∧
    ∀ valuation, (∀ factor ∈ factors, factor.truth valuation = .holds) ↔ meaning valuation

/-- The text is read as conditions of which one holds exactly where the meaning
does. -/
def IsDisjoined (meaning : Valuation → Prop) (fragment : Fragment) : Prop :=
  ∃ trees alternatives, Reads dialect (fragment.marks dialect) trees ∧
    IsDisjunction trees alternatives ∧
    ∀ valuation,
      (∃ alternative ∈ alternatives, alternative.truth valuation = .holds) ↔ meaning valuation

variable {dialect} {meaning leftMeaning rightMeaning : Valuation → Prop}
  {fragment left right : Fragment}

theorem IsConjoined.congr (conjoined : IsConjoined dialect leftMeaning fragment)
    (same : ∀ valuation, leftMeaning valuation ↔ rightMeaning valuation) :
    IsConjoined dialect rightMeaning fragment := by
  obtain ⟨trees, factors, reads, conjunction, means⟩ := conjoined
  exact ⟨trees, factors, reads, conjunction, fun valuation =>
    (means valuation).trans (same valuation)⟩

theorem IsDisjoined.congr (disjoined : IsDisjoined dialect leftMeaning fragment)
    (same : ∀ valuation, leftMeaning valuation ↔ rightMeaning valuation) :
    IsDisjoined dialect rightMeaning fragment := by
  obtain ⟨trees, alternatives, reads, disjunction, means⟩ := disjoined
  exact ⟨trees, alternatives, reads, disjunction, fun valuation =>
    (means valuation).trans (same valuation)⟩

theorem IsConjoined.disjoined (conjoined : IsConjoined dialect meaning fragment) :
    IsDisjoined dialect meaning fragment := by
  obtain ⟨trees, factors, reads, conjunction, means⟩ := conjoined
  refine ⟨trees, _, reads, conjunction.alternative, ?_⟩
  intro valuation
  simp [means valuation]

theorem IsConjoined.and (leftConjoined : IsConjoined dialect leftMeaning left)
    (rightConjoined : IsConjoined dialect rightMeaning right) :
    IsConjoined dialect (fun valuation => leftMeaning valuation ∧ rightMeaning valuation)
      (left ++ .raw " AND " :: right) := by
  obtain ⟨leftTrees, leftFactors, leftReads, leftConjunction, leftMeans⟩ := leftConjoined
  obtain ⟨rightTrees, rightFactors, rightReads, rightConjunction, rightMeans⟩ := rightConjoined
  have connects : Connects dialect " AND ".toList [.token (.keyword .and)] :=
    ⟨fun _ => rfl, fun _ _ _ => by cases dialect <;> rfl⟩
  refine ⟨_, _, ?_, leftConjunction.and rightConjunction, ?_⟩
  · simpa [Piece.marks] using leftReads.connected connects rightReads
  · intro valuation
    simp only [List.forall_mem_append, leftMeans, rightMeans]

theorem IsDisjoined.or (leftDisjoined : IsDisjoined dialect leftMeaning left)
    (rightDisjoined : IsDisjoined dialect rightMeaning right) :
    IsDisjoined dialect (fun valuation => leftMeaning valuation ∨ rightMeaning valuation)
      (left ++ .raw " OR " :: right) := by
  obtain ⟨leftTrees, leftParts, leftReads, leftDisjunction, leftMeans⟩ := leftDisjoined
  obtain ⟨rightTrees, rightParts, rightReads, rightDisjunction, rightMeans⟩ := rightDisjoined
  have connects : Connects dialect " OR ".toList [.token (.keyword .or)] :=
    ⟨fun _ => rfl, fun _ _ _ => by cases dialect <;> rfl⟩
  refine ⟨_, _, ?_, leftDisjunction.or rightDisjunction, ?_⟩
  · simpa [Piece.marks] using leftReads.connected connects rightReads
  · intro valuation
    simp only [List.mem_append, or_and_right, exists_or, leftMeans, rightMeans]

theorem marks_parenthesised (dialect : Dialect) (fragment : Fragment) :
    (parenthesised fragment).marks dialect =
      characters ['('] ++ fragment.marks dialect ++ characters [')'] := by
  simp [parenthesised, Piece.marks]

theorem IsDisjoined.parenthesised (disjoined : IsDisjoined dialect meaning fragment) :
    IsConjoined dialect meaning (parenthesised fragment) := by
  obtain ⟨trees, alternatives, reads, disjunction, means⟩ := disjoined
  refine ⟨[.group trees], _, ?_, disjunction.parenthesised, ?_⟩
  · rw [marks_parenthesised]
    exact reads.parenthesised
  · intro valuation
    simp [← means valuation]

/-- The negation of a text holds where the text does not hold, unknown or not. -/
theorem IsDisjoined.negated (disjoined : IsDisjoined dialect meaning fragment) :
    IsConjoined dialect (fun valuation => ¬ meaning valuation)
      (.raw "NOT COALESCE((" :: (fragment ++ [.raw "), FALSE)"])) := by
  obtain ⟨trees, alternatives, reads, disjunction, means⟩ := disjoined
  have call := reads.parenthesised.surrounded .parenthesis "NOT COALESCE(".toList
    ", FALSE)".toList [.token (.keyword .not), .token (.keyword .coalesce)] []
    [.token .comma, .token (.keyword .falsity)] [] (fun _ _ _ => by cases dialect <;> rfl)
    (fun _ => rfl) (fun _ _ _ _ _ => by cases dialect <;> rfl)
  refine ⟨_, _, ?_, disjunction.negated, ?_⟩
  · simpa [Piece.marks, Bracket.tree, characters] using call
  · intro valuation
    have negates :
        (SqlCondition.negation (.coalesce
            [SqlCondition.anyOf alternatives, .constant false])).truth valuation = .holds ↔
          (SqlCondition.anyOf alternatives).truth valuation ≠ .holds :=
      Truth.not_coalesce_eq_holds
    simp [negates, ← means valuation]

theorem reads_compare (leftExpression : left.IsExpression dialect)
    (rightExpression : right.IsExpression dialect) {sign : String} {relation : Relation}
    (connects : Connects dialect sign.toList [.token (.relation relation)]) :
    Reads dialect ((left ++ .raw sign :: right).marks dialect)
      (left.trees dialect ++ .token (.relation relation) :: right.trees dialect) := by
  simpa [Piece.marks] using leftExpression.reads.connected connects rightExpression.reads

theorem isConjoined_compare (leftExpression : left.IsExpression dialect)
    (rightExpression : right.IsExpression dialect) {sign : String} {relation : Relation}
    (connects : Connects dialect sign.toList [.token (.relation relation)]) :
    IsConjoined dialect
      (fun valuation =>
        (SqlCondition.compare (left.trees dialect) relation (right.trees dialect)).truth
          valuation = .holds)
      (left ++ .raw sign :: right) := by
  refine ⟨_, _, reads_compare leftExpression rightExpression connects,
    isConjunction_compare leftExpression.plain rightExpression.plain relation, ?_⟩
  intro valuation
  simp

theorem isConjoined_isNull (expression : fragment.IsExpression dialect) :
    IsConjoined dialect (fun valuation => valuation.isNull (fragment.trees dialect) = true)
      (fragment ++ [.raw " IS NULL"]) := by
  have test : Reads dialect (characters " IS NULL".toList)
      [.token (.keyword .is), .token (.keyword .null)] := by
    intro outer before rest separated
    have settled : Reader.scan dialect
          ⟨.word "NULL".toList, outer, .token (.keyword .is) :: before⟩ rest =
        Reader.scan dialect ⟨.between, outer,
          .token (.keyword .null) :: .token (.keyword .is) :: before⟩ rest :=
      Reader.scan_settled rfl (by simp) separated
    cases dialect <;> exact settled
  refine ⟨_, _, ?_, isConjunction_isNull expression.plain, ?_⟩
  · simpa [Piece.marks] using expression.reads.append test fun _ => rfl
  · intro valuation
    simp [SqlCondition.truth]

theorem isConjoined_isNotNull (expression : fragment.IsExpression dialect) :
    IsConjoined dialect (fun valuation => valuation.isNull (fragment.trees dialect) = false)
      (fragment ++ [.raw " IS NOT NULL"]) := by
  have test : Reads dialect (characters " IS NOT NULL".toList)
      [.token (.keyword .is), .token (.keyword .not), .token (.keyword .null)] := by
    intro outer before rest separated
    have settled : Reader.scan dialect
          ⟨.word "NULL".toList, outer,
            .token (.keyword .not) :: .token (.keyword .is) :: before⟩ rest =
        Reader.scan dialect ⟨.between, outer, .token (.keyword .null)
          :: .token (.keyword .not) :: .token (.keyword .is) :: before⟩ rest :=
      Reader.scan_settled rfl (by simp) separated
    cases dialect <;> exact settled
  refine ⟨_, _, ?_, isConjunction_isNotNull expression.plain, ?_⟩
  · simpa [Piece.marks] using expression.reads.append test fun _ => rfl
  · intro valuation
    simp [SqlCondition.truth]

/-- A list of bound values is cut at its commas into the values. -/
theorem reads_parameters (dialect : Dialect) (first : Value) (rest : List Value) :
    ∃ trees,
      Reads dialect
        ((joined ", " ((first :: rest).map fun value => [Piece.parameter value])).marks dialect)
        trees ∧
      trees.splitOnP Tree.isComma =
        (first :: rest).map fun value => [.token (.bound value)] := by
  induction rest generalizing first with
  | nil =>
      refine ⟨[.token (.bound first)], ?_, rfl⟩
      simpa [joined, Piece.marks] using reads_bound first
  | cons second rest ih =>
      obtain ⟨trees, reads, cut⟩ := ih second
      have connects : Connects dialect ", ".toList [.token .comma] :=
        ⟨fun _ => rfl, fun _ _ _ => by cases dialect <;> rfl⟩
      refine ⟨[.token (.bound first)] ++ [.token .comma] ++ trees, ?_, ?_⟩
      · simpa [joined, Piece.marks] using (reads_bound first).connected connects reads
      · have noComma : ∀ tree ∈ [Tree.token (.bound first)], tree.isComma = false := by
          simp [Tree.isComma]
        have split := List.splitOnP_append_cons_of_forall_mem noComma (.token .comma) rfl trees
        rw [List.append_assoc, List.singleton_append, List.singleton_append]
        exact split.trans (by rw [cut]; rfl)

theorem isConjoined_member (expression : fragment.IsExpression dialect) (first : Value)
    (rest : List Value) :
    IsConjoined dialect
      (fun valuation => ∃ value ∈ first :: rest,
        valuation.compare (fragment.trees dialect) .equal [.token (.bound value)] = .holds)
      (fragment ++ .raw " IN " :: Fragment.parenthesised
        (joined ", " ((first :: rest).map fun value => [Piece.parameter value]))) := by
  obtain ⟨trees, reads, cut⟩ := reads_parameters dialect first rest
  have connects : Connects dialect " IN ".toList [.token (.keyword .member)] :=
    ⟨fun _ => rfl, fun _ _ _ => by cases dialect <;> rfl⟩
  have conjunction := isConjunction_member expression.plain trees
  refine ⟨_, _, ?_, conjunction, ?_⟩
  · have read := expression.reads.connected connects reads.parenthesised
    rw [marks_append, marks_cons, marks_parenthesised]
    simpa [Piece.marks] using read
  · intro valuation
    simp [SqlCondition.truth, cut, eq_comm (a := Truth.holds)]

end Sql.Fragment

end DocStore
