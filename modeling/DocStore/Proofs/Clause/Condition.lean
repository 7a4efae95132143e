import DocStore.Proofs.Clause.Reader

/-!
# Reading trees as conditions

The precedence of SQL: `OR` is cut first, then `AND`, then leading `NOT`s, and
what is left is a comparison, a test, or a condition in parentheses.  Conditions
have three truth values; a valuation gives those of the comparisons and tests, of
which it knows only the texts on both sides.
-/

namespace DocStore.Sql

inductive Truth where
  | holds
  | fails
  | unknown
deriving DecidableEq

namespace Truth

def ofBool (flag : Bool) : Truth := if flag then holds else fails

def not : Truth → Truth
  | holds => fails
  | fails => holds
  | unknown => unknown

def and : Truth → Truth → Truth
  | fails, _ => fails
  | _, fails => fails
  | holds, holds => holds
  | _, _ => unknown

def or : Truth → Truth → Truth
  | holds, _ => holds
  | _, holds => holds
  | fails, fails => fails
  | _, _ => unknown

def all (values : List Truth) : Truth := values.foldr and holds

def any (values : List Truth) : Truth := values.foldr or fails

def coalesce : List Truth → Truth
  | [] => unknown
  | unknown :: values => coalesce values
  | value :: _ => value

@[simp] theorem ofBool_eq_holds {flag : Bool} : ofBool flag = holds ↔ flag = true := by
  cases flag <;> simp [ofBool]

@[simp] theorem and_eq_holds {left right : Truth} :
    left.and right = holds ↔ left = holds ∧ right = holds := by
  cases left <;> cases right <;> simp [and]

@[simp] theorem or_eq_holds {left right : Truth} :
    left.or right = holds ↔ left = holds ∨ right = holds := by
  cases left <;> cases right <;> simp [or]

@[simp] theorem all_eq_holds {values : List Truth} :
    all values = holds ↔ ∀ value ∈ values, value = holds := by
  induction values with
  | nil => simp [all]
  | cons value values ih =>
      simp only [all, List.foldr_cons] at ih ⊢
      simp [ih]

@[simp] theorem any_eq_holds {values : List Truth} :
    any values = holds ↔ ∃ value ∈ values, value = holds := by
  induction values with
  | nil => simp [any]
  | cons value values ih =>
      simp only [any, List.foldr_cons] at ih ⊢
      simp only [or_eq_holds, ih, List.mem_cons, exists_eq_or_imp]

theorem not_eq_holds {value : Truth} (known : value ≠ unknown) :
    value.not = holds ↔ value ≠ holds := by
  cases value with
  | holds => simp [not]
  | fails => simp [not]
  | unknown => exact absurd rfl known

/-- Negation of what is false where it is unknown. -/
theorem not_coalesce_eq_holds {value : Truth} :
    (coalesce [value, fails]).not = holds ↔ value ≠ holds := by
  cases value <;> simp [coalesce, not]

end Truth

inductive SqlCondition where
  | compare (left : List Tree) (relation : Relation) (right : List Tree)
  | isNull (operand : List Tree)
  | isNotNull (operand : List Tree)
  | member (operand : List Tree) (candidates : List (List Tree))
  | constant (flag : Bool)
  | negation (inner : SqlCondition)
  | coalesce (parts : List SqlCondition)
  | all (parts : List SqlCondition)
  | any (parts : List SqlCondition)

/-- Truth values of the comparisons and the null tests of a row.  The type of a
JSON value that is there is known, and one is not zero. -/
structure Valuation where
  compare : List Tree → Relation → List Tree → Truth
  isNull : List Tree → Bool
  type_known : ∀ operand, isNull operand = false →
    compare [.token (.word "JSON_TYPE".toList), .group operand] .equal
      [.token (.quoted '\'' "NULL".toList)] ≠ .unknown
  one_ne_zero : compare [.token (.word "1".toList)] .equal [.token (.word "0".toList)] = .fails

/-- Nothing is null, and no two expressions compare. -/
instance : Inhabited Valuation where
  default :=
    { compare := fun _ _ _ => .fails
      isNull := fun _ => false
      type_known := fun _ _ => by decide
      one_ne_zero := rfl }

namespace SqlCondition

mutual

/-- The truth value of a condition.  Being different is not being equal, and
being a member is being equal to one of the candidates. -/
def truth (valuation : Valuation) : SqlCondition → Truth
  | compare left .different right => (valuation.compare left .equal right).not
  | compare left relation right => valuation.compare left relation right
  | isNull operand => .ofBool (valuation.isNull operand)
  | isNotNull operand => .ofBool (!valuation.isNull operand)
  | member operand candidates =>
      .any (candidates.map fun candidate => valuation.compare operand .equal candidate)
  | constant flag => .ofBool flag
  | negation inner => (inner.truth valuation).not
  | coalesce parts => .coalesce (truths valuation parts)
  | all parts => .all (truths valuation parts)
  | any parts => .any (truths valuation parts)

def truths (valuation : Valuation) : List SqlCondition → List Truth
  | [] => []
  | part :: parts => part.truth valuation :: truths valuation parts

end

theorem truths_eq_map (valuation : Valuation) (parts : List SqlCondition) :
    truths valuation parts = parts.map (truth valuation) := by
  induction parts with
  | nil => rfl
  | cons part parts ih => simp [truths, ih]

/-- The conjunction of conditions; a single one stands for itself. -/
def allOf : List SqlCondition → SqlCondition
  | [part] => part
  | parts => all parts

/-- The disjunction of conditions; a single one stands for itself. -/
def anyOf : List SqlCondition → SqlCondition
  | [part] => part
  | parts => any parts

@[simp] theorem allOf_holds {valuation : Valuation} {parts : List SqlCondition} :
    (allOf parts).truth valuation = .holds ↔
      ∀ part ∈ parts, part.truth valuation = .holds := by
  unfold allOf
  split
  · simp
  · simp [truth, truths_eq_map]

@[simp] theorem anyOf_holds {valuation : Valuation} {parts : List SqlCondition} :
    (anyOf parts).truth valuation = .holds ↔
      ∃ part ∈ parts, part.truth valuation = .holds := by
  unfold anyOf
  split
  · simp
  · simp [truth, truths_eq_map]

end SqlCondition

namespace Tree

def isKeyword (keyword : Keyword) : Tree → Bool
  | .token (.keyword other) => other == keyword
  | _ => false

def isComma : Tree → Bool
  | .token .comma => true
  | _ => false

/-- A part of an expression: no keyword, no comparing sign and no comma. -/
def isPlain : Tree → Bool
  | .token (.keyword _) => false
  | .token (.relation _) => false
  | .token .comma => false
  | _ => true

end Tree

/-- All trees are parts of an expression. -/
def Plain (trees : List Tree) : Prop := ∀ tree ∈ trees, tree.isPlain = true

/-- A tree with the conditions that its arguments would be, if it is a group. -/
structure Item where
  tree : Tree
  arguments : List (Option SqlCondition)

/-- Reads a comparison of two expressions, a null test or a membership test. -/
def comparison? (trees : List Tree) : Option SqlCondition :=
  let left := trees.takeWhile Tree.isPlain
  match trees.dropWhile Tree.isPlain with
  | [.token (.keyword .is), .token (.keyword .null)] => some (.isNull left)
  | [.token (.keyword .is), .token (.keyword .not), .token (.keyword .null)] =>
      some (.isNotNull left)
  | [.token (.keyword .member), .group inner] =>
      some (.member left (inner.splitOnP Tree.isComma))
  | .token (.relation relation) :: right =>
      if right.all Tree.isPlain then some (.compare left relation right) else none
  | _ => none

/-- Reads a condition in parentheses, a call of `COALESCE` or a constant. -/
def enclosure? : List Item → Option SqlCondition
  | [⟨.group _, [argument]⟩] => argument
  | [⟨.token (.keyword .coalesce), _⟩, ⟨.group _, arguments⟩] =>
      (arguments.mapM id).map .coalesce
  | [⟨.token (.keyword .truth), _⟩] => some (.constant true)
  | [⟨.token (.keyword .falsity), _⟩] => some (.constant false)
  | _ => none

/-- Reads what stands between `AND`s. -/
def factor? : List Item → Option SqlCondition
  | ⟨.token (.keyword .not), _⟩ :: items => (factor? items).map .negation
  | items => (comparison? (items.map Item.tree)).or (enclosure? items)

def factors? (items : List Item) : Option (List SqlCondition) :=
  (items.splitOnP fun item => item.tree.isKeyword .and).mapM factor?

def alternatives? (items : List Item) : Option (List SqlCondition) :=
  (items.splitOnP fun item => item.tree.isKeyword .or).mapM fun part =>
    (factors? part).map SqlCondition.allOf

def condition? (items : List Item) : Option SqlCondition :=
  (alternatives? items).map SqlCondition.anyOf

mutual

def Tree.item : Tree → Item
  | .token token => ⟨.token token, []⟩
  | .choice inner => ⟨.choice inner, []⟩
  | .group inner =>
      ⟨.group inner, ((items inner).splitOnP fun item => item.tree.isComma).map condition?⟩

def items : List Tree → List Item
  | [] => []
  | tree :: trees => tree.item :: items trees

end

@[simp] theorem item_tree (tree : Tree) : tree.item.tree = tree := by
  cases tree <;> simp [Tree.item]

theorem items_eq_map (trees : List Tree) : items trees = trees.map Tree.item := by
  induction trees with
  | nil => simp [items]
  | cons tree trees ih => simp [items, ih]

@[simp] theorem map_tree_items (trees : List Tree) :
    (items trees).map Item.tree = trees := by
  simp [items_eq_map, Function.comp_def]

/-- The condition that a text with its bound values is. -/
def clause? (dialect : Dialect) (text : List Char) (values : List Value) :
    Option SqlCondition := do
  let marks ← format text values
  let trees ← treesOf? dialect marks
  condition? (items trees)

/-! ## Precedence -/

/-- The trees are a conjunction of these conditions. -/
structure IsConjunction (trees : List Tree) (factors : List SqlCondition) : Prop where
  noComma : ∀ tree ∈ trees, tree.isComma = false
  noOr : ∀ tree ∈ trees, tree.isKeyword .or = false
  read : factors? (items trees) = some factors

/-- The trees are a disjunction of these conditions. -/
structure IsDisjunction (trees : List Tree) (alternatives : List SqlCondition) : Prop where
  noComma : ∀ tree ∈ trees, tree.isComma = false
  read : alternatives? (items trees) = some alternatives

theorem forall_mem_between {left right : List Tree} {middle : Tree} {property : Tree → Prop}
    (leftHolds : ∀ tree ∈ left, property tree) (middleHolds : property middle)
    (rightHolds : ∀ tree ∈ right, property tree) :
    ∀ tree ∈ left ++ [middle] ++ right, property tree := by
  intro tree member
  simp only [List.mem_append, List.mem_singleton] at member
  rcases member with (member | rfl) | member
  · exact leftHolds tree member
  · exact middleHolds
  · exact rightHolds tree member

theorem IsConjunction.and {left right : List Tree} {leftFactors rightFactors : List SqlCondition}
    (leftRead : IsConjunction left leftFactors) (rightRead : IsConjunction right rightFactors) :
    IsConjunction (left ++ [.token (.keyword .and)] ++ right) (leftFactors ++ rightFactors) where
  noComma := forall_mem_between leftRead.noComma rfl rightRead.noComma
  noOr := forall_mem_between leftRead.noOr rfl rightRead.noOr
  read := by
    have leftCut := leftRead.read
    have rightCut := rightRead.read
    simp only [factors?, items_eq_map] at leftCut rightCut
    simp only [factors?, items_eq_map, List.map_append, List.map_cons,
      List.append_assoc, List.singleton_append]
    rw [List.splitOnP_append_cons _ _ rfl, List.mapM_append, leftCut, rightCut]
    rfl

theorem IsDisjunction.or {left right : List Tree}
    {leftAlternatives rightAlternatives : List SqlCondition}
    (leftRead : IsDisjunction left leftAlternatives)
    (rightRead : IsDisjunction right rightAlternatives) :
    IsDisjunction (left ++ [.token (.keyword .or)] ++ right)
      (leftAlternatives ++ rightAlternatives) where
  noComma := forall_mem_between leftRead.noComma rfl rightRead.noComma
  read := by
    have leftCut := leftRead.read
    have rightCut := rightRead.read
    simp only [alternatives?, items_eq_map] at leftCut rightCut
    simp only [alternatives?, items_eq_map, List.map_append, List.map_cons,
      List.append_assoc, List.singleton_append]
    rw [List.splitOnP_append_cons _ _ rfl, List.mapM_append, leftCut, rightCut]
    rfl

theorem IsConjunction.alternative {trees : List Tree} {factors : List SqlCondition}
    (read : IsConjunction trees factors) :
    IsDisjunction trees [SqlCondition.allOf factors] where
  noComma := read.noComma
  read := by
    have single : (items trees).splitOnP (fun item => item.tree.isKeyword .or) =
        [items trees] := by
      apply List.splitOnP_eq_singleton
      simpa [items_eq_map] using read.noOr
    simp [alternatives?, single, read.read]

/-- The arguments of a group without commas: its one condition. -/
theorem IsDisjunction.item_group {trees : List Tree} {alternatives : List SqlCondition}
    (read : IsDisjunction trees alternatives) :
    (Tree.group trees).item =
      ⟨.group trees, [some (SqlCondition.anyOf alternatives)]⟩ := by
  have single : (items trees).splitOnP (fun item => item.tree.isComma) = [items trees] := by
    apply List.splitOnP_eq_singleton
    simpa [items_eq_map] using read.noComma
  simp [Tree.item, single, condition?, read.read]

/-- A sequence of trees that begins with no `NOT` and has neither `AND` nor `OR`
is one comparison. -/
theorem IsConjunction.of_comparison {trees : List Tree} {comparison : SqlCondition}
    (compares : comparison? trees = some comparison)
    (noComma : ∀ tree ∈ trees, tree.isComma = false)
    (noOr : ∀ tree ∈ trees, tree.isKeyword .or = false)
    (noAnd : ∀ tree ∈ trees, tree.isKeyword .and = false)
    (noNot : ∀ tree ∈ trees.head?, tree.isKeyword .not = false) :
    IsConjunction trees [comparison] where
  noComma := noComma
  noOr := noOr
  read := by
    have single : (items trees).splitOnP (fun item => item.tree.isKeyword .and) =
        [items trees] := by
      apply List.splitOnP_eq_singleton
      simpa [items_eq_map] using noAnd
    have factor : factor? (items trees) =
        (comparison? ((items trees).map Item.tree)).or (enclosure? (items trees)) := by
      rw [factor?]
      intro arguments rest shape
      cases trees with
      | nil => simp [items] at shape
      | cons head trees =>
          simp only [items, List.cons.injEq] at shape
          have tree : head = .token (.keyword .not) := by
            rw [← item_tree head, shape.1]
          simp [tree, Tree.isKeyword] at noNot
    simp [factors?, single, factor, compares]

/-- A part of an expression connects no conditions. -/
theorem Tree.foreign_of_isPlain {tree : Tree} (plain : tree.isPlain = true) :
    tree.isComma = false ∧ ∀ keyword, tree.isKeyword keyword = false := by
  cases tree with
  | group inner => simp [isComma, isKeyword]
  | choice inner => simp [isComma, isKeyword]
  | token token => cases token <;> simp_all [isPlain, isComma, isKeyword]

theorem isConjunction_test {left rest : List Tree} {test : Tree} {comparison : SqlCondition}
    (plain : Plain left)
    (compares : comparison? (left ++ test :: rest) = some comparison)
    (noComma : ∀ tree ∈ test :: rest, tree.isComma = false)
    (noOr : ∀ tree ∈ test :: rest, tree.isKeyword .or = false)
    (noAnd : ∀ tree ∈ test :: rest, tree.isKeyword .and = false)
    (noNot : test.isKeyword .not = false) :
    IsConjunction (left ++ test :: rest) [comparison] := by
  have foreign := fun tree member => Tree.foreign_of_isPlain (plain tree member)
  refine IsConjunction.of_comparison compares ?_ ?_ ?_ ?_
  · exact List.forall_mem_append.mpr ⟨fun tree member => (foreign tree member).1, noComma⟩
  · exact List.forall_mem_append.mpr ⟨fun tree member => (foreign tree member).2 _, noOr⟩
  · exact List.forall_mem_append.mpr ⟨fun tree member => (foreign tree member).2 _, noAnd⟩
  · cases left with
    | nil => simpa using noNot
    | cons head left => simpa using (foreign head List.mem_cons_self).2 _

/-- An expression ends at the first tree that is no part of one. -/
theorem comparison?_append {left : List Tree} (plain : Plain left) (test : Tree)
    (rest : List Tree) (notPlain : test.isPlain = false) :
    (left ++ test :: rest).takeWhile Tree.isPlain = left ∧
      (left ++ test :: rest).dropWhile Tree.isPlain = test :: rest := by
  rw [List.takeWhile_append_of_pos plain, List.dropWhile_append_of_pos plain]
  simp [notPlain]

theorem isConjunction_compare {left right : List Tree} (leftPlain : Plain left)
    (rightPlain : Plain right) (relation : Relation) :
    IsConjunction (left ++ .token (.relation relation) :: right)
      [.compare left relation right] := by
  have foreign := fun tree member => Tree.foreign_of_isPlain (rightPlain tree member)
  obtain ⟨taken, dropped⟩ :=
    comparison?_append leftPlain (.token (.relation relation)) right rfl
  have allPlain : right.all Tree.isPlain = true := List.all_eq_true.mpr rightPlain
  refine isConjunction_test leftPlain ?_ ?_ ?_ ?_ rfl
  · simp only [comparison?, taken, dropped, allPlain, if_true]
  · exact List.forall_mem_cons.mpr ⟨rfl, fun tree member => (foreign tree member).1⟩
  · exact List.forall_mem_cons.mpr ⟨rfl, fun tree member => (foreign tree member).2 _⟩
  · exact List.forall_mem_cons.mpr ⟨rfl, fun tree member => (foreign tree member).2 _⟩

theorem isConjunction_isNull {operand : List Tree} (plain : Plain operand) :
    IsConjunction (operand ++ [.token (.keyword .is), .token (.keyword .null)])
      [.isNull operand] := by
  obtain ⟨taken, dropped⟩ :=
    comparison?_append plain (.token (.keyword .is)) [.token (.keyword .null)] rfl
  refine isConjunction_test plain ?_ ?_ ?_ ?_ rfl
  · simp only [comparison?, taken, dropped]
  all_goals simp [Tree.isComma, Tree.isKeyword]

theorem isConjunction_isNotNull {operand : List Tree} (plain : Plain operand) :
    IsConjunction
      (operand ++ [.token (.keyword .is), .token (.keyword .not), .token (.keyword .null)])
      [.isNotNull operand] := by
  obtain ⟨taken, dropped⟩ :=
    comparison?_append plain (.token (.keyword .is))
      [.token (.keyword .not), .token (.keyword .null)] rfl
  refine isConjunction_test plain ?_ ?_ ?_ ?_ rfl
  · simp only [comparison?, taken, dropped]
  all_goals simp [Tree.isComma, Tree.isKeyword]

theorem isConjunction_member {operand : List Tree} (plain : Plain operand) (inner : List Tree) :
    IsConjunction (operand ++ [.token (.keyword .member), .group inner])
      [.member operand (inner.splitOnP Tree.isComma)] := by
  obtain ⟨taken, dropped⟩ :=
    comparison?_append plain (.token (.keyword .member)) [.group inner] rfl
  refine isConjunction_test plain ?_ ?_ ?_ ?_ rfl
  · simp only [comparison?, taken, dropped]
  all_goals simp [Tree.isComma, Tree.isKeyword]

theorem IsDisjunction.parenthesised {trees : List Tree} {alternatives : List SqlCondition}
    (read : IsDisjunction trees alternatives) :
    IsConjunction [.group trees] [SqlCondition.anyOf alternatives] where
  noComma := by simp [Tree.isComma]
  noOr := by simp [Tree.isKeyword]
  read := by
    simp only [items, read.item_group]
    rfl

theorem isConjunction_falsity :
    IsConjunction [.token (.keyword .falsity)] [.constant false] where
  noComma := by simp [Tree.isComma]
  noOr := by simp [Tree.isKeyword]
  read := rfl

theorem IsConjunction.condition?_eq {trees : List Tree} {factor : SqlCondition}
    (read : IsConjunction trees [factor]) : condition? (items trees) = some factor := by
  simp [condition?, read.alternative.read, SqlCondition.allOf, SqlCondition.anyOf]

theorem IsDisjunction.negated {trees : List Tree} {alternatives : List SqlCondition}
    (read : IsDisjunction trees alternatives) :
    IsConjunction
      [ .token (.keyword .not), .token (.keyword .coalesce),
        .group [.group trees, .token .comma, .token (.keyword .falsity)] ]
      [.negation (.coalesce [SqlCondition.anyOf alternatives, .constant false])] where
  noComma := by simp [Tree.isComma]
  noOr := by simp [Tree.isKeyword]
  read := by
    have inner := read.parenthesised.condition?_eq
    have falsity := isConjunction_falsity.condition?_eq
    have cut : (items [.group trees, .token .comma, .token (.keyword .falsity)]).splitOnP
          (fun item => item.tree.isComma) =
        [items [.group trees], items [.token (.keyword .falsity)]] := rfl
    have call : (Tree.group [.group trees, .token .comma, .token (.keyword .falsity)]).item =
        ⟨.group [.group trees, .token .comma, .token (.keyword .falsity)],
          [some (SqlCondition.anyOf alternatives), some (.constant false)]⟩ := by
      rw [Tree.item, cut, List.map_cons, List.map_cons, List.map_nil, inner, falsity]
    rw [items, items, items, call]
    rfl

end DocStore.Sql
