import DocStore.Proofs.FilterMapping
import DocStore.Proofs.Formatting
import Mathlib.Algebra.Group.Int.Defs

/-!
# Values of operands

The text of a filter shows no value of an operand.  It depends on an operand
through its class only, and so does the number of values that are bound.  The
shape of a filter is the filter with the simplest operand of each class.  Filters
of one shape fail alike or have one text, but for the length of integers: one with
too many digits in a list or an object keeps a filter from being compiled.
-/

namespace DocStore

open Sql Fragment

/-- The simplest operand of the class of a value.  What JSON does not have stands for
itself. -/
def Value.representative : Value → Value
  | .null => .null
  | .bool _ => .bool false
  | .int _ => .int 0
  | .float _ => .int 0
  | .text _ => .text ""
  | .list _ => .list []
  | .object _ => .list []
  | .decimal number => .decimal number
  | .bytes content => .bytes content

namespace Value

theorem operandClass_representative (value : Value) :
    value.representative.operandClass = value.operandClass := by
  cases value <;> rfl

theorem representative_of_foreign {value : Value} (foreign : value.operandClass = .foreign) :
    value.representative = value := by
  cases value <;> first | rfl | cases foreign

theorem isObject_representative (value : Value) : value.representative.isObject = false := by
  cases value <;> rfl

theorem representative_of_json {value : Value} (json : value.operandClass = .json) :
    value.representative = .list [] := by
  cases value <;> first | rfl | cases json

end Value

/-- All keys stay, and each operand becomes the simplest one of its class. -/
def FilterMapping.byClass : FilterMapping where
  key name := name
  operand := Value.representative
  hasDollar_key _ noDollar := noDollar
  combinator_key _ := .inr rfl
  class_operand := Value.operandClass_representative
  operand_of_foreign _ := Value.representative_of_foreign
  isObject_operand value _ := value.isObject_representative
  obstacle_operand _ json := .inl (by rw [Value.representative_of_json json]; rfl)

namespace Filter

/-- The shape of a filter: its keys in their order at every level, and the classes of
its operands. -/
def shape (filter : Value) : Value := FilterMapping.byClass.filter filter

/-- The same keys in the same places, with operands of the same classes. -/
def SameShape (left right : Value) : Prop := shape left = shape right

end Filter

/-! ## Pieces without their values -/

/-- Two pieces that differ in a bound value at most. -/
inductive Sql.Piece.SameText : Piece → Piece → Prop where
  | same (piece : Piece) : SameText piece piece
  | parameter (left right : Value) : SameText (.parameter left) (.parameter right)
  | document (left right : String) : SameText (.document left) (.document right)

namespace Sql.Fragment

theorem forall₂_sameText (fragment : Fragment) :
    List.Forall₂ Piece.SameText fragment fragment :=
  List.forall₂_same.mpr fun piece _ => .same piece

theorem render_eq_of_sameText {left right : Fragment}
    (pieces : List.Forall₂ Piece.SameText left right) (dialect : Dialect) :
    left.render dialect = right.render dialect := by
  induction pieces with
  | nil => rfl
  | cons first rest ih =>
      rw [render_cons, render_cons, ih]
      cases first <;> rfl

theorem length_params_eq_of_sameText {left right : Fragment}
    (pieces : List.Forall₂ Piece.SameText left right) :
    left.params.length = right.params.length := by
  induction pieces with
  | nil => rfl
  | cons first rest ih =>
      rw [params_cons, params_cons, List.length_append, List.length_append, ih]
      cases first <;> rfl

end Sql.Fragment

namespace FilterMapping

/-- The text of a test depends on its operands through their classes. -/
theorem relates_byClass (dialect : Dialect) : byClass.Relates dialect Piece.SameText where
  raw content := .same (.raw content)
  test test := by
    have raw (content : String) : Piece.SameText (.raw content) (.raw content) :=
      .same (.raw content)
    have comparable (path : String) (operand : Value) :
        dialect.comparable path (byClass.operand operand) = dialect.comparable path operand :=
      dialect.comparable_congr (byClass.class_operand operand) path
    cases test with
    | absent path => exact forall₂_sameText _
    | present path => exact forall₂_sameText _
    | never => exact forall₂_sameText _
    | equals path operand =>
        rw [FieldTest.mapped, FieldTest.fragment, FieldTest.fragment, comparable]
        exact List.rel_append (forall₂_sameText _)
          (.cons (.same _) (.cons (.parameter _ _) .nil))
    | ordered path comparison operand =>
        rw [FieldTest.mapped, FieldTest.fragment, FieldTest.fragment, comparable]
        exact List.rel_append (forall₂_sameText _)
          (.cons (.same _) (.cons (.parameter _ _) .nil))
    | sameJson path operand =>
        exact List.rel_append (forall₂_sameText _)
          (.cons (.same _) (.cons (.document _ _) .nil))
    | oneOf path type operands =>
        refine List.rel_append (forall₂_sameText _) (.cons (.same _)
          (forall₂_parenthesised raw (forall₂_joined raw ", " ?_)))
        rw [List.map_map, List.forall₂_map_left_iff, List.forall₂_map_right_iff]
        exact List.forall₂_same.mpr fun _ _ => .cons (.parameter _ _) .nil

end FilterMapping

/-! ## Filters of one shape -/

namespace Filter

/-- The text of a compiled filter, empty if nothing contributes to it. -/
def clause (dialect : Dialect) (text : Option Fragment) : String :=
  (text.getD []).render dialect

/-- The values that a compiled filter binds. -/
def clauseParams (text : Option Fragment) : List Value := (text.getD []).params

/-- What a compilation comes to without its values: its error, or its clause and the
number of its parameters. -/
def outline (dialect : Dialect) (strict : Bool) (filter : Value) (entries : List LogEntry) :
    Except Failure (String × Nat) :=
  ((compile dialect strict filter).after entries).1.map fun text =>
    (clause dialect text, (clauseParams text).length)

/-- A filter of JSON comes to what its shape comes to, or fails at an operand with too many
digits. -/
theorem outline_shape {filter : Value} (json : filter.IsJson) (dialect : Dialect) (strict : Bool)
    (entries : List LogEntry) :
    outline dialect strict filter entries = outline dialect strict (shape filter) entries ∨
      ComparesTooLong filter ∧
        outline dialect strict filter entries = .error (.fault .malformedValue) := by
  unfold outline
  rcases FilterMapping.compile_mapped (FilterMapping.relates_byClass dialect) strict filter
    entries with ⟨failure, shapeFails, fails⟩ |
      ⟨shapeText, text, shapeCompiles, compiles, pieces⟩ |
      ⟨failure, ⟨path, operand, fault, isLeaf, obstacle, _, isFault⟩, fails⟩
  · rw [shape, shapeFails, fails]
    exact .inl rfl
  · rw [shape, shapeCompiles, compiles]
    cases pieces with
    | none => exact .inl rfl
    | some pieces =>
        left
        simp [Except.map, clause, clauseParams, render_eq_of_sameText pieces,
          length_params_eq_of_sameText pieces]
  · obtain rfl := Option.some.inj isFault
    have ends := ending?_sameJson json isLeaf false
    rw [FilterLeaf.ending?, obstacle] at ends
    split at ends
    · cases ends
    · rename_i unwritable
      cases ends
      exact .inr ⟨⟨path, operand, isLeaf, by simpa using unwritable⟩, by rw [fails]; rfl⟩

/-- No value of an operand shows in a clause: filters of one shape fail with one error,
or have one clause, character for character, and as many parameters.  Only an integer
with too many digits in a list or an object shows, in that its filter fails. -/
theorem outline_eq_of_sameShape {left right : Value} (leftJson : left.IsJson)
    (rightJson : right.IsJson) (same : SameShape left right) (dialect : Dialect) (strict : Bool)
    (entries : List LogEntry) :
    outline dialect strict left entries = outline dialect strict right entries ∨
      (ComparesTooLong left ∧
        outline dialect strict left entries = .error (.fault .malformedValue)) ∨
      (ComparesTooLong right ∧
        outline dialect strict right entries = .error (.fault .malformedValue)) := by
  rcases outline_shape leftJson dialect strict entries with leftSame | long
  · rcases outline_shape rightJson dialect strict entries with rightSame | long
    · left
      calc outline dialect strict left entries
          = outline dialect strict (shape left) entries := leftSame
        _ = outline dialect strict (shape right) entries := by rw [same]
        _ = outline dialect strict right entries := rightSame.symm
    · exact .inr (.inr long)
  · exact .inr (.inl long)

/-- Operands of every class, in two filters of one shape. -/
theorem outline_eq_mixedOperands :
    let left : Value := .object
      [ ("a", .text "x' OR 1 = 1"), ("b", .object [("$nin", .list [.bool true, .null])]),
        ("$or", .list [.object [("c", .object [("$gt", .int 3), ("$ne", .list [.null])])]]) ]
    let right : Value := .object
      [ ("a", .text "%s"), ("b", .object [("$nin", .list [.bool false, .null])]),
        ("$or", .list
          [.object [("c", .object [("$gt", .int (-7)), ("$ne", .object [("d", .text "'")])])]]) ]
    left.IsJson ∧ right.IsJson ∧ SameShape left right ∧
      outline .mysql true left [] = outline .mysql true right [] := by
  intro left right
  have leftJson : left.IsJson := by
    simp [left, Value.isJson_object_iff, Value.isJson_list_iff, Members.keys, Value.IsJson.null,
      Value.IsJson.bool, Value.IsJson.int, Value.IsJson.text]
  have rightJson : right.IsJson := by
    simp [right, Value.isJson_object_iff, Value.isJson_list_iff, Members.keys, Value.IsJson.null,
      Value.IsJson.bool, Value.IsJson.int, Value.IsJson.text]
  have same : SameShape left right := rfl
  refine ⟨leftJson, rightJson, same, ?_⟩
  rcases outline_eq_of_sameShape leftJson rightJson same .mysql true [] with alike | ⟨_, fails⟩ |
    ⟨_, fails⟩
  · exact alike
  · cases fails
  · cases fails

/-- A list with a short integer and one with a long integer are of one class.  The first filter
has a clause, and the second one fails. -/
theorem outline_ne_longElement :
    let short : Value := .object [("a", .list [.int 1])]
    let long : Value := .object [("a", .list [.int (10 ^ 4300)])]
    short.IsJson ∧ long.IsJson ∧ SameShape short long ∧
      outline .postgres false short [] = .ok ("(data->'a' = %s::jsonb)", 1) ∧
      outline .postgres false long [] = .error (.fault .malformedValue) := by
  intro short long
  have json (number : Int) : (Value.object [("a", .list [.int number])]).IsJson :=
    .object (List.forall_mem_singleton.mpr ⟨"a", rfl⟩) (List.pairwise_singleton _ _)
      (List.forall_mem_singleton.mpr (.list (List.forall_mem_singleton.mpr (.int number))))
  have hidden (number : Int) :
      shape (.object [("a", .list [.int number])]) = .object [("a", .list [])] := rfl
  have same : SameShape short long := (hidden _).trans (hidden _).symm
  have compiles : outline .postgres false short [] = .ok ("(data->'a' = %s::jsonb)", 1) := by
    decide +kernel
  refine ⟨json _, json _, same, compiles, ?_⟩
  have fails : (trail false long).failure = some (.fault .malformedValue) := by
    rw [failure_trail_lenient (json _)]
    exact ⟨⟨"a", .list [.int (10 ^ 4300)], List.mem_singleton.mpr rfl, by decide +kernel⟩, rfl⟩
  rw [outline, after_compile, fails]
  rfl

end Filter

end DocStore
