import Mathlib
import DocStore.Client.Find
import DocStore.Proofs.Database

/-!
# Databases that sort

A database sorts by a field if it finds documents in an order of the values of that
field, and if its comparisons of the field agree with that order.  A comparison in a
statement is guarded by the kind of its operand, so it holds of no value of another
kind.
-/

namespace DocStore

open Sql

/-- Two texts, or two numbers. -/
def Value.sameKind : Value → Value → Bool
  | .text _, .text _ => true
  | left, right => left.isNumber && right.isNumber

def Client.pageDirection (reverse : Bool) : Direction :=
  if reverse then .descending else .ascending

/-- How the documents of the next page compare with the boundary. -/
def Client.boundComparison (reverse : Bool) : Comparison := if reverse then .less else .greater

namespace Database

/-- The value that comes first in a direction. -/
def Ahead (less : Value → Value → Prop) (reverse : Bool) (first later : Value) : Prop :=
  if reverse then less later first else less first later

variable {less : Value → Value → Prop} {reverse : Bool} {first second third : Value}

theorem Ahead.asymm [IsStrictOrder Value less] (ahead : Ahead less reverse first second) :
    ¬Ahead less reverse second first := by
  cases reverse with
  | false => exact asymm_of less ahead
  | true => exact asymm_of less ahead

theorem Ahead.trans [IsStrictOrder Value less] (ahead : Ahead less reverse first second)
    (further : Ahead less reverse second third) : Ahead less reverse first third := by
  cases reverse with
  | false => exact trans_of less ahead further
  | true => exact trans_of less further ahead

/-- Documents are found in an order of the values of a field, and the comparisons of
that field with a value of the same kind agree with the order. -/
structure Sorts (database : Database) (less : Value → Value → Prop) (field : String)
    (documents : List Members) : Prop where
  strict : IsStrictOrder Value less
  total : ∀ first ∈ documents, ∀ second ∈ documents,
    sameId (first.getD field) (second.getD field) = false →
      less (first.getD field) (second.getD field) ∨ less (second.getD field) (first.getD field)
  arranged : ∀ reverse found, found ⊆ documents →
    (database.arrange (some [(field, Client.pageDirection reverse)]) found).Pairwise
      fun first later => ¬Ahead less reverse (later.getD field) (first.getD field)
  compared : ∀ reverse, ∀ bound ∈ documents, ∀ document ∈ documents,
    (database.fields document).satisfies field (.ordered (Client.boundComparison reverse))
        (bound.getD field) = true ↔
      (bound.getD field).sameKind (document.getD field) = true ∧
        Ahead less reverse (bound.getD field) (document.getD field)

/-! ## A plain database -/

/-- The place of a value in an order of texts and whole numbers, texts first. -/
def place : Value → WithBot Int ×ₗ String
  | .text content => toLex (⊥, content)
  | .int number => toLex (number, "")
  | _ => toLex (⊥, "")

/-- What comparisons say of two values. -/
def relates (relation : Relation) (stored operand : Value) : Bool :=
  match relation with
  | .equal => sameId stored operand
  | .ordered .greater => operand.sameKind stored && decide (place operand < place stored)
  | .ordered .less => operand.sameKind stored && decide (place stored < place operand)
  | _ => false

/-- Documents in the order of their places, by the first field of an ordering. -/
def sorted : Option SortOrder → List Members → List Members
  | some ((field, .ascending) :: _), documents =>
      documents.insertionSort fun first later =>
        place (first.getD field) ≤ place (later.getD field)
  | some ((field, .descending) :: _), documents =>
      documents.insertionSort fun first later =>
        place (later.getD field) ≤ place (first.getD field)
  | _, documents => documents

/-- A database that orders texts and whole numbers, and compares them within their
kind.  A statement without a key meets all rows. -/
def plain : Database where
  fields := fun document =>
    { compare := fun path relation operand =>
        if relates relation (document.getD path) operand then .holds else .fails
      isNull := fun path => (document.getD path).isNull }
  arrange := sorted
  arrange_perm := by
    intro sort documents
    match sort with
    | none => exact .refl _
    | some [] => exact .refl _
    | some ((_, .ascending) :: _) => exact List.perm_insertionSort _ _
    | some ((_, .descending) :: _) => exact List.perm_insertionSort _ _
  column := .object
  unkeyed := fun _ _ => true
  rowIds := fun _ count => List.replicate count (.int 1)
  seconds := fun _ => 0
  random := fun _ count => List.replicate count 0

def plainSettings : ClientSettings := { dialect := .postgres, strict := false }

theorem satisfies_plain (document : Members) (field : String) (relation : Relation)
    (operand : Value) :
    (plain.fields document).satisfies field relation operand =
      relates relation (document.getD field) operand := by
  by_cases related : relates relation (document.getD field) operand = true
  · simp [plain, FieldValuation.satisfies, related]
  · simp [plain, FieldValuation.satisfies, related]

/-- The plain database sorts documents with texts and whole numbers. -/
theorem sorts_plain {field : String} {documents : List Members}
    (placed : ∀ document ∈ documents,
      (∃ content, document.getD field = .text content) ∨
        ∃ number, document.getD field = .int number) :
    plain.Sorts (fun left right => place left < place right) field documents where
  strict :=
    { irrefl := fun value => lt_irrefl (place value)
      trans := fun _ _ _ => lt_trans }
  total := by
    intro first firstMember second secondMember different
    apply lt_or_gt_of_ne
    intro same
    have equal : first.getD field = second.getD field := by
      rcases placed first firstMember with ⟨left, isLeft⟩ | ⟨left, isLeft⟩ <;>
        rcases placed second secondMember with ⟨right, isRight⟩ | ⟨right, isRight⟩ <;>
        rw [isLeft, isRight] at same ⊢
      · simpa [place] using same
      · simp [place] at same
      · simp [place] at same
      · simpa [place] using same
    have isKey : (first.getD field).isKey = true := by
      rcases placed first firstMember with ⟨left, isLeft⟩ | ⟨left, isLeft⟩ <;> rw [isLeft] <;> rfl
    rw [← equal, sameId_self isKey] at different
    cases different
  arranged := by
    intro reverse found _
    cases reverse with
    | false =>
        refine (List.pairwise_insertionSort _ found).imp ?_
        intro first later ahead
        simpa [Ahead] using ahead
    | true =>
        refine (List.pairwise_insertionSort _ found).imp ?_
        intro first later ahead
        simpa [Ahead] using ahead
  compared := by
    intro reverse bound _ document _
    rw [satisfies_plain]
    cases reverse with
    | false => simp [Client.boundComparison, relates, Ahead]
    | true => simp [Client.boundComparison, relates, Ahead]

end Database

end DocStore
