import DocStore.Proofs.AcceptedWrites
import DocStore.Proofs.FilterLeaves
import DocStore.Proofs.Run

/-!
# What an upsert starts from

An update that matches nothing may insert a document, which starts from entries of the
filter.  Whether an entry is a plain equality is decided twice: by the compilation, which
knows operators and combinators with and without their dollar sign, and by the choice of
the entries.  The two part ways at two kinds of entries.  An object of operators without
dollar signs is copied as if it were a value, and so is an object that contributes nothing;
a field that is named like a combinator is left out although it is compared with a value.
Where a filter has no such entry, its plain equalities are what is copied.
-/

namespace DocStore

namespace Filter

/-- The compilation takes an entry for the comparison of a field with a value. -/
def IsPlainEquality (entry : Key × Value) : Prop :=
  condition (.object [entry]) =
    .conjunction [.enclosed (Condition.equality entry.1.shown entry.2)]

/-- A field with an object in which no key has a dollar sign. -/
def HasBareKeys (entry : Key × Value) : Prop :=
  hasDollar entry.1.shown = false ∧ Combinator.ofKey? entry.1.shown = none ∧
    entry.2.isObject = true ∧ Document.holdsOperator entry.2 = false

/-- A field with the name of a combinator and a value that neither the combinator takes nor
operators can stand in. -/
def IsNamedLikeCombinator (entry : Key × Value) : Prop :=
  hasDollar entry.1.shown = false ∧
    (∃ combinator, Combinator.ofKey? entry.1.shown = some combinator ∧
      takes combinator entry.2 = false) ∧
    entry.2.isObject = false

theorem isPlainEquality_iff {entry : Key × Value} :
    IsPlainEquality entry ↔
      combinator? entry.1.shown entry.2 = none ∧ hasDollar entry.1.shown = false ∧
        entry.2.isObject = false := by
  obtain ⟨key, value⟩ := entry
  have single : condition (.object [(key, value)]) =
      .conjunction [entryCondition key.shown value] := by
    rw [condition, entryConditions_cons]
    rfl
  rw [IsPlainEquality, single, entryCondition, Condition.equality_eq_test]
  cases combinator? key.shown value with
  | some combinator => cases combinator <;> simp
  | none =>
      unfold unrecognised
      cases hasDollar key.shown with
      | true => simp
      | false =>
          cases shape : value.isObject with
          | true => cases value <;> simp_all [Value.isObject, fieldCondition]
          | false => simp [fieldCondition_of_isObject shape, Condition.equality_eq_test]

theorem combinator?_eq_none_iff {key : String} {value : Value} :
    combinator? key value = none ↔
      ∀ combinator, Combinator.ofKey? key = some combinator → takes combinator value = false := by
  rw [combinator?, Option.filter_eq_none_iff]
  simp

theorem not_isPlainEquality_of_hasBareKeys {entry : Key × Value} (bare : HasBareKeys entry) :
    ¬IsPlainEquality entry := by
  intro plain
  obtain ⟨_, _, isObject, _⟩ := bare
  simp [(isPlainEquality_iff.mp plain).2.2] at isObject

theorem isPlainEquality_of_isNamedLikeCombinator {entry : Key × Value}
    (named : IsNamedLikeCombinator entry) : IsPlainEquality entry := by
  obtain ⟨bare, ⟨combinator, isCombinator, foreign⟩, noObject⟩ := named
  refine isPlainEquality_iff.mpr ⟨combinator?_eq_none_iff.mpr fun other isOther => ?_, bare,
    noObject⟩
  rwa [← Option.some.inj (isCombinator.symm.trans isOther)]

end Filter

namespace Document

/-- Whether the choice of the entries takes an entry. -/
def isSeeded (entry : Key × Value) : Bool :=
  !(hasDollar entry.1.shown || (Combinator.ofKey? entry.1.shown).isSome
    || holdsOperator entry.2)

theorem equalityFields_eq (filter : Option Members) :
    equalityFields (.optional .object filter) = .ok ((filter.getD []).filter isSeeded) := by
  cases filter with
  | none => rfl
  | some entries => cases entries <;> rfl

theorem holdsOperator_of_isObject {value : Value} (noObject : value.isObject = false) :
    holdsOperator value = false := by
  cases value with
  | object members => cases noObject
  | _ => rfl

/-- Taken are the plain equalities but those that are named like a combinator, and besides
them the objects with bare keys. -/
theorem isSeeded_iff {entry : Key × Value} :
    isSeeded entry = true ↔
      Filter.IsPlainEquality entry ∧ ¬Filter.IsNamedLikeCombinator entry ∨
        Filter.HasBareKeys entry := by
  obtain ⟨key, value⟩ := entry
  simp only [isSeeded, Filter.isPlainEquality_iff, Filter.combinator?_eq_none_iff,
    Filter.IsNamedLikeCombinator, Filter.HasBareKeys]
  cases hasDollar key.shown with
  | true => simp
  | false =>
      cases Combinator.ofKey? key.shown with
      | some combinator => simp
      | none =>
          cases shape : value.isObject with
          | true => simp
          | false => simp [holdsOperator_of_isObject shape]

/-- The two readings agree on an entry that is of neither kind. -/
theorem isSeeded_iff_isPlainEquality {entry : Key × Value} :
    (isSeeded entry = true ↔ Filter.IsPlainEquality entry) ↔
      ¬Filter.HasBareKeys entry ∧ ¬Filter.IsNamedLikeCombinator entry := by
  have notPlain := @Filter.not_isPlainEquality_of_hasBareKeys entry
  have plain := @Filter.isPlainEquality_of_isNamedLikeCombinator entry
  rw [isSeeded_iff]
  tauto

end Document

namespace Client

open ClientAction

/-- An update without a match inserts what it makes of its seed, entries of the filter in
their order.  The seed holds the plain equalities that are not named like a combinator, and
the objects with bare keys, which are no plain equalities.  So it holds exactly the plain
equalities if and only if the filter has no entry of these two kinds. -/
theorem update_inserts_seed {σ : Type} (settings : ClientSettings) (answers : Answers σ)
    (collection : String) (filter : Option Members) (change : Value) (options : UpdateOptions)
    (limit : Option Nat) (session : Option SessionId) {schemas between : SchemaCatalog}
    {state middle : σ} (wanted : options.upsert = true)
    (noMatch : run answers (matching settings collection (.optional .object filter) limit session)
      schemas state = ((.ok [], between), middle)) :
    ∃ seed,
      run answers (update settings collection (.optional .object filter) change options limit
          session) schemas state =
        run answers (do
          let revised ← updated settings (.object seed) change
          let inserted ← insertOne settings collection (.object revised) session
          pure { upsertedId := inserted.insertedId : UpdateResult }) between middle ∧
      seed.Sublist (filter.getD []) ∧
      (∀ entry ∈ filter.getD [], entry ∈ seed ↔
        Filter.IsPlainEquality entry ∧ ¬Filter.IsNamedLikeCombinator entry ∨
          Filter.HasBareKeys entry) ∧
      ((∀ entry ∈ filter.getD [], entry ∈ seed ↔ Filter.IsPlainEquality entry) ↔
        ∀ entry ∈ filter.getD [],
          ¬Filter.HasBareKeys entry ∧ ¬Filter.IsNamedLikeCombinator entry) := by
  have taken (entry : Key × Value) (member : entry ∈ filter.getD []) :
      entry ∈ (filter.getD []).filter Document.isSeeded ↔ Document.isSeeded entry = true := by
    simp [member]
  refine ⟨(filter.getD []).filter Document.isSeeded, ?_, List.filter_sublist, ?_, ?_⟩
  · rw [update, run_bind, noMatch]
    simp only [wanted, upsert, if_true]
    rw [run_bind, run_ofFault, Document.equalityFields_eq]
    rfl
  · intro entry member
    rw [taken entry member, Document.isSeeded_iff]
  · refine forall₂_congr fun entry member => ?_
    rw [taken entry member, Document.isSeeded_iff_isPlainEquality]

/-- An entry with an operator is not copied, and the others are. -/
theorem update_inserts_seed_marked :
    let filter : Members := [("email", .text "a@b.c"), ("age", .object [("$gt", .int 3)])]
    let settings : ClientSettings := { dialect := .postgres, strict := true }
    let answers : Answers Unit
      | .tableExists _ => pure (.ok false)
      | call => takingInsertions call
    ∃ seed,
      run answers (update settings "users" (.object filter) (.object [])
          { upsert := true } (some 1) none) [] () =
        run answers (do
          let revised ← updated settings (.object seed) (.object [])
          let inserted ← insertOne settings "users" (.object revised) none
          pure { upsertedId := inserted.insertedId : UpdateResult }) [] () ∧
      ∀ entry ∈ filter, entry ∈ seed ↔ Filter.IsPlainEquality entry := by
  intro filter settings answers
  have clear : ∀ entry ∈ filter,
      ¬Filter.HasBareKeys entry ∧ ¬Filter.IsNamedLikeCombinator entry := by
    have noCombinator : Combinator.ofKey? "email" = none := by decide
    rw [List.forall_mem_cons, List.forall_mem_singleton]
    refine ⟨⟨?_, ?_⟩, ?_, ?_⟩
    · rintro ⟨_, _, isObject, _⟩
      cases isObject
    · rintro ⟨_, ⟨combinator, isCombinator, _⟩, _⟩
      cases noCombinator.symm.trans isCombinator
    · rintro ⟨_, _, _, unmarked⟩
      cases unmarked
    · rintro ⟨_, _, noObject⟩
      cases noObject
  obtain ⟨seed, inserts, _, _, plain⟩ :=
    update_inserts_seed settings answers "users" (some filter) (.object [])
      { upsert := true } (some 1) none rfl rfl
  exact ⟨seed, inserts, plain.mpr clear⟩

/-- A comparison whose operator has no dollar sign is copied, and the plain equality of a
field that is named like a combinator is not. -/
theorem seed_ne_plainEqualities :
    let compared : Key × Value := ("a", .object [("gt", .int 5)])
    let named : Key × Value := ("and", .int 5)
    Document.equalityFields (.object [compared, named]) = .ok [compared] ∧
      Filter.condition (.object [compared, named]) =
        .conjunction
          [ .conjunction [.enclosed (.test (.ordered "a" .greater (.int 5)))],
            .enclosed (.test (.equals "and" (.int 5))) ] ∧
      ¬Filter.IsPlainEquality compared ∧ Filter.IsPlainEquality named := by
  intro compared named
  refine ⟨?_, rfl, ?_, rfl⟩
  · have taken : Document.isSeeded compared = true := by decide
    have dropped : Document.isSeeded named = false := by decide
    refine (Document.equalityFields_eq (some [compared, named])).trans ?_
    simp [taken, dropped]
  · intro plain
    cases (Filter.isPlainEquality_iff.mp plain).2.2

end Client

end DocStore
