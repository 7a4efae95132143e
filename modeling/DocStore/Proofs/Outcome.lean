import Mathlib.Data.List.Forall2
import DocStore.Log

/-!
# Outcomes of computations

`Returns` says that a logged computation comes to a result.  The lemmas take a
computation apart into the steps that must all have returned.
-/

namespace DocStore

theorem Except.bind_eq_ok {ε α β : Type} {first : Except ε α} {next : α → Except ε β}
    {result : β} :
    (first >>= next) = .ok result ↔ ∃ value, first = .ok value ∧ next value = .ok result := by
  cases first <;> simp [bind, Except.bind]

theorem Except.exists_bind {ε α β : Type} {first : Except ε α} {next : α → Except ε β} {value : α}
    (isValue : first = .ok value) (rest : ∃ result, next value = .ok result) :
    ∃ result, (first >>= next) = .ok result := by
  rw [isValue]
  exact rest

theorem Except.pure_eq_ok {ε α : Type} {value result : α} :
    (pure value : Except ε α) = .ok result ↔ value = result := by
  simp [pure, Except.pure]

theorem Except.map_eq_ok {ε α β : Type} {step : α → β} {outcome : Except ε α} {result : β} :
    outcome.map step = .ok result ↔ ∃ value, outcome = .ok value ∧ step value = result := by
  cases outcome <;> simp [Except.map]

@[simp] theorem Except.mapError_ok {ε ε' α : Type} {step : ε → ε'} {value : α} :
    (Except.ok value : Except ε α).mapError step = .ok value := rfl

@[simp] theorem Except.mapError_error {ε ε' α : Type} {step : ε → ε'} {failure : ε} :
    (Except.error failure : Except ε α).mapError step = .error (step failure) := rfl

theorem Except.mapError_eq_ok {ε ε' α : Type} {step : ε → ε'} {outcome : Except ε α} {result : α} :
    outcome.mapError step = .ok result ↔ outcome = .ok result := by
  cases outcome <;> simp

/-- Each of some related items comes from one of the items that they are related to. -/
theorem exists_of_forall₂ {α β : Type} {related : α → β → Prop} {sources : List α}
    {items : List β} (all : List.Forall₂ related sources items) :
    ∀ item ∈ items, ∃ source ∈ sources, related source item := by
  induction all with
  | nil => simp
  | cons first _ ih =>
      refine List.forall_mem_cons.mpr ⟨⟨_, List.mem_cons_self, first⟩, fun item later => ?_⟩
      obtain ⟨source, isSource, comes⟩ := ih item later
      exact ⟨source, List.mem_cons_of_mem _ isSource, comes⟩

/-- A traversal comes to one result for each item, in the same order. -/
theorem Except.mapM_eq_ok {ε α β : Type} {step : α → Except ε β} {items : List α}
    {results : List β} :
    items.mapM step = .ok results ↔
      List.Forall₂ (fun item result => step item = .ok result) items results := by
  induction items generalizing results with
  | nil => cases results <;> simp [pure_eq_ok]
  | cons item items ih =>
      rw [List.mapM_cons, bind_eq_ok]
      simp only [bind_eq_ok, ih, pure_eq_ok]
      constructor
      · rintro ⟨first, stepped, others, traversed, rfl⟩
        exact .cons stepped traversed
      · intro related
        cases related with
        | cons stepped traversed => exact ⟨_, stepped, _, traversed, rfl⟩

theorem Except.mapM_eq_ok_map {ε α β : Type} {step : α → Except ε β} {value : α → β}
    {items : List α} (each : ∀ item ∈ items, step item = .ok (value item)) :
    items.mapM step = .ok (items.map value) :=
  mapM_eq_ok.mpr (List.forall₂_map_right_iff.mpr (List.forall₂_same.mpr each))

/-- A traversal comes to results if each item does. -/
theorem Except.exists_mapM {ε α β : Type} {step : α → Except ε β} {items : List α}
    (each : ∀ item ∈ items, ∃ result, step item = .ok result) :
    ∃ results, items.mapM step = .ok results := by
  induction items with
  | nil => exact ⟨[], rfl⟩
  | cons item items ih =>
      obtain ⟨first, others⟩ := List.forall_mem_cons.mp each
      obtain ⟨result, isResult⟩ := first
      obtain ⟨results, areResults⟩ := ih others
      exact ⟨result :: results, by rw [List.mapM_cons, isResult, areResults]; rfl⟩

theorem Except.exists_of_mem_mapM {ε α β : Type} {step : α → Except ε β} {items : List α}
    {results : List β} (traversed : items.mapM step = .ok results) :
    ∀ result ∈ results, ∃ item ∈ items, step item = .ok result :=
  exists_of_forall₂ (Except.mapM_eq_ok.mp traversed)

/-- Items that a test accepts are gathered in front of those before, the last one first. -/
theorem Except.filterAuxM_eq_ok {ε α : Type} {test : α → Except ε Bool}
    {items before gathered : List α} :
    items.filterAuxM test before = .ok gathered ↔
      (∀ item ∈ items, ∃ answer, test item = .ok answer) ∧
        gathered =
          (items.filter fun item => (test item).toOption == some true).reverse ++ before := by
  induction items generalizing before with
  | nil =>
      rw [List.filterAuxM, pure_eq_ok]
      simp [eq_comm]
  | cons item items ih =>
      rw [List.filterAuxM, bind_eq_ok]
      cases tested : test item with
      | error failure => simp [tested]
      | ok accepted => cases accepted <;> simp [tested, ih, Except.toOption]

/-- The items that a test accepts, if it comes to an answer for all of them. -/
theorem Except.filterM_eq_ok {ε α : Type} {test : α → Except ε Bool} {items kept : List α} :
    items.filterM test = .ok kept ↔
      (∀ item ∈ items, ∃ answer, test item = .ok answer) ∧
        kept = items.filter fun item => (test item).toOption == some true := by
  rw [List.filterM, bind_eq_ok]
  simp only [filterAuxM_eq_ok, pure_eq_ok, List.append_nil]
  constructor
  · rintro ⟨_, ⟨tested, rfl⟩, rfl⟩
    exact ⟨tested, List.reverse_reverse _⟩
  · rintro ⟨tested, rfl⟩
    exact ⟨_, ⟨tested, rfl⟩, List.reverse_reverse _⟩

namespace Logged

variable {α β : Type}

/-- The outcome of a computation that starts after some entries, and all entries
then. -/
def after (entries : List LogEntry) (computation : Logged α) :
    Except Failure α × List LogEntry :=
  computation.run.run entries

/-- The computation, started after some entries, returns a result. -/
def Returns (computation : Logged α) (entries : List LogEntry) (result : α)
    (log : List LogEntry) : Prop :=
  computation.after entries = (.ok result, log)

@[simp] theorem after_pure (value : α) (entries : List LogEntry) :
    after entries (pure value) = (.ok value, entries) := rfl

@[simp] theorem after_throw (failure : Failure) (entries : List LogEntry) :
    after entries (throw failure : Logged α) = (.error failure, entries) := rfl

@[simp] theorem after_note (entry : LogEntry) (entries : List LogEntry) :
    after entries (note entry) = (.ok (), entries ++ [entry]) := rfl

theorem after_bind (computation : Logged α) (next : α → Logged β) (entries : List LogEntry) :
    after entries (computation >>= next) =
      match computation.after entries with
      | (.ok value, log) => (next value).after log
      | (.error failure, log) => (.error failure, log) := by
  change ExceptT.bindCont next (computation entries).1 (computation entries).2 = _
  unfold after
  rcases ran : computation.run.run entries with ⟨outcome, log⟩
  have applied : computation entries = (outcome, log) := ran
  rw [applied]
  cases outcome <;> rfl

@[simp] theorem after_ofFault (outcome : Except Fault α) (entries : List LogEntry) :
    after entries (ofFault outcome) = (outcome.mapError .fault, entries) := by
  cases outcome <;> rfl

@[simp] theorem returns_pure {value result : α} {entries log : List LogEntry} :
    Returns (pure value) entries result log ↔ value = result ∧ entries = log := by
  simp [Returns]

@[simp] theorem returns_throw {failure : Failure} {result : α} {entries log : List LogEntry} :
    ¬ Returns (throw failure) entries result log := by
  simp [Returns]

@[simp] theorem returns_fail {error : StoreError} {result : α} {entries log : List LogEntry} :
    ¬ Returns (fail error) entries result log := returns_throw

@[simp] theorem returns_note {entry : LogEntry} {result : Unit} {entries log : List LogEntry} :
    Returns (note entry) entries result log ↔ entries ++ [entry] = log := by
  simp [Returns]

@[simp] theorem returns_ofFault {outcome : Except Fault α} {result : α}
    {entries log : List LogEntry} :
    Returns (ofFault outcome) entries result log ↔ outcome = .ok result ∧ entries = log := by
  rw [Returns, after_ofFault]
  cases outcome with
  | ok value =>
      change (Except.ok value, entries) = (.ok result, log) ↔ _
      simp
  | error fault =>
      change (Except.error (Failure.fault fault), entries) = (.ok result, log) ↔ _
      simp

/-- Two steps return if the first one returns and the second one goes on from
there. -/
@[simp] theorem returns_bind {computation : Logged α} {next : α → Logged β} {result : β}
    {entries log : List LogEntry} :
    Returns (computation >>= next) entries result log ↔
      ∃ value middle, Returns computation entries value middle ∧
        Returns (next value) middle result log := by
  simp only [Returns, after_bind]
  rcases computation.after entries with ⟨outcome, middle⟩
  cases outcome with
  | error failure => simp
  | ok value =>
      constructor
      · intro returned
        exact ⟨value, middle, rfl, returned⟩
      · rintro ⟨_, _, first, second⟩
        cases first
        exact second

@[simp] theorem returns_map {step : α → β} {computation : Logged α} {result : β}
    {entries log : List LogEntry} :
    Returns (step <$> computation) entries result log ↔
      ∃ value, Returns computation entries value log ∧ step value = result := by
  rw [map_eq_pure_bind, returns_bind]
  simp

end Logged

end DocStore
