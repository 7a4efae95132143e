import DocStore.Proofs.Surroundings
import Mathlib.Logic.Function.Basic
import Mathlib.Logic.Relation

/-!
# Programs side by side

Programs run at the same time on one layer below.  The layer answers a call in one step,
and the answer may change a state that all programs share.  Between two steps of a program
any number of steps of others may come.

What holds of all runs follows from one step, as for a single program: each program has
surroundings of its own, and an answer to one program belongs to its surroundings as long
as the shared state agrees with what all programs have seen.
-/

namespace DocStore

/-- The replies to a call with the shared states that they leave. -/
abbrev Answering (below : Interface) (σ : Type) :=
  σ → (call : below.Call) → below.Reply call → σ → Prop

/-- What is left of programs that run at the same time, and the state that they share. -/
structure Concurrent (below : Interface) (ι σ α : Type) where
  shared : σ
  programs : ι → Program below α

namespace Concurrent

variable {below : Interface} {ι σ α ν : Type} {answering : Answering below σ}

/-! ## What programs ensure together -/

variable (around : ι → Surroundings below ν) (agrees : σ → (ι → ν) → Prop)
  (goal : ι → α → ν → Prop)

/-- The shared state agrees with what the programs have seen, and from there each program
ensures its goal. -/
def Sound (running : Concurrent below ι σ α) : Prop :=
  ∃ seen, agrees running.shared seen ∧
    ∀ index, (running.programs index).Ensures (around index) (seen index) (goal index)

variable {around agrees goal}

theorem Sound.permits {running : Concurrent below ι σ α} {index : ι} {call : below.Call}
    {next : below.Reply call → Program below α} (sound : running.Sound around agrees goal)
    (goesOn : running.programs index = .ask call next) :
    ∃ seen, agrees running.shared seen ∧ (around index).permits (seen index) call := by
  obtain ⟨seen, agreed, ensured⟩ := sound
  have own := ensured index
  rw [goesOn] at own
  exact ⟨seen, agreed, own.1⟩

/-! ## Steps -/

variable [DecidableEq ι]

def advance (running : Concurrent below ι σ α) (index : ι) (next : Program below α)
    (shared : σ) : Concurrent below ι σ α :=
  { shared, programs := Function.update running.programs index next }

inductive StepOf (answering : Answering below σ) (index : ι) (before : Concurrent below ι σ α) :
    Concurrent below ι σ α → Prop where
  | note {entry : LogEntry} {next : Program below α}
      (goesOn : before.programs index = .note entry next) :
      StepOf answering index before (before.advance index next before.shared)
  | ask {call : below.Call} {next : below.Reply call → Program below α}
      {reply : below.Reply call} {shared : σ} (goesOn : before.programs index = .ask call next)
      (answered : answering before.shared call reply shared) :
      StepOf answering index before (before.advance index (next reply) shared)

def Step (answering : Answering below σ) (before after : Concurrent below ι σ α) : Prop :=
  ∃ index, StepOf answering index before after

/-- Any number of steps, in any order. -/
def Reaches (answering : Answering below σ) :
    Concurrent below ι σ α → Concurrent below ι σ α → Prop :=
  Relation.ReflTransGen (Step answering)

/-- An answer to a program that asks what it is permitted belongs to its surroundings, and
the state agrees again with what the programs have seen. -/
def Keeps (around : ι → Surroundings below ν) (agrees : σ → (ι → ν) → Prop)
    (answering : Answering below σ) : Prop :=
  ∀ index shared seen call reply after, agrees shared seen →
    (around index).permits (seen index) call → answering shared call reply after →
      ∃ later, (around index).replies (seen index) call reply later ∧
        agrees after (Function.update seen index later)

theorem ensures_update {programs : ι → Program below α} {seen : ι → ν} {index : ι}
    {next : Program below α} {later : ν}
    (ensured : ∀ other, (programs other).Ensures (around other) (seen other) (goal other))
    (continues : next.Ensures (around index) later (goal index)) (other : ι) :
    (Function.update programs index next other).Ensures (around other)
      (Function.update seen index later other) (goal other) := by
  by_cases same : other = index
  · subst same
    rw [Function.update_self, Function.update_self]
    exact continues
  · rw [Function.update_of_ne same, Function.update_of_ne same]
    exact ensured other

theorem Sound.stepOf (keeps : Keeps around agrees answering)
    {before after : Concurrent below ι σ α} {index : ι} (sound : before.Sound around agrees goal)
    (step : StepOf answering index before after) : after.Sound around agrees goal := by
  obtain ⟨seen, agreed, ensured⟩ := sound
  have own := ensured index
  cases step with
  | note goesOn =>
      rw [goesOn] at own
      -- the others have seen nothing new, and neither has this one
      have unchanged : Function.update seen index (seen index) = seen :=
        Function.update_eq_self index seen
      refine ⟨_, ?_, ensures_update ensured own⟩
      rw [unchanged]
      exact agreed
  | @ask call next reply shared goesOn answered =>
      rw [goesOn] at own
      obtain ⟨permitted, continues⟩ := own
      obtain ⟨later, replied, agreedAfter⟩ :=
        keeps index before.shared seen call reply shared agreed permitted answered
      exact ⟨_, agreedAfter, ensures_update ensured (continues reply later replied)⟩

/-- Soundness holds in all states that are reached, whichever program takes each step. -/
theorem Sound.reaches (keeps : Keeps around agrees answering)
    {before after : Concurrent below ι σ α} (sound : before.Sound around agrees goal)
    (reaches : Reaches answering before after) : after.Sound around agrees goal := by
  induction reaches with
  | refl => exact sound
  | tail _ step ih =>
      obtain ⟨index, step⟩ := step
      exact ih.stepOf keeps step

end Concurrent

end DocStore
