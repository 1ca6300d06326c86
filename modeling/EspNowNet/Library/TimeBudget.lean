import Mathlib.Data.List.Basic

/- Runs of actions that take time, and work that has a budget of it. As long as the work goes on,
   an action uses up what it takes of the budget, apart from the extra time it is allowed; so the
   work is finished when a run has taken more than the budget and all its extra time. -/
namespace TimeBudget
variable {σ α : Type} (apply : σ → α → σ)

/-- What the single actions of a run amount to. -/
def total (amount : σ → α → Nat) : σ → List α → Nat
  | _, [] => 0
  | s, action :: later => amount s action + total amount (apply s action) later

/-- Each action of a run is taken in a state that permits it. -/
def Along (permits : σ → α → Prop) : σ → List α → Prop
  | _, [] => True
  | s, action :: later => permits s action ∧ Along permits (apply s action) later

instance decidableAlong (permits : σ → α → Prop) [∀ s action, Decidable (permits s action)] :
    ∀ (s : σ) (run : List α), Decidable (Along apply permits s run)
  | _, [] => inferInstanceAs (Decidable True)
  | s, action :: later =>
    have := decidableAlong permits (apply s action) later
    inferInstanceAs (Decidable (_ ∧ _))

/-- What one action does to work that may be finished. -/
structure Spends (permits : σ → α → Prop) (invariant finished : σ → Prop)
    (cost extra : σ → α → Nat) (budget : σ → Nat) : Prop where
  keeps : ∀ s action, invariant s → invariant (apply s action)
  stays : ∀ s action, invariant s → finished s → finished (apply s action)
  spends : ∀ s action, invariant s → permits s action → ¬ finished (apply s action) →
    budget (apply s action) + cost s action ≤ budget s + extra s action

namespace Spends
variable {apply} {permits : σ → α → Prop} {invariant finished : σ → Prop}
  {cost extra : σ → α → Nat} {budget : σ → Nat} {s : σ} {run : List α}

theorem stays_run (spends : Spends apply permits invariant finished cost extra budget)
    (holds : invariant s) (done : finished s) : finished (run.foldl apply s) := by
  induction run generalizing s with
  | nil => exact done
  | cons action later ih => exact ih (spends.keeps s action holds) (spends.stays s action holds done)

/-- What is left after a run, and what the run has taken, were there before it. -/
theorem spent_run (spends : Spends apply permits invariant finished cost extra budget)
    (holds : invariant s) (along : Along apply permits s run)
    (unfinished : ¬ finished (run.foldl apply s)) :
    budget (run.foldl apply s) + total apply cost s run ≤ budget s + total apply extra s run := by
  induction run generalizing s with
  | nil => exact Nat.le_refl _
  | cons action later ih =>
    have next := spends.keeps s action holds
    have going : ¬ finished (apply s action) := by
      intro done
      exact unfinished (spends.stays_run (s := apply s action) next done)
    have first := spends.spends s action holds along.1 going
    have rest := ih next along.2 unfinished
    simp only [List.foldl_cons, total]
    omega

theorem finished_run (spends : Spends apply permits invariant finished cost extra budget)
    (holds : invariant s) (along : Along apply permits s run)
    (exhausted : budget s + total apply extra s run < total apply cost s run) :
    finished (run.foldl apply s) := by
  by_contra unfinished
  have within := spends.spent_run holds along unfinished
  omega

end Spends

end TimeBudget
