import Mathlib.Logic.Relation

/- Invariants over runs. A state may carry a history of what has happened, which a step only
   extends; a guarded invariant holds as long as nothing bad stands in the history. -/
namespace GuardedInvariant
open Relation
variable {σ ε : Type} {step : σ → σ → Prop}

theorem preserved (invariant : σ → Prop)
    (keeps : ∀ {a b}, invariant a → step a b → invariant b) {a b : σ}
    (run : ReflTransGen step a b) (start : invariant a) : invariant b := by
  induction run with
  | refl => exact start
  | tail _ last ih => exact keeps ih last

/-- A step only puts new events in front of the history. -/
def Extends (history : σ → List ε) (step : σ → σ → Prop) : Prop :=
  ∀ a b, step a b → history a <:+ history b

theorem extends_run {history : σ → List ε} (grows : Extends history step) {a b : σ}
    (run : ReflTransGen step a b) : history a <:+ history b := by
  induction run with
  | refl => exact List.suffix_rfl
  | tail _ last ih => exact ih.trans (grows _ _ last)

def Clear (good : ε → Prop) (history : List ε) : Prop := ∀ event ∈ history, good event

theorem Clear.of_suffix {good : ε → Prop} {older newer : List ε} (clear : Clear good newer)
    (extended : older <:+ newer) : Clear good older :=
  fun event member => clear event (extended.subset member)

/-- If a step keeps the invariant whenever the history it leaves is permitted, then a run that
    ends with a permitted history ends in the invariant: what came before was permitted too. -/
theorem guardedBy {history : σ → List ε} (grows : Extends history step)
    (permitted : List ε → Prop)
    (closed : ∀ {older newer}, older <:+ newer → permitted newer → permitted older)
    (invariant : σ → Prop)
    (keeps : ∀ {a b}, permitted (history b) → invariant a → step a b → invariant b) {a b : σ}
    (run : ReflTransGen step a b) (start : invariant a) (ends : permitted (history b)) :
    invariant b := by
  induction run with
  | refl => exact start
  | tail _ last ih => exact keeps ends (ih (closed (grows _ _ last) ends)) last

/-- The same with a history in which every event is good. -/
theorem guarded {history : σ → List ε} (grows : Extends history step)
    (good : ε → Prop) (invariant : σ → Prop)
    (keeps : ∀ {a b}, Clear good (history b) → invariant a → step a b → invariant b) {a b : σ}
    (run : ReflTransGen step a b) (start : invariant a) (clear : Clear good (history b)) :
    invariant b :=
  guardedBy grows (Clear good) (fun extended clear => clear.of_suffix extended) invariant keeps run
    start clear

/-- Every event is allowed on its own past. -/
def Throughout (allowed : List ε → ε → Prop) (history : List ε) : Prop :=
  ∀ event older, event :: older <:+ history → allowed older event

section Throughout
variable {allowed : List ε → ε → Prop} {event : ε} {older newer history : List ε}

theorem throughout_nil : Throughout allowed [] := by
  intro event older present
  exact absurd (List.suffix_nil.mp present) (List.cons_ne_nil _ _)

theorem throughout_cons :
    Throughout allowed (event :: older) ↔ allowed older event ∧ Throughout allowed older := by
  constructor
  · intro throughout
    constructor
    · exact throughout event older List.suffix_rfl
    · intro other past present
      exact throughout other past (present.trans (List.suffix_cons _ _))
  · rintro ⟨first, earlier⟩ other past present
    rcases List.suffix_cons_iff.mp present with same | before
    · obtain ⟨rfl, rfl⟩ := List.cons.inj same
      exact first
    · exact earlier other past before

theorem Throughout.of_suffix (throughout : Throughout allowed newer) (extended : older <:+ newer) :
    Throughout allowed older :=
  fun other past present => throughout other past (present.trans extended)

theorem Throughout.append (throughout : Throughout allowed older)
    (each : ∀ event ∈ newer, ∀ past, allowed past event) : Throughout allowed (newer ++ older) := by
  induction newer with
  | nil => exact throughout
  | cons event newer ih =>
    rw [List.cons_append, throughout_cons]
    constructor
    · exact each event List.mem_cons_self _
    · exact ih fun other member => each other (List.mem_cons_of_mem _ member)

variable (allowed)

def throughout [∀ older event, Decidable (allowed older event)] : List ε → Bool
  | [] => true
  | event :: older => decide (allowed older event) && throughout older

theorem throughout_iff [∀ older event, Decidable (allowed older event)] (history : List ε) :
    throughout allowed history = true ↔ Throughout allowed history := by
  induction history with
  | nil => exact iff_of_true rfl throughout_nil
  | cons event older ih =>
    rw [throughout_cons, throughout, Bool.and_eq_true, ih, decide_eq_true_eq]

instance decidableThroughout [∀ older event, Decidable (allowed older event)] (history : List ε) :
    Decidable (Throughout allowed history) :=
  decidable_of_iff _ (throughout_iff allowed history)

end Throughout

/-- An event of a kind the newer ones are not of was there before, with the same past. -/
theorem suffix_of_aside {kind : ε → Prop} {newer older rest : List ε} {event : ε}
    (aside : ∀ other ∈ newer, ¬ kind other) (own : kind event)
    (present : event :: rest <:+ newer ++ older) : event :: rest <:+ older := by
  induction newer with
  | nil => exact present
  | cons first newer ih =>
    rcases List.suffix_cons_iff.mp present with same | later
    · have head := (List.cons.inj same).1
      exact absurd (head ▸ own) (aside first List.mem_cons_self)
    · exact ih (fun other member => aside other (List.mem_cons_of_mem _ member)) later

end GuardedInvariant
