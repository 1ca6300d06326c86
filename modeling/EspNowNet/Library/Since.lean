import Mathlib.Data.List.Infix

/- The past-time operator "since" over a history with the latest event first: something has
   happened, and nothing after it has undone it. -/
namespace Since
variable {ε : Type}

/-- A triggering event stands in the history, and every later event keeps what it has set off. -/
def Holds (triggers : List ε → ε → Prop) (keeps : ε → Prop) (history : List ε) : Prop :=
  ∃ newer event older, history = newer ++ event :: older ∧ triggers older event ∧
    ∀ later ∈ newer, keeps later

variable {triggers : List ε → ε → Prop} {keeps : ε → Prop} {event : ε} {older newer history : List ε}

theorem holds_nil : ¬ Holds triggers keeps [] := by
  rintro ⟨newer, event, older, whole, _⟩
  exact absurd whole.symm (List.append_ne_nil_of_right_ne_nil newer (List.cons_ne_nil event older))

theorem holds_cons : Holds triggers keeps (event :: older) ↔
    triggers older event ∨ keeps event ∧ Holds triggers keeps older := by
  constructor
  · rintro ⟨newer, first, rest, whole, fired, kept⟩
    cases newer with
    | nil =>
      obtain ⟨rfl, rfl⟩ := List.cons.inj whole
      exact Or.inl fired
    | cons latest newer =>
      obtain ⟨rfl, rfl⟩ := List.cons.inj whole
      refine Or.inr ⟨kept event List.mem_cons_self, newer, first, rest, rfl, fired, ?_⟩
      intro later member
      exact kept later (List.mem_cons_of_mem _ member)
  · rintro (fired | ⟨keeping, newer, first, rest, rfl, fired, kept⟩)
    · exact ⟨[], event, older, rfl, fired, by simp⟩
    · refine ⟨event :: newer, first, rest, rfl, fired, ?_⟩
      exact List.forall_mem_cons.mpr ⟨keeping, kept⟩

theorem Holds.append (holds : Holds triggers keeps history)
    (kept : ∀ later ∈ newer, keeps later) : Holds triggers keeps (newer ++ history) := by
  obtain ⟨between, event, older, rfl, fired, before⟩ := holds
  refine ⟨newer ++ between, event, older, (List.append_assoc ..).symm, fired, ?_⟩
  intro later member
  rcases List.mem_append.mp member with last | middle
  · exact kept later last
  · exact before later middle

end Since
