import EspNowNet.Library.GuardedInvariant

/- A log of what has happened and when, the latest record first. Whatever one call brings about has
   the instant of the call. -/
namespace TimedLog
open GuardedInvariant

structure TimedRecord (ε : Type) where
  instant : Nat
  event : ε
  deriving DecidableEq

variable {ε : Type} {instant : Nat} {events : List ε} {record : TimedRecord ε}
  {log : List (TimedRecord ε)}

/-- The events of one call, which come in this order. -/
def stamped (instant : Nat) (events : List ε) : List (TimedRecord ε) :=
  (events.map (TimedRecord.mk instant)).reverse

theorem mem_stamped :
    record ∈ stamped instant events ↔ record.instant = instant ∧ record.event ∈ events := by
  unfold stamped
  rw [List.mem_reverse, List.mem_map]
  constructor
  · rintro ⟨event, member, rfl⟩
    exact ⟨rfl, member⟩
  · rintro ⟨rfl, member⟩
    exact ⟨record.event, member, rfl⟩

theorem stamped_append (instant : Nat) (first second : List ε) :
    stamped instant (first ++ second) = stamped instant second ++ stamped instant first := by
  unfold stamped
  rw [List.map_append, List.reverse_append]

theorem map_event_stamped (instant : Nat) (events : List ε) :
    (stamped instant events).map TimedRecord.event = events.reverse := by
  unfold stamped
  rw [List.map_reverse, List.map_map]
  exact congrArg List.reverse (List.map_id events)

theorem past_stamped (past : ∀ record ∈ log, record.instant ≤ instant) :
    ∀ record ∈ stamped instant events ++ log, record.instant ≤ instant := by
  intro record member
  rcases List.mem_append.mp member with new | old
  · exact Nat.le_of_eq (mem_stamped.mp new).1
  · exact past record old

theorem throughout_stamped {allowed : List (TimedRecord ε) → TimedRecord ε → Prop}
    {kind : ε} (only : ∀ older record, record.event ≠ kind → allowed older record)
    (throughout : Throughout allowed log) (none : kind ∉ events) :
    Throughout allowed (stamped instant events ++ log) := by
  apply throughout.append
  intro record member past
  apply only
  intro own
  exact none (own ▸ (mem_stamped.mp member).2)

end TimedLog
