import Mathlib.Data.List.Basic
import Mathlib.Data.Nat.ModEq

/- A ring of `capacity` entries as a window over everything ever pushed into it.
   Histories are newest first, so the window is a prefix of the history. -/
namespace RecentWindow
variable {α : Type}

structure Ring (α : Type) where
  entries : List α
  count : Nat
  next : Nat

def Ring.push (capacity : Nat) (ring : Ring α) (value : α) : Ring α where
  entries := ring.entries.set ring.next value
  count := if ring.count < capacity then ring.count + 1 else ring.count
  next := (ring.next + 1) % capacity

def Ring.live (ring : Ring α) : List α := ring.entries.take ring.count

/-- The ring holds the newest `capacity` values of the history, each at the slot
    its own position in the history selects. -/
structure Tracks (capacity : Nat) (ring : Ring α) (history : List α) : Prop where
  length : ring.entries.length = capacity
  next : ring.next = history.length % capacity
  count : ring.count = min history.length capacity
  slot : ∀ i, i < ring.count →
    ring.entries[(history.length - 1 - i) % capacity]? = history[i]?

theorem tracks_nil {capacity : Nat} (entries : List α) (length : entries.length = capacity) :
    Tracks capacity ⟨entries, 0, 0⟩ [] := by
  refine ⟨length, by simp, by simp, ?_⟩
  intro i bound
  simp at bound

theorem slot_ne_next {capacity n i : Nat} (small : i + 1 < capacity) (old : i < n) :
    (n - 1 - i) % capacity ≠ n % capacity := by
  intro same
  have apart : n = (n - 1 - i) + (i + 1) := by omega
  have zero : (i + 1) % capacity = 0 := by
    have shifted : ((n - 1 - i) + (i + 1)) % capacity = ((n - 1 - i) + 0) % capacity := by
      rw [← apart, Nat.add_zero, same]
    have cancelled : i + 1 ≡ 0 [MOD capacity] := Nat.ModEq.add_left_cancel' (n - 1 - i) shifted
    simpa [Nat.ModEq] using cancelled
  rw [Nat.mod_eq_of_lt small] at zero
  omega

theorem tracks_push {capacity : Nat} (positive : 0 < capacity) {ring : Ring α}
    {history : List α} (tracks : Tracks capacity ring history) (value : α) :
    Tracks capacity (ring.push capacity value) (value :: history) := by
  obtain ⟨length, next, count, slot⟩ := tracks
  refine ⟨by simpa [Ring.push] using length, ?_, ?_, ?_⟩
  · simp [Ring.push, next]
  · simp only [Ring.push, List.length_cons]
    split <;> omega
  · intro i bound
    have countBound : ring.count ≤ capacity := by omega
    cases i with
    | zero =>
      have inside : history.length % capacity < ring.entries.length := by
        rw [length]; exact Nat.mod_lt _ positive
      simp [Ring.push, next, inside]
    | succ i =>
      have older : i < ring.count ∧ i + 1 < capacity := by
        simp only [Ring.push] at bound
        split at bound <;> omega
      have apart := slot_ne_next older.2 (show i < history.length by omega)
      have index : history.length + 1 - 1 - (i + 1) = history.length - 1 - i := by omega
      simp only [Ring.push, List.length_cons, index, next, List.getElem?_cons_succ]
      rw [List.getElem?_set_ne (Ne.symm apart)]
      exact slot i older.1

theorem newest_of_slot {capacity n j : Nat} (small : j < capacity) (old : j < n) :
    (n - 1 - (n - 1 - j) % capacity) % capacity = j := by
  have split := Nat.div_add_mod (n - 1 - j) capacity
  have index : n - 1 - (n - 1 - j) % capacity = j + capacity * ((n - 1 - j) / capacity) := by
    omega
  rw [index, Nat.add_mul_mod_self_left, Nat.mod_eq_of_lt small]

/-- What the ring answers for is exactly the newest `capacity` values. -/
theorem mem_live_iff {capacity : Nat} (positive : 0 < capacity) {ring : Ring α}
    {history : List α} (tracks : Tracks capacity ring history) (value : α) :
    value ∈ ring.live ↔ value ∈ history.take capacity := by
  obtain ⟨length, _, count, slot⟩ := tracks
  simp only [Ring.live, List.mem_iff_getElem?, List.getElem?_take]
  constructor
  · rintro ⟨j, found⟩
    split at found
    · rename_i live
      have small : j < capacity := by omega
      have old : j < history.length := by omega
      have reached := newest_of_slot small old
      have position : (history.length - 1 - j) % capacity < ring.count := by
        have := Nat.mod_lt (history.length - 1 - j) positive
        have := Nat.mod_le (history.length - 1 - j) capacity
        omega
      have same := slot _ position
      rw [reached, found] at same
      exact ⟨(history.length - 1 - j) % capacity, by rw [if_pos (by omega)]; exact same.symm⟩
    · simp at found
  · rintro ⟨i, found⟩
    split at found
    · rename_i small
      have old : i < history.length := (List.getElem?_eq_some_iff.mp found).1
      have live : i < ring.count := by omega
      have same := slot i live
      have position : (history.length - 1 - i) % capacity < ring.count := by
        have := Nat.mod_lt (history.length - 1 - i) positive
        have := Nat.mod_le (history.length - 1 - i) capacity
        omega
      exact ⟨(history.length - 1 - i) % capacity, by rw [if_pos position, same]; exact found⟩
    · simp at found

/-- Unrolled from its oldest slot on, a ring gives the window back in the order of the pushes. -/
theorem oldest_first {capacity i : Nat} {ring : Ring α} {history : List α}
    (tracks : Tracks capacity ring history) (live : i < ring.count) :
    ring.entries[(ring.next + capacity - ring.count + i) % capacity]? =
      history[ring.count - 1 - i]? := by
  obtain ⟨_, next, count, slot⟩ := tracks
  have newest := slot (ring.count - 1 - i) (by omega)
  have whole := Nat.div_add_mod history.length capacity
  have places : ring.next + capacity - ring.count + i + capacity * (history.length / capacity) =
      history.length - 1 - (ring.count - 1 - i) + capacity := by omega
  have wraps : (ring.next + capacity - ring.count + i) % capacity =
      (history.length - 1 - (ring.count - 1 - i)) % capacity := by
    rw [← Nat.add_mul_mod_self_left, places, Nat.add_mod_right]
  rw [wraps, newest]

/-- Any `capacity + 1` consecutive values of the history are different: a value only comes
    again after `capacity` others. -/
def Spread (capacity : Nat) (history : List α) : Prop :=
  ∀ n, ((history.drop n).take (capacity + 1)).Nodup

theorem spread_nil (capacity : Nat) : Spread capacity ([] : List α) := by
  intro n
  simp

theorem spread_cons {capacity : Nat} {history : List α} {value : α}
    (spread : Spread capacity history) (absent : value ∉ history.take capacity) :
    Spread capacity (value :: history) := by
  intro n
  cases n with
  | zero =>
    rw [List.drop_zero, List.take_succ_cons, List.nodup_cons]
    refine ⟨absent, (spread 0).sublist ?_⟩
    rw [List.drop_zero]
    exact (List.take_prefix_take_left (Nat.le_succ capacity)).sublist
  | succ n => exact spread n

end RecentWindow
