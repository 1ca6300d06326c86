import EspNowNet.Frame
import Mathlib.Data.Nat.ModEq

/- The single-producer single-consumer queues between the driver callbacks and the main
   loop. Head and tail are free-running 32-bit counters. -/
namespace EspNowNet

/-- The two counters are never further apart than the entries reach. -/
structure EspNowSpscQueue (α : Type) (capacity : Nat) where
  entries : List α
  head : UInt32
  tail : UInt32
  sized : entries.length = capacity
  bounded : (head - tail).toNat ≤ capacity

namespace EspNowSpscQueue
variable {α : Type} {capacity : Nat}

def empty [Inhabited α] : EspNowSpscQueue α capacity where
  entries := List.replicate capacity default
  head := 0
  tail := 0
  sized := List.length_replicate
  bounded := Nat.zero_le _

def size (q : EspNowSpscQueue α capacity) : Nat := (q.head - q.tail).toNat

theorem succ_sub_le {head tail : UInt32} (room : (head - tail).toNat < capacity) :
    (head + 1 - tail).toNat ≤ capacity := by
  have moved : head + 1 - tail = (head - tail) + 1 := by grind
  rw [moved, UInt32.toNat_add]
  exact Nat.le_trans (Nat.mod_le _ _) room

theorem toNat_sub_succ {head tail : UInt32} (different : tail ≠ head) :
    (head - (tail + 1)).toNat = (head - tail).toNat - 1 := by
  have moved : head - (tail + 1) = (head - tail) - 1 := by grind
  have positive : head - tail ≠ 0 := by
    intro zero
    exact different (by grind)
  have atLeast : (1 : UInt32) ≤ head - tail := by
    rw [UInt32.le_iff_toNat_le]
    have : (head - tail).toNat ≠ 0 := fun zero => positive (UInt32.toNat_inj.mp zero)
    simpa using Nat.one_le_iff_ne_zero.mpr this
  rw [moved, UInt32.toNat_sub_of_le _ _ atLeast]
  rfl

def push (q : EspNowSpscQueue α capacity) (value : α) : Bool × EspNowSpscQueue α capacity :=
  if room : (q.head - q.tail).toNat < capacity then
    (true, {
      entries := q.entries.set (q.head.toNat % capacity) value
      head := q.head + 1
      tail := q.tail
      sized := by simpa using q.sized
      bounded := succ_sub_le room })
  else (false, q)

def pop [Inhabited α] (q : EspNowSpscQueue α capacity) : Option α × EspNowSpscQueue α capacity :=
  if different : q.tail ≠ q.head then
    (some (q.entries.getD (q.tail.toNat % capacity) default), {
      entries := q.entries
      head := q.head
      tail := q.tail + 1
      sized := q.sized
      bounded := by
        have := q.bounded
        rw [toNat_sub_succ different]
        omega })
  else (none, q)

/-- At most `limit` pops, stopping at an empty queue. -/
def discard [Inhabited α] (q : EspNowSpscQueue α capacity) : Nat → EspNowSpscQueue α capacity
  | 0 => q
  | limit + 1 =>
    match q.pop with
    | (none, q) => q
    | (some _, q) => q.discard limit

theorem size_le (q : EspNowSpscQueue α capacity) : q.size ≤ capacity := q.bounded

theorem head_eq (q : EspNowSpscQueue α capacity) :
    q.head.toNat = (q.tail.toNat + q.size) % 2 ^ 32 := by
  have whole : q.head = q.tail + (q.head - q.tail) := by grind
  rw [size, ← UInt32.toNat_add, ← whole]

/-- The values that are queued, oldest first. -/
def contents [Inhabited α] (q : EspNowSpscQueue α capacity) : List α :=
  (List.range q.size).map fun i => q.entries.getD ((q.tail.toNat + i) % capacity) default

section Contents
variable {q q' : EspNowSpscQueue α capacity} {value : α}

theorem push_mem_entries {other : α} (member : other ∈ (q.push value).2.entries) :
    other ∈ q.entries ∨ other = value := by
  unfold push at member
  split at member
  · exact List.mem_or_eq_of_mem_set member
  · exact Or.inl member

theorem push_false (run : q.push value = (false, q')) : q' = q ∧ q.size = capacity := by
  unfold push at run
  split at run
  · simp at run
  · rename_i full
    refine ⟨by simpa using run.symm, ?_⟩
    have := q.size_le
    simp only [size] at *
    omega

variable [Inhabited α]

theorem contents_empty : (empty : EspNowSpscQueue α capacity).contents = [] := by
  simp [contents, size, empty]

theorem contents_length : q.contents.length = q.size := by
  simp [contents]

theorem pop_none_iff : q.pop.1 = none ↔ q.size = 0 := by
  unfold pop size
  split
  · rename_i different
    have : (q.head - q.tail).toNat ≠ 0 := by
      intro zero
      have same : q.head - q.tail = 0 := UInt32.toNat_inj.mp zero
      exact different (by grind)
    simp [this]
  · rename_i same
    have : q.head - q.tail = 0 := by grind
    simp [this]

theorem pop_none (run : q.pop = (none, q')) : q' = q ∧ q.contents = [] := by
  have vacant : q.size = 0 := pop_none_iff.mp (by rw [run])
  refine ⟨?_, by simp [contents, vacant]⟩
  unfold pop at run
  split at run
  · simp at run
  · exact (by simpa using run.symm)

/-- A popped value lay in one of the entries. -/
theorem pop_mem_entries (positive : 0 < capacity) (run : q.pop = (some value, q')) :
    value ∈ q.entries ∧ q'.entries = q.entries := by
  unfold pop at run
  split at run
  · simp only [Prod.mk.injEq, Option.some.injEq] at run
    obtain ⟨rfl, rfl⟩ := run
    have inside : q.tail.toNat % capacity < q.entries.length := by
      rw [q.sized]
      exact Nat.mod_lt _ positive
    refine ⟨?_, rfl⟩
    rw [List.getD_eq_getElem?_getD, List.getElem?_eq_getElem inside]
    exact List.getElem_mem inside
  · simp at run

/- A slot index does not jump when a counter wraps, as long as the capacity divides the
   counter range. -/
variable (divides : capacity ∣ 2 ^ 32) (range : capacity < 2 ^ 32)
include divides

theorem wrapped_slot (counter : UInt32) (i : Nat) :
    ((counter + 1).toNat + i) % capacity = (counter.toNat + (i + 1)) % capacity := by
  have wrap : (counter + 1).toNat = (counter.toNat + 1) % 2 ^ 32 := UInt32.toNat_add _ _
  rw [wrap, Nat.add_mod, Nat.mod_mod_of_dvd _ divides, ← Nat.add_mod]
  congr 1
  omega

theorem pop_some (run : q.pop = (some value, q')) : q.contents = value :: q'.contents := by
  have occupied : q.size ≠ 0 := by
    intro vacant
    have := pop_none_iff.mpr vacant
    simp [run] at this
  obtain ⟨n, count⟩ := Nat.exists_eq_succ_of_ne_zero occupied
  unfold pop at run
  split at run
  · rename_i different
    simp only [Prod.mk.injEq, Option.some.injEq] at run
    obtain ⟨rfl, rfl⟩ := run
    have shrunk : (q.head - (q.tail + 1)).toNat = n := by
      rw [toNat_sub_succ different]
      change q.size - 1 = n
      omega
    have later (i : Nat) : q.entries.getD ((q.tail.toNat + (i + 1)) % capacity) default =
        q.entries.getD (((q.tail + 1).toNat + i) % capacity) default := by
      rw [wrapped_slot divides]
    unfold contents
    rw [count, List.range_succ_eq_map, List.map_cons, List.map_map]
    simp only [size, shrunk, Nat.add_zero]
    congr 1
    exact List.map_congr_left fun i _ => later i
  · simp at run

include range

theorem push_true (run : q.push value = (true, q')) : q'.contents = q.contents ++ [value] := by
  unfold push at run
  split at run
  · rename_i room
    simp only [Prod.mk.injEq, true_and] at run
    subst run
    change q.size < capacity at room
    have grown : (q.head + 1 - q.tail).toNat = q.size + 1 := by
      have moved : q.head + 1 - q.tail = (q.head - q.tail) + 1 := by grind
      rw [moved, UInt32.toNat_add]
      exact Nat.mod_eq_of_lt (by change q.size + 1 < 2 ^ 32; omega)
    have slot : q.head.toNat % capacity = (q.tail.toNat + q.size) % capacity := by
      rw [head_eq, Nat.mod_mod_of_dvd _ divides]
    have inside : (q.tail.toNat + q.size) % capacity < q.entries.length := by
      rw [q.sized]
      exact Nat.mod_lt _ (by omega)
    change (List.range (q.head + 1 - q.tail).toNat).map _ = (List.range q.size).map _ ++ _
    rw [grown, List.range_succ, List.map_append, List.map_cons, List.map_nil]
    simp only [slot, List.getD_eq_getElem?_getD]
    congr 1
    · apply List.map_congr_left
      intro i member
      have earlier : i < q.size := List.mem_range.mp member
      have apart : (q.tail.toNat + q.size) % capacity ≠ (q.tail.toNat + i) % capacity := by
        intro same
        have cancelled : q.size ≡ i [MOD capacity] :=
          Nat.ModEq.add_left_cancel' q.tail.toNat same
        have := Nat.ModEq.eq_of_lt_of_lt cancelled room (by omega)
        omega
      simp [List.getElem?_set_ne apart]
    · simp [List.getElem?_set_self inside]
  · simp at run

omit range

theorem discard_suffix (limit : Nat) : (q.discard limit).contents <:+ q.contents := by
  induction limit generalizing q with
  | zero => exact List.suffix_rfl
  | succ limit ih =>
    unfold discard
    split
    · rename_i run
      exact (pop_none run).1 ▸ List.suffix_rfl
    · rename_i run
      rw [pop_some divides run]
      exact ih.trans (List.suffix_cons _ _)

theorem discard_all (limit : Nat) (enough : q.size ≤ limit) : (q.discard limit).contents = [] := by
  induction limit generalizing q with
  | zero => simpa [contents, discard] using enough
  | succ limit ih =>
    unfold discard
    split
    · rename_i run
      rw [(pop_none run).1]
      exact (pop_none run).2
    · rename_i run
      apply ih
      have counted := congrArg List.length (pop_some divides run)
      rw [contents_length, List.length_cons, contents_length] at counted
      omega

end Contents

theorem discard_entries [Inhabited α] {q : EspNowSpscQueue α capacity} (limit : Nat) :
    (q.discard limit).entries = q.entries := by
  induction limit generalizing q with
  | zero => rfl
  | succ limit ih =>
    unfold discard pop
    by_cases different : q.tail ≠ q.head
    · simpa [different] using ih
    · simp [different]

end EspNowSpscQueue

/-- A received frame with the peer its address belongs to. -/
structure EspNowReceivedFrame where
  peerIndex : PeerIndex := 0
  frame : EspNowRadioFrame := .clear
  deriving DecidableEq

instance EspNowReceivedFrame.inhabited : Inhabited EspNowReceivedFrame := ⟨{}⟩

/-- The driver reports only the peer and the status. `frame` is a history variable: the
    number of the transmission the driver is reporting on, which no function reads. -/
structure EspNowSendCompletion where
  peerIndex : PeerIndex := 0
  succeeded : Bool := false
  frame : Nat := 0
  deriving DecidableEq

instance EspNowSendCompletion.inhabited : Inhabited EspNowSendCompletion := ⟨{}⟩

end EspNowNet
