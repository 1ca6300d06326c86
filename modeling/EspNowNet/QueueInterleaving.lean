import EspNowNet.RadioQueue

/- The queue between a driver callback and the main loop, one load or store at a time. The
   producer and the consumer take turns in any order; each compares what it has loaded, not
   what the counters are by then. -/
namespace EspNowNet

/-- How far a push has come: it holds its value and the head it has loaded. -/
inductive QueueProducer (α : Type) where
  | idle
  | headLoaded (value : α) (head : UInt32)
  | admitted (value : α) (head : UInt32)
  | written (value : α) (head : UInt32)
  deriving DecidableEq

/-- How far a pop has come: it holds the tail it has loaded, and at last a value. -/
inductive QueueConsumer (α : Type) where
  | idle
  | tailLoaded (tail : UInt32)
  | admitted (tail : UInt32)
  | holding (tail : UInt32) (value : α)
  deriving DecidableEq

/-- The lists are history: the values whose push or pop has returned true, and the number of
    values that were queued at each push and each pop that returned false. -/
structure QueueRun (α : Type) where
  entries : List α
  head : UInt32 := 0
  tail : UInt32 := 0
  producer : QueueProducer α := .idle
  consumer : QueueConsumer α := .idle
  pushed : List α := []
  popped : List α := []
  refused : List Nat := []
  starved : List Nat := []

inductive QueueAction (α : Type) where
  | push (value : α)
  | producer
  | pop
  | consumer
  deriving DecidableEq

namespace QueueRun
variable {α : Type}

def slot (capacity : Nat) (counter : UInt32) : Nat := counter.toNat % capacity

def queued (s : QueueRun α) : Nat := s.pushed.length - s.popped.length

def beginPush (s : QueueRun α) (value : α) : QueueRun α :=
  match s.producer with
  | .idle => { s with producer := .headLoaded value s.head }
  | _ => s

def produce (capacity : Nat) (s : QueueRun α) : QueueRun α :=
  match s.producer with
  | .idle => s
  | .headLoaded value head =>
    if (head - s.tail).toNat ≥ capacity then
      { s with producer := .idle, refused := s.queued :: s.refused }
    else { s with producer := .admitted value head }
  | .admitted value head =>
    { s with entries := s.entries.set (slot capacity head) value, producer := .written value head }
  | .written value head =>
    { s with head := head + 1, producer := .idle, pushed := s.pushed ++ [value] }

def beginPop (s : QueueRun α) : QueueRun α :=
  match s.consumer with
  | .idle => { s with consumer := .tailLoaded s.tail }
  | _ => s

def consume [Inhabited α] (capacity : Nat) (s : QueueRun α) : QueueRun α :=
  match s.consumer with
  | .idle => s
  | .tailLoaded tail =>
    if tail = s.head then { s with consumer := .idle, starved := s.queued :: s.starved }
    else { s with consumer := .admitted tail }
  | .admitted tail =>
    { s with consumer := .holding tail (s.entries.getD (slot capacity tail) default) }
  | .holding tail value =>
    { s with tail := tail + 1, consumer := .idle, popped := s.popped ++ [value] }

def step [Inhabited α] (capacity : Nat) (s : QueueRun α) : QueueAction α → QueueRun α
  | .push value => s.beginPush value
  | .producer => s.produce capacity
  | .pop => s.beginPop
  | .consumer => s.consume capacity

def start [Inhabited α] (capacity : Nat) : QueueRun α := { entries := List.replicate capacity default }

def steps [Inhabited α] (capacity : Nat) (s : QueueRun α) (actions : List (QueueAction α)) :
    QueueRun α :=
  actions.foldl (step capacity) s

/-- The counter of the first value that no pop has read. -/
def unread (s : QueueRun α) : UInt32 :=
  match s.consumer with
  | .holding tail _ => tail + 1
  | _ => s.tail

/-- The value a pop has read but not yet returned. -/
def held (s : QueueRun α) : List α :=
  match s.consumer with
  | .holding _ value => [value]
  | _ => []

/-- What the pops to come will return, as the slots stand now. -/
def remaining [Inhabited α] (capacity : Nat) (s : QueueRun α) : List α :=
  s.held ++ (List.range (s.head - s.unread).toNat).map fun i =>
    s.entries.getD (slot capacity (s.unread + UInt32.ofNat i)) default

/-- The popped values and those still to be popped are the pushed values, in their order; a
    push fails only on a full queue, and a pop only on an empty one. -/
structure Exact [Inhabited α] (capacity : Nat) (s : QueueRun α) : Prop where
  values : s.popped ++ s.remaining capacity = s.pushed
  refused : ∀ count ∈ s.refused, count = capacity
  starved : ∀ count ∈ s.starved, count = 0

/-- The step is not the write of a value whose counter has wrapped to zero while a value from
    before the wrap is unread. -/
def WrapsEmpty (s : QueueRun α) : QueueAction α → Prop
  | .producer =>
    match s.producer with
    | .admitted _ _ => s.head = 0 → s.unread = 0
    | _ => True
  | _ => True

instance decidableWrapsEmpty (s : QueueRun α) (action : QueueAction α) :
    Decidable (s.WrapsEmpty action) := by
  unfold WrapsEmpty
  split
  · split <;> infer_instance
  · infer_instance

/-- Every step of the run meets the condition. -/
def WrapsEmptyThroughout [Inhabited α] (capacity : Nat) (s : QueueRun α) :
    List (QueueAction α) → Prop
  | [] => True
  | action :: later => s.WrapsEmpty action ∧ (s.step capacity action).WrapsEmptyThroughout capacity later

/- Counters and slots -/

theorem distance {m n : Nat} (behind : m ≤ n) (near : n - m < 2 ^ 32) :
    (UInt32.ofNat n - UInt32.ofNat m).toNat = n - m := by
  have first : (UInt32.ofNat n).toNat = n % 2 ^ 32 := by simp
  have second : (UInt32.ofNat m).toNat = m % 2 ^ 32 := by simp
  rw [UInt32.toNat_sub, first, second]
  omega

theorem ofNat_succ (n : Nat) : UInt32.ofNat n + 1 = UInt32.ofNat (n + 1) := by
  simp [UInt32.ofNat_add]

theorem ofNat_eq_iff {m n : Nat} (behind : m ≤ n) (near : n - m < 2 ^ 32) :
    UInt32.ofNat m = UInt32.ofNat n ↔ m = n := by
  constructor
  · intro same
    have apart := distance behind near
    rw [same, UInt32.sub_self] at apart
    have zero : (0 : UInt32).toNat = 0 := rfl
    omega
  · rintro rfl
    rfl

/-- The slots of a queue of four do not collide at all. -/
theorem slots_apart_of_four {k n : Nat} (before : k < n) (near : n < k + 4) :
    slot 4 (UInt32.ofNat k) ≠ slot 4 (UInt32.ofNat n) := by
  simp only [slot, UInt32.toNat_ofNat']
  omega

/-- The slots of a queue of three collide only between the last counter and zero. -/
theorem slots_apart_of_three {k n : Nat} (before : k < n) (near : n < k + 3)
    (inside : n % 2 ^ 32 ≠ 0) : slot 3 (UInt32.ofNat k) ≠ slot 3 (UInt32.ofNat n) := by
  simp only [slot, UInt32.toNat_ofNat']
  rcases (show k + 1 = n ∨ k + 2 = n by omega) with rfl | rfl
  · have same : (k + 1) % 2 ^ 32 = k % 2 ^ 32 + 1 := by omega
    omega
  · by_cases wrapped : (k + 2) % 2 ^ 32 = 1
    · have last : k % 2 ^ 32 = 2 ^ 32 - 1 := by omega
      omega
    · have same : (k + 2) % 2 ^ 32 = k % 2 ^ 32 + 2 := by omega
      omega

/- The invariant -/

/-- The index of the first value that no pop has read. -/
def firstUnread (s : QueueRun α) : Nat :=
  match s.consumer with
  | .holding _ _ => s.popped.length + 1
  | _ => s.popped.length

def ProducerCoupled (capacity : Nat) (s : QueueRun α) : Prop :=
  match s.producer with
  | .idle => True
  | .headLoaded _ head => head = s.head
  | .admitted _ head => head = s.head ∧ s.pushed.length < s.popped.length + capacity
  | .written value head => head = s.head ∧ s.pushed.length < s.popped.length + capacity ∧
      s.entries[slot capacity head]? = some value

def ConsumerCoupled (s : QueueRun α) : Prop :=
  match s.consumer with
  | .idle => True
  | .tailLoaded tail => tail = s.tail
  | .admitted tail => tail = s.tail ∧ s.popped.length < s.pushed.length
  | .holding tail value => tail = s.tail ∧ s.pushed[s.popped.length]? = some value

/-- The counters count what has been pushed and popped, and every unread value stands in the
    slot of its counter. -/
structure Coupled (capacity : Nat) (s : QueueRun α) : Prop where
  sized : s.entries.length = capacity
  head : s.head = UInt32.ofNat s.pushed.length
  tail : s.tail = UInt32.ofNat s.popped.length
  behind : s.popped.length ≤ s.pushed.length
  room : s.pushed.length ≤ s.popped.length + capacity
  inOrder : s.popped = s.pushed.take s.popped.length
  stored : ∀ k value, s.firstUnread ≤ k → s.pushed[k]? = some value →
    s.entries[slot capacity (UInt32.ofNat k)]? = some value
  producer : s.ProducerCoupled capacity
  consumer : s.ConsumerCoupled
  refused : ∀ count ∈ s.refused, count = capacity
  starved : ∀ count ∈ s.starved, count = 0

variable {capacity : Nat} {s : QueueRun α}

theorem coupled_start [Inhabited α] (capacity : Nat) :
    (start capacity : QueueRun α).Coupled capacity := by
  constructor
  · exact List.length_replicate
  · rfl
  · rfl
  · exact Nat.le_refl _
  · exact Nat.zero_le _
  · rfl
  · intro k value _ found
    simp [start] at found
  · trivial
  · trivial
  · simp [start]
  · simp [start]

theorem firstUnread_le (coupled : s.Coupled capacity) : s.firstUnread ≤ s.pushed.length := by
  have behind := coupled.behind
  have consumer := coupled.consumer
  unfold firstUnread
  unfold ConsumerCoupled at consumer
  split
  · rename_i tail value holding
    simp only [holding] at consumer
    have inside := (List.getElem?_eq_some_iff.mp consumer.2).1
    omega
  · exact behind

theorem popped_le_firstUnread (s : QueueRun α) : s.popped.length ≤ s.firstUnread := by
  unfold firstUnread
  split
  · omega
  · exact Nat.le_refl _

theorem unread_eq (coupled : s.Coupled capacity) : s.unread = UInt32.ofNat s.firstUnread := by
  have tail := coupled.tail
  have consumer := coupled.consumer
  unfold unread firstUnread
  unfold ConsumerCoupled at consumer
  split
  · rename_i loaded value holding
    simp only [holding] at consumer
    rw [consumer.1, tail, ofNat_succ]
  · exact tail

/- One step -/

section Steps
variable (small : capacity < 2 ^ 32) (coupled : s.Coupled capacity)
include coupled

theorem coupled_beginPush (value : α) : (s.beginPush value).Coupled capacity := by
  unfold beginPush
  split
  · exact { coupled with producer := rfl }
  · exact coupled

theorem coupled_beginPop : s.beginPop.Coupled capacity := by
  unfold beginPop
  split
  · rename_i idle
    have stored := coupled.stored
    simp only [firstUnread, idle] at stored
    exact { coupled with stored := stored, consumer := rfl }
  · exact coupled

/-- The write puts the value where no unread one stands. -/
theorem coupled_write {value : α} {head : UInt32} (admitted : s.producer = .admitted value head)
    (apart : ∀ k, s.firstUnread ≤ k → k < s.pushed.length →
      slot capacity (UInt32.ofNat k) ≠ slot capacity (UInt32.ofNat s.pushed.length)) :
    { s with entries := s.entries.set (slot capacity head) value
             producer := .written value head }.Coupled capacity := by
  have producer := coupled.producer
  unfold ProducerCoupled at producer
  simp only [admitted] at producer
  obtain ⟨loaded, room⟩ := producer
  have inside : slot capacity head < s.entries.length := by
    rw [coupled.sized]
    exact Nat.mod_lt _ (by have := coupled.behind; omega)
  have stored : ∀ k value', s.firstUnread ≤ k → s.pushed[k]? = some value' →
      (s.entries.set (slot capacity head) value)[slot capacity (UInt32.ofNat k)]? =
        some value' := by
    intro k value' unread found
    have earlier := (List.getElem?_eq_some_iff.mp found).1
    rw [List.getElem?_set_ne]
    · exact coupled.stored k value' unread found
    · rw [loaded, coupled.head]
      exact (apart k unread earlier).symm
  have sized : (s.entries.set (slot capacity head) value).length = capacity := by
    rw [List.length_set]
    exact coupled.sized
  exact { coupled with
    sized := sized, stored := stored
    producer := ⟨loaded, room, List.getElem?_set_self inside⟩ }

include small

theorem coupled_produce (apart : ∀ value head, s.producer = .admitted value head →
      ∀ k, s.firstUnread ≤ k → k < s.pushed.length →
        slot capacity (UInt32.ofNat k) ≠ slot capacity (UInt32.ofNat s.pushed.length)) :
    (s.produce capacity).Coupled capacity := by
  have producer := coupled.producer
  have room := coupled.room
  have behind := coupled.behind
  unfold ProducerCoupled at producer
  unfold produce
  split
  · exact coupled
  · rename_i value head loading
    simp only [loading] at producer
    have count : (head - s.tail).toNat = s.pushed.length - s.popped.length := by
      rw [producer, coupled.head, coupled.tail, distance behind (by omega)]
    split
    · rename_i full
      have refused : ∀ count ∈ s.queued :: s.refused, count = capacity := by
        intro other member
        rcases List.mem_cons.mp member with rfl | older
        · simp only [queued]
          omega
        · exact coupled.refused other older
      exact { coupled with producer := trivial, refused := refused }
    · rename_i free
      have room : s.pushed.length < s.popped.length + capacity := by omega
      exact { coupled with producer := ⟨producer, room⟩ }
  · rename_i value head admitted
    exact coupled_write coupled admitted (apart value head admitted)
  · rename_i value head written
    simp only [written] at producer
    obtain ⟨loaded, free, stands⟩ := producer
    have longer : (s.pushed ++ [value]).length = s.pushed.length + 1 := by simp
    constructor
    · exact coupled.sized
    · simp only [loaded, coupled.head, longer, ofNat_succ]
    · exact coupled.tail
    · simp only [longer]
      omega
    · simp only [longer]
      omega
    · simp only
      rw [List.take_append_of_le_length behind]
      exact coupled.inOrder
    · intro k value' unread found
      simp only at found
      by_cases own : k = s.pushed.length
      · subst own
        obtain rfl : value = value' := by simpa using found
        rw [← coupled.head, ← loaded]
        exact stands
      · have earlier : k < s.pushed.length := by
          have inside := (List.getElem?_eq_some_iff.mp found).1
          omega
        rw [List.getElem?_append_left earlier] at found
        exact coupled.stored k value' unread found
    · trivial
    · have consumer := coupled.consumer
      unfold ConsumerCoupled at consumer ⊢
      simp only
      split
      · trivial
      · rename_i tail loadedTail
        simpa only [loadedTail] using consumer
      · rename_i tail admitted
        simp only [admitted] at consumer
        exact ⟨consumer.1, by omega⟩
      · rename_i tail value' holding
        simp only [holding] at consumer
        have inside := (List.getElem?_eq_some_iff.mp consumer.2).1
        exact ⟨consumer.1, by rw [List.getElem?_append_left inside]; exact consumer.2⟩
    · exact coupled.refused
    · exact coupled.starved

theorem coupled_consume [Inhabited α] : (s.consume capacity).Coupled capacity := by
  have consumer := coupled.consumer
  have room := coupled.room
  have behind := coupled.behind
  have stored := coupled.stored
  unfold ConsumerCoupled at consumer
  unfold firstUnread at stored
  unfold consume
  split
  · exact coupled
  · rename_i tail loading
    simp only [loading] at consumer stored
    have drained : tail = s.head ↔ s.popped.length = s.pushed.length := by
      rw [consumer, coupled.head, coupled.tail]
      exact ofNat_eq_iff behind (by omega)
    split
    · rename_i empty
      have starved : ∀ count ∈ s.queued :: s.starved, count = 0 := by
        intro other member
        rcases List.mem_cons.mp member with rfl | older
        · have := drained.mp empty
          simp only [queued]
          omega
        · exact coupled.starved other older
      exact { coupled with stored := stored, consumer := trivial, starved := starved }
    · rename_i filled
      have different := drained.not.mp filled
      have occupied : s.popped.length < s.pushed.length := by omega
      exact { coupled with stored := stored, consumer := ⟨consumer, occupied⟩ }
  · rename_i tail admitted
    simp only [admitted] at consumer stored
    obtain ⟨loaded, occupied⟩ := consumer
    obtain ⟨value, found⟩ : ∃ value, s.pushed[s.popped.length]? = some value :=
      ⟨_, List.getElem?_eq_getElem occupied⟩
    have stands := stored s.popped.length value (Nat.le_refl _) found
    have read : s.entries.getD (slot capacity tail) default = value := by
      rw [loaded, coupled.tail, List.getD_eq_getElem?_getD, stands]
      rfl
    have later : ∀ k value', s.popped.length + 1 ≤ k → s.pushed[k]? = some value' →
        s.entries[slot capacity (UInt32.ofNat k)]? = some value' :=
      fun k value' unread => stored k value' (by omega)
    exact { coupled with stored := later, consumer := ⟨loaded, read ▸ found⟩ }
  · rename_i tail value holding
    simp only [holding] at consumer stored
    obtain ⟨loaded, found⟩ := consumer
    have inside := (List.getElem?_eq_some_iff.mp found).1
    have longer : (s.popped ++ [value]).length = s.popped.length + 1 := by simp
    have taken : s.popped ++ [value] = s.pushed.take (s.popped.length + 1) := by
      rw [List.take_add_one, found, ← coupled.inOrder]
      rfl
    constructor
    · exact coupled.sized
    · exact coupled.head
    · simp only [loaded, coupled.tail, longer, ofNat_succ]
    · simp only [longer]
      omega
    · simp only [longer]
      omega
    · simp only [longer]
      exact taken
    · intro k value' unread found'
      simp only [firstUnread, longer] at unread
      exact stored k value' unread found'
    · have producer := coupled.producer
      unfold ProducerCoupled at producer ⊢
      simp only
      split
      · trivial
      · rename_i value' head loading
        simpa only [loading] using producer
      · rename_i value' head admitted
        simp only [admitted] at producer
        exact ⟨producer.1, by rw [longer]; omega⟩
      · rename_i value' head written
        simp only [written] at producer
        exact ⟨producer.1, by rw [longer]; omega, producer.2.2⟩
    · trivial
    · exact coupled.refused
    · exact coupled.starved

end Steps

/-- A write that meets the condition finds its slot free of unread values. -/
theorem apart_of_wrapsEmpty (instantiated : capacity = 3 ∨ capacity = 4)
    (coupled : s.Coupled capacity) (wraps : capacity = 3 → s.WrapsEmpty .producer)
    {value : α} {head : UInt32} (admitted : s.producer = .admitted value head) (k : Nat)
    (unread : s.firstUnread ≤ k) (earlier : k < s.pushed.length) :
    slot capacity (UInt32.ofNat k) ≠ slot capacity (UInt32.ofNat s.pushed.length) := by
  have producer := coupled.producer
  unfold ProducerCoupled at producer
  simp only [admitted] at producer
  have popped := popped_le_firstUnread s
  rcases instantiated with rfl | rfl
  · apply slots_apart_of_three earlier (by omega)
    intro wrapped
    have zero : s.head = 0 := by
      rw [coupled.head]
      apply UInt32.toNat_inj.mp
      simpa using wrapped
    have condition := wraps rfl
    simp only [WrapsEmpty, admitted] at condition
    have empty := condition zero
    rw [unread_eq coupled, ← zero, coupled.head, ofNat_eq_iff (firstUnread_le coupled) (by omega)]
      at empty
    omega
  · exact slots_apart_of_four earlier (by omega)

/-- A value is never copied out of the slot that another is being copied into. -/
theorem copies_apart (instantiated : capacity = 3 ∨ capacity = 4) (coupled : s.Coupled capacity)
    (wraps : capacity = 3 → s.WrapsEmpty .producer) {value : α} {head tail : UInt32}
    (writing : s.producer = .admitted value head) (reading : s.consumer = .admitted tail) :
    slot capacity tail ≠ slot capacity head := by
  have producer := coupled.producer
  have consumer := coupled.consumer
  unfold ProducerCoupled at producer
  unfold ConsumerCoupled at consumer
  simp only [writing] at producer
  simp only [reading] at consumer
  have apart := apart_of_wrapsEmpty instantiated coupled wraps writing s.popped.length
    (by simp [firstUnread, reading]) consumer.2
  rw [← coupled.head, ← coupled.tail] at apart
  rw [producer.1, consumer.1]
  exact apart

theorem coupled_step [Inhabited α] (instantiated : capacity = 3 ∨ capacity = 4)
    (coupled : s.Coupled capacity) (action : QueueAction α) (wraps : capacity = 3 → s.WrapsEmpty action) :
    (s.step capacity action).Coupled capacity := by
  have small : capacity < 2 ^ 32 := by omega
  cases action with
  | push value => exact coupled_beginPush coupled value
  | producer =>
    exact coupled_produce small coupled fun _ _ admitted =>
      apart_of_wrapsEmpty instantiated coupled wraps admitted
  | pop => exact coupled_beginPop coupled
  | consumer => exact coupled_consume small coupled

theorem coupled_steps [Inhabited α] (instantiated : capacity = 3 ∨ capacity = 4)
    (coupled : s.Coupled capacity) (actions : List (QueueAction α))
    (wraps : capacity = 3 → s.WrapsEmptyThroughout capacity actions) :
    (s.steps capacity actions).Coupled capacity := by
  induction actions generalizing s with
  | nil => exact coupled
  | cons action later hyp =>
    apply hyp
    · exact coupled_step instantiated coupled action fun three => (wraps three).1
    · intro three
      exact (wraps three).2

/-- A coupled queue hands out what was put into it. -/
theorem exact_of_coupled [Inhabited α] (small : capacity < 2 ^ 32) (coupled : s.Coupled capacity) :
    s.Exact capacity := by
  refine ⟨?_, coupled.refused, coupled.starved⟩
  have last := firstUnread_le coupled
  have popped := popped_le_firstUnread s
  have room := coupled.room
  have count : (s.head - s.unread).toNat = s.pushed.length - s.firstUnread := by
    rw [unread_eq coupled, coupled.head, distance last (by omega)]
  have queue : (List.range (s.head - s.unread).toNat).map (fun i =>
      s.entries.getD (slot capacity (s.unread + UInt32.ofNat i)) default) =
        s.pushed.drop s.firstUnread := by
    apply List.ext_getElem?
    intro i
    rw [count, List.getElem?_map, List.getElem?_drop]
    by_cases inside : s.firstUnread + i < s.pushed.length
    · obtain ⟨value, found⟩ : ∃ value, s.pushed[s.firstUnread + i]? = some value :=
        ⟨_, List.getElem?_eq_getElem inside⟩
      have stands := coupled.stored _ value (Nat.le_add_right _ _) found
      rw [List.getElem?_range (by omega), found, Option.map_some, unread_eq coupled,
        ← UInt32.ofNat_add, List.getD_eq_getElem?_getD, stands]
      rfl
    · rw [List.getElem?_eq_none (by simp; omega), List.getElem?_eq_none (by omega)]
      rfl
  have whole : s.popped ++ s.held = s.pushed.take s.firstUnread := by
    have consumer := coupled.consumer
    unfold ConsumerCoupled at consumer
    unfold held firstUnread
    split
    · rename_i tail value holding
      simp only [holding] at consumer
      rw [List.take_add_one, consumer.2, ← coupled.inOrder]
      rfl
    · rw [List.append_nil]
      exact coupled.inOrder
  rw [remaining, queue, ← List.append_assoc, whole, List.take_append_drop]

/-- In every run of a queue the code has, however its loads and stores interleave and however
    often its counters wrap, the queue is exact; of a queue of three this holds as long as no
    value is written at counter zero while one from before the wrap is unread. -/
theorem queue_exact [Inhabited α] (instantiated : capacity = 3 ∨ capacity = 4) (actions : List (QueueAction α))
    (wraps : capacity = 3 → (start capacity).WrapsEmptyThroughout capacity actions) :
    ((start capacity).steps capacity actions).Exact capacity :=
  exact_of_coupled (by omega) (coupled_steps instantiated (coupled_start capacity) actions wraps)

instance decidableWrapsEmptyThroughout [Inhabited α] (capacity : Nat) (s : QueueRun α) :
    (actions : List (QueueAction α)) → Decidable (s.WrapsEmptyThroughout capacity actions)
  | [] => inferInstanceAs (Decidable True)
  | action :: later =>
    have := decidableWrapsEmptyThroughout capacity (s.step capacity action) later
    inferInstanceAs (Decidable (_ ∧ _))

/-- Two pushes and a pop, the second push in between the loads of the pop. -/
def overlappingRun : List (QueueAction EspNowReceivedFrame) :=
  [.push { peerIndex := 1 }, .producer, .producer, .producer, .pop, .consumer,
    .push { peerIndex := 2 }, .producer, .consumer, .producer, .consumer, .producer]

theorem overlapping_run_exact : ((start 3).steps 3 overlappingRun).Exact 3 :=
  queue_exact (Or.inl rfl) overlappingRun fun _ => by decide

/- Calls without interruption -/

theorem push_alone [Inhabited α] (idle : s.producer = .idle)
    (free : (s.head - s.tail).toNat < capacity) (value : α) :
    s.steps capacity [.push value, .producer, .producer, .producer] =
      { s with
        entries := s.entries.set (slot capacity s.head) value
        head := s.head + 1, pushed := s.pushed ++ [value] } := by
  have room : ¬ (s.head - s.tail).toNat ≥ capacity := Nat.not_le.mpr free
  simp [steps, step, beginPush, idle, produce, room]

theorem push_refused_alone [Inhabited α] (idle : s.producer = .idle)
    (full : capacity ≤ (s.head - s.tail).toNat) (value : α) :
    s.steps capacity [.push value, .producer, .producer, .producer] =
      { s with refused := s.queued :: s.refused } := by
  simp [steps, step, beginPush, idle, produce, full, queued]

theorem pop_alone [Inhabited α] (idle : s.consumer = .idle) (filled : s.tail ≠ s.head) :
    s.steps capacity [.pop, .consumer, .consumer, .consumer] =
      { s with
        tail := s.tail + 1
        popped := s.popped ++ [s.entries.getD (slot capacity s.tail) default] } := by
  simp [steps, step, beginPop, idle, consume, filled]

theorem pop_starved_alone [Inhabited α] (idle : s.consumer = .idle) (empty : s.tail = s.head) :
    s.steps capacity [.pop, .consumer, .consumer, .consumer] =
      { s with starved := s.queued :: s.starved } := by
  simp [steps, step, beginPop, idle, consume, empty, queued]

/-- The run's memory is the queue, and no call is under way. -/
structure Rests (s : QueueRun α) (q : EspNowSpscQueue α capacity) : Prop where
  entries : s.entries = q.entries
  head : s.head = q.head
  tail : s.tail = q.tail
  producer : s.producer = .idle
  consumer : s.consumer = .idle

/-- A push that nothing interrupts is the push of the queue. -/
theorem rests_push [Inhabited α] {q : EspNowSpscQueue α capacity} (rests : s.Rests q) (value : α) :
    Rests (s.steps capacity [.push value, .producer, .producer, .producer]) (q.push value).2 ∧
      (s.steps capacity [.push value, .producer, .producer, .producer]).pushed =
        if (q.push value).1 then s.pushed ++ [value] else s.pushed := by
  obtain ⟨entries, head, tail, producer, consumer⟩ := rests
  unfold EspNowSpscQueue.push
  split
  · rename_i room
    rw [push_alone producer (by rw [head, tail]; exact room)]
    refine ⟨⟨?_, ?_, tail, producer, consumer⟩, rfl⟩
    · simp only [entries, slot, head]
    · simp only [head]
  · rename_i full
    rw [push_refused_alone producer (by rw [head, tail]; omega)]
    exact ⟨⟨entries, head, tail, producer, consumer⟩, rfl⟩

/-- A pop that nothing interrupts is the pop of the queue. -/
theorem rests_pop [Inhabited α] {q : EspNowSpscQueue α capacity} (rests : s.Rests q) :
    Rests (s.steps capacity [.pop, .consumer, .consumer, .consumer]) q.pop.2 ∧
      (s.steps capacity [.pop, .consumer, .consumer, .consumer]).popped =
        s.popped ++ q.pop.1.toList := by
  obtain ⟨entries, head, tail, producer, consumer⟩ := rests
  unfold EspNowSpscQueue.pop
  split
  · rename_i different
    rw [pop_alone consumer (by rw [head, tail]; exact different)]
    refine ⟨⟨entries, head, ?_, producer, consumer⟩, ?_⟩
    · simp only [tail]
    · simp only [entries, slot, tail, Option.toList_some]
  · rename_i same
    rw [pop_starved_alone consumer (by rw [head, tail]; simpa using same)]
    exact ⟨⟨entries, head, tail, producer, consumer⟩, by simp⟩

/- The queue of three at the wrap -/

/-- A queue of three at rest after so many values have come and gone. -/
structure Quiet (count : Nat) (s : QueueRun α) : Prop where
  sized : s.entries.length = 3
  head : s.head = UInt32.ofNat count
  tail : s.tail = UInt32.ofNat count
  producer : s.producer = .idle
  consumer : s.consumer = .idle
  values : s.popped = s.pushed

theorem steps_append [Inhabited α] (s : QueueRun α) (first later : List (QueueAction α)) :
    s.steps capacity (first ++ later) = (s.steps capacity first).steps capacity later :=
  List.foldl_append

theorem quiet_reached [Inhabited α] (count : Nat) :
    ∃ actions : List (QueueAction α), ((start 3).steps 3 actions).Quiet count := by
  induction count with
  | zero => exact ⟨[], List.length_replicate, rfl, rfl, rfl, rfl, rfl⟩
  | succ count hyp =>
    obtain ⟨actions, sized, head, tail, producer, consumer, values⟩ := hyp
    let push : List (QueueAction α) := [.push default, .producer, .producer, .producer]
    let pop : List (QueueAction α) := [.pop, .consumer, .consumer, .consumer]
    refine ⟨actions ++ (push ++ pop), ?_⟩
    rw [steps_append, steps_append]
    generalize (start 3 : QueueRun α).steps 3 actions = s at *
    have free : (s.head - s.tail).toNat < 3 := by
      rw [head, tail, UInt32.sub_self]
      decide
    rw [push_alone producer free, pop_alone]
    · have inside : slot 3 s.tail < s.entries.length := by
        rw [sized]
        exact Nat.mod_lt _ (by decide)
      constructor
      · simp only [List.length_set, sized]
      · simp only [head, ofNat_succ]
      · simp only [tail, ofNat_succ]
      · exact producer
      · exact consumer
      · have same : s.head = s.tail := head.trans tail.symm
        simp [values, same, List.getElem?_set_self inside]
    · exact consumer
    · simp only [head, tail]
      rw [ofNat_succ, Ne, ofNat_eq_iff (Nat.le_succ _) (by omega)]
      omega

/-- After 2^32 - 1 frames two more come before the main loop looks. Both are written into the
    first slot, so the first of them is lost. -/
theorem queue_of_three_loses_frame :
    ∃ actions : List (QueueAction EspNowReceivedFrame),
      ¬ ((start 3).steps 3 actions).Exact 3 := by
  obtain ⟨actions, sized, head, tail, producer, consumer, values⟩ :=
    @quiet_reached EspNowReceivedFrame _ (2 ^ 32 - 1)
  let push (index : PeerIndex) : List (QueueAction EspNowReceivedFrame) :=
    [.push { peerIndex := index }, .producer, .producer, .producer]
  let pop : List (QueueAction EspNowReceivedFrame) := [.pop, .consumer, .consumer, .consumer]
  refine ⟨actions ++ (push 1 ++ (push 2 ++ pop)), ?_⟩
  rw [steps_append, steps_append, steps_append]
  generalize (start 3 : QueueRun EspNowReceivedFrame).steps 3 actions = s at *
  have free : (s.head - s.tail).toNat < 3 := by
    rw [head, tail]
    decide +kernel
  rw [push_alone producer free, push_alone, pop_alone]
  · rintro ⟨kept, _, _⟩
    have first : slot 3 s.head = 0 := by
      rw [head]
      decide +kernel
    have second : slot 3 (s.head + 1) = 0 := by
      rw [head]
      decide +kernel
    have oldest : slot 3 s.tail = 0 := by
      rw [tail]
      decide +kernel
    simp [values, first, second, oldest, sized] at kept
  · exact consumer
  · simp only [head, tail]
    decide +kernel
  · exact producer
  · simp only [head, tail]
    decide +kernel

end QueueRun

end EspNowNet
