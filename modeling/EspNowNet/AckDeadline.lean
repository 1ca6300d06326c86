import EspNowNet.Reliability

/- How long a delivery waits for its ACK. The deadline is a wrapped sum and is compared through
   a signed difference, so it is right for timeouts up to half the range of the clock. -/
namespace EspNowNet

theorem deadlinePending_iff (start : UInt32) {timeoutMs : UInt32} {elapsedMs : Nat}
    (recent : elapsedMs < 2 ^ 31) (near : timeoutMs.toNat ≤ 2 ^ 31) :
    deadlinePending (start + UInt32.ofNat elapsedMs) (start + timeoutMs) = true ↔
      elapsedMs < timeoutMs.toNat := by
  have bound := start.toNat_lt
  unfold deadlinePending
  rw [decide_eq_true_eq, UInt32.toNat_sub, UInt32.toNat_add, UInt32.toNat_add,
    UInt32.toNat_ofNat']
  omega

theorem deadlinePending_far (start : UInt32) {timeoutMs : UInt32} (far : 2 ^ 31 < timeoutMs.toNat) :
    deadlinePending start (start + timeoutMs) = false := by
  have bound := start.toNat_lt
  have timeout := timeoutMs.toNat_lt
  unfold deadlinePending
  rw [decide_eq_false_iff_not, UInt32.toNat_sub, UInt32.toNat_add]
  omega

namespace EspNowReliableDelivery

/-- The delivery after `loop` calls at these times after the transmission. -/
def polledAt (d : EspNowReliableDelivery) (sentMs : UInt32) (elapsed : List Nat) :
    EspNowReliableDelivery :=
  elapsed.foldl (fun d elapsedMs => d.loop (sentMs + UInt32.ofNat elapsedMs)) d

/-- Up to a time the delivery waits exactly as long as its timeout has not passed. -/
def WaitsExactly (d : EspNowReliableDelivery) (sentMs : UInt32) : Prop :=
  ∀ elapsed : List Nat, (∀ elapsedMs ∈ elapsed, elapsedMs < 2 ^ 31) →
    ((d.polledAt sentMs elapsed).state = .waitingForAck ↔
      ∀ elapsedMs ∈ elapsed, elapsedMs < d.policy.ackTimeoutMs.toNat)

variable {d : EspNowReliableDelivery} {sentMs : UInt32}

theorem loop_pending {nowMs : UInt32} (pending : deadlinePending nowMs d.deadlineMs = true) :
    d.loop nowMs = d :=
  if_pos (Or.inr pending)

theorem loop_due {nowMs : UInt32} (due : deadlinePending nowMs d.deadlineMs = false) :
    (d.loop nowMs).state ≠ .waitingForAck := by
  unfold loop
  split
  · rename_i stays
    rcases stays with other | pending
    · exact other
    · rw [due] at pending
      cases pending
  · simp only
    split <;> simp

theorem polledAt_left (left : d.state ≠ .waitingForAck) (elapsed : List Nat) :
    d.polledAt sentMs elapsed = d := by
  induction elapsed with
  | nil => rfl
  | cons first rest hyp =>
    have same : d.loop (sentMs + UInt32.ofNat first) = d := if_pos (Or.inl left)
    rw [polledAt, List.foldl_cons, same]
    exact hyp

theorem waits_iff (near : d.policy.ackTimeoutMs.toNat ≤ 2 ^ 31) (waiting : d.state = .waitingForAck)
    (deadline : d.deadlineMs = sentMs + d.policy.ackTimeoutMs) (elapsed : List Nat)
    (recent : ∀ elapsedMs ∈ elapsed, elapsedMs < 2 ^ 31) :
    (d.polledAt sentMs elapsed).state = .waitingForAck ↔
      ∀ elapsedMs ∈ elapsed, elapsedMs < d.policy.ackTimeoutMs.toNat := by
  induction elapsed with
  | nil => exact iff_of_true waiting (by simp)
  | cons first rest hyp =>
    have later := hyp fun elapsedMs member => recent elapsedMs (List.mem_cons_of_mem _ member)
    have pending := deadlinePending_iff sentMs (recent first List.mem_cons_self) near
    rw [List.forall_mem_cons, polledAt, List.foldl_cons]
    by_cases early : first < d.policy.ackTimeoutMs.toNat
    · rw [loop_pending (by rw [deadline]; exact pending.mpr early), and_iff_right early]
      exact later
    · have due : deadlinePending (sentMs + UInt32.ofNat first) d.deadlineMs = false := by
        rw [deadline]
        exact Bool.eq_false_iff.mpr fun still => early (pending.mp still)
      have left := loop_due due
      refine iff_of_false ?_ fun all => early all.1
      rw [← polledAt, polledAt_left left]
      exact left

/-- A delivery waits for just its timeout if and only if that is half the clock's range at most. -/
theorem waitsExactly_iff (d : EspNowReliableDelivery) (sentMs : UInt32)
    (sent : (d.markSent sentMs).1 = true) :
    (d.markSent sentMs).2.WaitsExactly sentMs ↔ d.policy.ackTimeoutMs.toNat ≤ 2 ^ 31 := by
  let sending : EspNowReliableDelivery := { d with
    attemptCount := d.attemptCount + 1
    deadlineMs := sentMs + d.policy.ackTimeoutMs
    state := .waitingForAck }
  have marked : d.markSent sentMs = (true, sending) := by
    unfold markSent at sent ⊢
    split at sent
    · cases sent
    · rename_i ready
      rw [if_neg ready]
  rw [marked]
  constructor
  · intro exactly
    by_contra far
    have far := Nat.lt_of_not_le far
    have stays := (exactly [0] (by simp)).mpr (by simpa using Nat.lt_trans (by decide) far)
    refine loop_due ?_ stays
    simpa using deadlinePending_far sentMs far
  · intro near elapsed recent
    exact waits_iff (d := sending) near rfl rfl elapsed recent

def readyWith (ackTimeoutMs : UInt32) : EspNowReliableDelivery :=
  (({} : EspNowReliableDelivery).configure ⟨ackTimeoutMs, 3⟩).2.start ⟨1, 7, 1⟩ |>.2

theorem waitsExactly_default :
    ((readyWith 250).markSent 4294967200).1 = true ∧
      (((readyWith 250).markSent 4294967200).2.WaitsExactly 4294967200 ↔
        (readyWith 250).policy.ackTimeoutMs.toNat ≤ 2 ^ 31) :=
  have sent : ((readyWith 250).markSent 4294967200).1 = true := by decide
  ⟨sent, waitsExactly_iff (readyWith 250) 4294967200 sent⟩

theorem far_timeout_leaves_at_once :
    (⟨2147483649, 3⟩ : EspNowRetryPolicy).Valid ∧
      (readyWith 2147483649).policy = ⟨2147483649, 3⟩ ∧
      ((readyWith 2147483649).markSent 0).1 = true ∧
      (((readyWith 2147483649).markSent 0).2.loop 0).state = .readyToSend ∧
      ¬ ((readyWith 2147483649).markSent 0).2.WaitsExactly 0 := by
  have left : (((readyWith 2147483649).markSent 0).2.loop 0).state = .readyToSend := by decide
  refine ⟨by decide, by decide, by decide, left, ?_⟩
  intro exactly
  have stays : (((readyWith 2147483649).markSent 0).2.polledAt 0 [0]).state = .waitingForAck :=
    (exactly [0] (by simp)).mpr (by decide)
  have same : ((readyWith 2147483649).markSent 0).2.polledAt 0 [0] =
      ((readyWith 2147483649).markSent 0).2.loop 0 := rfl
  rw [same, left] at stays
  cases stays

end EspNowReliableDelivery

end EspNowNet
