import Mathlib.Data.List.Induction
import EspNowNet.Assembly
import EspNowNet.SenderInvariant

/- The sender over whole sequences of calls. A delivery lasts from an accepted start to the
   next reset; what it sends, counts and ends with is read off the calls in between. -/
namespace EspNowNet
open EspNowFrameCodec
namespace ReliableMessageSender

def calls (s : ReliableMessageSender) (made : List SenderCall) : ReliableMessageSender :=
  made.foldl SenderCall.apply s

/-- The sender after some calls, from its construction on. -/
def after (made : List SenderCall) : ReliableMessageSender := calls {} made

def Starts (s : ReliableMessageSender) : SenderCall → Prop
  | .start peerIndex kind transactionId message =>
    (s.start peerIndex kind transactionId message).1 = true
  | _ => False

/-- The completion of a frame that ends an attempt, sent or not. -/
def EndsAttempt (s : ReliableMessageSender) (call : SenderCall) : Prop :=
  s.state = .frameInFlight ∧ (call.apply s).state = .waitingForAck

instance decidableEndsAttempt (s : ReliableMessageSender) (call : SenderCall) :
    Decidable (s.EndsAttempt call) :=
  inferInstanceAs (Decidable (_ ∧ _))

def attemptsCounted (s : ReliableMessageSender) : List SenderCall → Nat
  | [] => 0
  | call :: later => (if s.EndsAttempt call then 1 else 0) + (call.apply s).attemptsCounted later

/-- The calls after an accepted start, without a reset so far. -/
structure Sending (made before : List SenderCall) (call : SenderCall)
    (during : List SenderCall) : Prop where
  split : made = before ++ call :: during
  accepted : (after before).Starts call
  unreset : .reset ∉ during

/- One call -/

variable {s : ReliableMessageSender}

theorem coupled_calls (coupled : s.Coupled) (made : List SenderCall) : (s.calls made).Coupled := by
  induction made generalizing s with
  | nil => exact coupled
  | cons call later hyp => exact hyp (coupled_apply coupled call)

theorem coupled_after (made : List SenderCall) : (after made).Coupled :=
  coupled_calls coupled_fresh made

theorem Coupled.flight_iff (coupled : s.Coupled) :
    s.frameInFlight = true ↔ s.state = .frameInFlight := by
  have form := coupled.state
  constructor
  · intro flying
    rw [coupled.flight flying, flying] at form
    exact form
  · intro flying
    rw [flying] at form
    cases delivered : s.delivery.state <;> cases flag : s.frameInFlight <;>
      simp [stateFor, delivered, flag] at form ⊢

theorem Coupled.quiet (coupled : s.Coupled) (idle : s.state = .idle) :
    s.delivery.state = .idle := by
  rw [coupled.state, stateFor_idle_iff] at idle
  exact idle

/-- Everything a call can do to a coupled sender. -/
inductive Effect (s : ReliableMessageSender) : SenderCall → ReliableMessageSender → Prop
  | unchanged {call : SenderCall} (unstarted : ¬ s.Starts call) (kept : call ≠ .reset) :
    Effect s call s
  | configured (localBootId : UInt64) (policy : EspNowRetryPolicy) (idle : s.state = .idle) :
    Effect s (.configure localBootId policy)
      { s with localBootId, delivery := { s.delivery with policy } }
  | stored {peerIndex : PeerIndex} {kind : EspNowFrameKind} {transactionId : TransactionId}
      {bytes : Option (List UInt8)} (message : BoundedBytes 640) (idle : s.state = .idle)
      (unstarted : ¬ s.Starts (.start peerIndex kind transactionId bytes)) :
    Effect s (.start peerIndex kind transactionId bytes) { s with message }
  | started {call : SenderCall} {t : ReliableMessageSender} (idle : s.state = .idle)
      (starts : s.Starts call) (ready : t.state = .ready)
      (delivered : t.delivery.state = .readyToSend) (unused : t.delivery.attemptCount = 0) :
    Effect s call t
  | rewound (nowMs : UInt32) (ready : s.state = .ready) :
    Effect s (.loop nowMs) { s with fragmentIndex := 0 }
  | retried (nowMs : UInt32) (waiting : s.state = .waitingForAck) :
    Effect s (.loop nowMs) { s with
      delivery := { s.delivery with state := .readyToSend }, fragmentIndex := 0, state := .ready }
  | timedOut (nowMs : UInt32) (waiting : s.state = .waitingForAck)
      (spent : s.delivery.policy.maxAttempts ≤ s.delivery.attemptCount) :
    Effect s (.loop nowMs) { s with
      delivery := { s.delivery with state := .timedOut }, state := .timedOut }
  | handed (ready : s.state = .ready) :
    Effect s .takeFrame { s with frameInFlight := true, state := .frameInFlight }
  | advanced (nowMs : UInt32) (flying : s.state = .frameInFlight) :
    Effect s (.completeFrame true nowMs)
      { s with frameInFlight := false, fragmentIndex := s.fragmentIndex + 1, state := .ready }
  | ended (succeeded : Bool) (nowMs : UInt32) (fragmentIndex : Nat)
      (flying : s.state = .frameInFlight)
      (room : s.delivery.attemptCount < s.delivery.policy.maxAttempts) :
    Effect s (.completeFrame succeeded nowMs) { s with
      frameInFlight := false, fragmentIndex
      delivery := { s.delivery with
        attemptCount := s.delivery.attemptCount + 1
        deadlineMs := nowMs + s.delivery.policy.ackTimeoutMs
        state := .waitingForAck }
      state := .waitingForAck }
  | answered (ack : EspNowAckPayload) (waiting : s.state = .waitingForAck)
      (own : ack.acknowledged = s.delivery.key) :
    Effect s (.acceptAck ack) { s with
      delivery := { s.delivery with
        state := if ack.status = .rejected then .rejected else .acknowledged }
      state := if ack.status = .rejected then .rejected else .acknowledged }
  | reset : Effect s .reset s.reset

/-- A waiting message times out only when no attempt is left. -/
theorem timedOut_of_loop {d : EspNowReliableDelivery} {nowMs : UInt32}
    (running : d.state ≠ .timedOut) (timedOut : (d.loop nowMs).state = .timedOut) :
    d.policy.maxAttempts ≤ d.attemptCount := by
  unfold EspNowReliableDelivery.loop at timedOut
  split at timedOut
  · exact absurd timedOut running
  · by_contra more
    simp [UInt8.not_le.mp more] at timedOut

theorem loop_delivery (s : ReliableMessageSender) (nowMs : UInt32) :
    (s.loop nowMs).delivery = s.delivery.loop nowMs := by
  unfold loop
  simp only
  split
  · split <;> rfl
  all_goals rfl

theorem effect_configure (s : ReliableMessageSender) (localBootId : UInt64)
    (policy : EspNowRetryPolicy) :
    s.Effect (.configure localBootId policy) (s.configure localBootId policy).2 := by
  by_cases idle : s.state = .idle
  · rcases configure_eq s localBootId policy with same | changed
    · rw [same]
      exact .unchanged id nofun
    · rw [changed]
      exact .configured localBootId policy idle
  · have same : s.configure localBootId policy = (false, s) := by simp [configure, idle]
    rw [same]
    exact .unchanged id nofun

theorem effect_start (coupled : s.Coupled) (peerIndex : PeerIndex) (kind : EspNowFrameKind)
    (transactionId : TransactionId) (message : Option (List UInt8)) :
    s.Effect (.start peerIndex kind transactionId message)
      (s.start peerIndex kind transactionId message).2 := by
  obtain ⟨⟨accepted, t⟩, run⟩ : ∃ next, s.start peerIndex kind transactionId message = next :=
    ⟨_, rfl⟩
  rw [run]
  cases accepted with
  | true =>
    obtain ⟨_, -, -, idle, -, -, -, -, same⟩ := start_true run
    have starts : s.Starts (.start peerIndex kind transactionId message) := congrArg Prod.fst run
    apply Effect.started idle starts <;> rw [same]
  | false =>
    have refused : ¬ s.Starts (.start peerIndex kind transactionId message) := by simp [Starts, run]
    rcases start_false coupled run with rfl | ⟨idle, stored, rfl⟩
    · exact .unchanged refused nofun
    · exact .stored stored idle refused

theorem effect_loop (coupled : s.Coupled) (nowMs : UInt32) :
    s.Effect (.loop nowMs) (s.loop nowMs) := by
  rcases loop_cases coupled nowMs with same | ⟨ready, next⟩ | ⟨waiting, -, next⟩ | ⟨waiting, next⟩
  · rw [same]
    exact .unchanged id nofun
  · rw [next]
    exact .rewound nowMs ready
  · rw [next]
    exact .retried nowMs waiting
  · have delivered := stateFor_waiting_iff.mp (coupled.state ▸ waiting)
    have expired : (s.delivery.loop nowMs).state = .timedOut := by rw [← loop_delivery, next]
    rw [next]
    exact .timedOut nowMs waiting (timedOut_of_loop (by simp [delivered]) expired)

theorem effect_completeFrame (coupled : s.Coupled) (succeeded : Bool) (nowMs : UInt32) :
    s.Effect (.completeFrame succeeded nowMs) (s.completeFrame succeeded nowMs).2 := by
  rcases completeFrame_cases coupled succeeded nowMs with
    ⟨-, same⟩ | ⟨flying, rfl, -, next⟩ | ⟨flying, -, next⟩
  · rw [same]
    exact .unchanged id nofun
  · rw [next]
    exact .advanced nowMs (coupled.flight_iff.mp flying)
  · rw [next]
    exact .ended succeeded nowMs _ (coupled.flight_iff.mp flying)
      (coupled.attempts (coupled.flight flying))

theorem effect_apply (coupled : s.Coupled) (call : SenderCall) : s.Effect call (call.apply s) := by
  cases call with
  | configure localBootId policy => exact effect_configure s localBootId policy
  | start peerIndex kind transactionId message => exact effect_start coupled _ _ _ _
  | loop nowMs => exact effect_loop coupled nowMs
  | takeFrame =>
    rcases takeFrame_cases coupled with ⟨-, same⟩ | ⟨ready, -, next⟩
    · rw [SenderCall.apply, same]
      exact .unchanged id nofun
    · rw [SenderCall.apply, next]
      exact .handed ready
  | completeFrame succeeded nowMs => exact effect_completeFrame coupled succeeded nowMs
  | acceptAck ack =>
    rcases acceptAck_cases s ack with same | ⟨delivered, own, next⟩
    · rw [SenderCall.apply, same]
      exact .unchanged id nofun
    · have waiting : s.state = .waitingForAck := by rw [coupled.state, delivered, stateFor]
      rw [SenderCall.apply, next]
      exact .answered ack waiting own
  | reset => exact .reset

/-- Without a reset a busy sender keeps its message. -/
theorem sameMessage_apply (coupled : s.Coupled) (busy : s.state ≠ .idle) {call : SenderCall}
    (unreset : call ≠ .reset) : s.SameMessage (call.apply s) := by
  cases call with
  | configure localBootId policy =>
    have same : s.configure localBootId policy = (false, s) := by simp [configure, busy]
    rw [SenderCall.apply, same]
    exact .refl s
  | start peerIndex kind transactionId message =>
    have same : s.start peerIndex kind transactionId message = (false, s) := by simp [start, busy]
    rw [SenderCall.apply, same]
    exact .refl s
  | loop nowMs => exact sameMessage_loop coupled nowMs
  | takeFrame => exact sameMessage_takeFrame coupled
  | completeFrame succeeded nowMs => exact sameMessage_completeFrame coupled succeeded nowMs
  | acceptAck ack => exact sameMessage_acceptAck coupled ack
  | reset => exact absurd rfl unreset

theorem attempt_succ {count limit : UInt8} (room : count < limit) :
    (count + 1).toNat = count.toNat + 1 := by
  have room := UInt8.lt_iff_toNat_lt.mp room
  have small := UInt8.toNat_lt limit
  rw [UInt8.toNat_add, UInt8.toNat_one, Nat.mod_eq_of_lt (by omega)]

/-- A call keeps the policy, and counts an attempt exactly when it ends one. -/
theorem attempt_apply {call : SenderCall} {t : ReliableMessageSender} (effect : s.Effect call t)
    (same : call.apply s = t) (busy : s.state ≠ .idle) (unreset : call ≠ .reset) :
    t.delivery.policy = s.delivery.policy ∧
      t.delivery.attemptCount.toNat =
        s.delivery.attemptCount.toNat + if s.EndsAttempt call then 1 else 0 := by
  have ends : s.EndsAttempt call ↔ s.state = .frameInFlight ∧ t.state = .waitingForAck := by
    rw [← same]
    exact Iff.rfl
  simp only [ends]
  clear same ends
  cases effect with
  | ended succeeded nowMs fragmentIndex flying room =>
    exact ⟨rfl, by simpa [flying] using attempt_succ room⟩
  | configured _ _ idle | stored _ idle | started idle => exact absurd idle busy
  | reset => exact absurd rfl unreset
  | unchanged =>
    have waits : s.state = .frameInFlight → s.state ≠ .waitingForAck := by
      intro flying
      simp [flying]
    simpa using waits
  | rewound | handed | advanced | retried | timedOut | answered => simp_all

/-- The attempts of a delivery are bounded by the policy, and used up when it times out. -/
structure Budgeted (d : EspNowReliableDelivery) : Prop where
  bounded : d.attemptCount ≤ d.policy.maxAttempts
  unused : d.state = .idle → d.attemptCount = 0
  exhausted : d.state = .timedOut → d.attemptCount = d.policy.maxAttempts

theorem budgeted_of_unused {d : EspNowReliableDelivery} (unused : d.attemptCount = 0)
    (running : d.state ≠ .timedOut) : Budgeted d := by
  constructor
  · rw [unused]
    exact UInt8.zero_le
  · intro _
    exact unused
  · intro timedOut
    exact absurd timedOut running

/-- Between its start and its end a delivery has its bound only. -/
theorem budgeted_of_bounded {d : EspNowReliableDelivery}
    (bounded : d.attemptCount ≤ d.policy.maxAttempts) (busy : d.state ≠ .idle)
    (running : d.state ≠ .timedOut) : Budgeted d := by
  constructor
  · exact bounded
  · intro idle
    exact absurd idle busy
  · intro timedOut
    exact absurd timedOut running

theorem ready_of_starts {call : SenderCall} {t : ReliableMessageSender} (effect : s.Effect call t)
    (starts : s.Starts call) :
    t.state = .ready ∧ t.delivery.state = .readyToSend ∧ t.delivery.attemptCount = 0 := by
  cases effect with
  | started _ _ ready delivered unused => exact ⟨ready, delivered, unused⟩
  | unchanged unstarted | stored _ _ unstarted => exact absurd starts unstarted
  | _ => exact starts.elim

/-- An idle sender stays idle until a start is accepted. -/
theorem idle_apply {call : SenderCall} {t : ReliableMessageSender} (effect : s.Effect call t)
    (idle : s.state = .idle) (unused : s.delivery.attemptCount = 0)
    (unstarted : ¬ s.Starts call) : t.state = .idle ∧ t.delivery.attemptCount = 0 := by
  cases effect with
  | unchanged | configured | stored => exact ⟨idle, unused⟩
  | started _ starts => exact absurd starts unstarted
  | rewound _ state | retried _ state | timedOut _ state | handed state | advanced _ state
  | ended _ _ _ state | answered _ state => simp [idle] at state
  | reset => exact ⟨rfl, rfl⟩

theorem budgeted_effect {call : SenderCall} {t : ReliableMessageSender} (coupled : s.Coupled)
    (budgeted : Budgeted s.delivery) (effect : s.Effect call t) : Budgeted t.delivery := by
  cases effect with
  | unchanged | rewound | handed | advanced | stored => exact budgeted
  | configured _ _ idle =>
    have quiet := coupled.quiet idle
    exact budgeted_of_unused (budgeted.unused quiet) (by simp [quiet])
  | started _ _ _ delivered unused => exact budgeted_of_unused unused (by simp [delivered])
  | retried => exact budgeted_of_bounded budgeted.bounded (by simp) (by simp)
  | answered =>
    refine budgeted_of_bounded budgeted.bounded ?_ ?_
    · simp only
      split <;> simp
    · simp only
      split <;> simp
  | timedOut _ _ spent =>
    constructor
    · exact budgeted.bounded
    · simp
    · intro _
      exact UInt8.le_antisymm budgeted.bounded spent
  | ended _ _ _ _ room =>
    refine budgeted_of_bounded ?_ (by simp) (by simp)
    have sum : (s.delivery.attemptCount + 1).toNat = s.delivery.attemptCount.toNat + 1 :=
      attempt_succ room
    rw [UInt8.le_iff_toNat_le, sum]
    exact UInt8.lt_iff_toNat_lt.mp room
  | reset => exact budgeted_of_unused rfl (by simp [reset, EspNowReliableDelivery.reset])

theorem budgeted_calls (coupled : s.Coupled) (budgeted : Budgeted s.delivery)
    (made : List SenderCall) : Budgeted (s.calls made).delivery := by
  induction made generalizing s with
  | nil => exact budgeted
  | cons call later hyp =>
    have next := budgeted_effect coupled budgeted (effect_apply coupled call)
    exact hyp (coupled_apply coupled call) next

theorem budgeted_after (made : List SenderCall) : Budgeted (after made).delivery :=
  budgeted_calls coupled_fresh (budgeted_of_unused rfl (by decide)) made

/- One delivery -/

/-- Without a reset the message and the policy stay, and the attempts are counted. -/
theorem delivery_calls (coupled : s.Coupled) (busy : s.state ≠ .idle) {during : List SenderCall}
    (unreset : .reset ∉ during) :
    s.SameMessage (s.calls during) ∧ (s.calls during).delivery.policy = s.delivery.policy ∧
      (s.calls during).delivery.attemptCount.toNat =
        s.delivery.attemptCount.toNat + s.attemptsCounted during := by
  induction during generalizing s with
  | nil => exact ⟨.refl s, rfl, rfl⟩
  | cons call later hyp =>
    have first : call ≠ .reset := fun same => unreset (same ▸ List.mem_cons_self)
    have same := sameMessage_apply coupled busy first
    obtain ⟨policy, count⟩ := attempt_apply (effect_apply coupled call) rfl busy first
    obtain ⟨sameLater, policyLater, countLater⟩ := hyp (coupled_apply coupled call)
      (fun idle => busy (same.idle.mp idle)) (fun member => unreset (List.mem_cons_of_mem _ member))
    refine ⟨same.trans sameLater, policyLater.trans policy, ?_⟩
    show ((call.apply s).calls later).delivery.attemptCount.toNat = _
    rw [countLater, count, attemptsCounted]
    omega

theorem after_append (before made : List SenderCall) :
    after (before ++ made) = (after before).calls made := by
  simp [after, calls]

section Sending
variable {made before during : List SenderCall} {call : SenderCall}

theorem Sending.delivery (sending : Sending made before call during) :
    (after (before ++ [call])).SameMessage (after made) ∧
      (after made).delivery.attemptCount.toNat =
        (after (before ++ [call])).attemptsCounted during := by
  have effect := effect_apply (coupled_after before) call
  obtain ⟨ready, -, count⟩ := ready_of_starts effect sending.accepted
  have started : after (before ++ [call]) = call.apply (after before) := after_append before [call]
  have ends : after made = (after (before ++ [call])).calls during := by
    rw [sending.split, List.append_cons, after_append]
  obtain ⟨same, -, counted⟩ := delivery_calls (coupled_after (before ++ [call]))
    (by simp [started, ready]) sending.unreset
  rw [← ends] at same counted
  rw [started, count] at counted
  exact ⟨same, by simpa [started] using counted⟩

/-- A sender that is not idle is in a delivery. -/
theorem sending_of_busy (made : List SenderCall) (busy : (after made).state ≠ .idle) :
    ∃ before call during, Sending made before call during := by
  induction made using List.reverseRecOn with
  | nil => exact absurd rfl busy
  | append_singleton earlier last hyp =>
    have step : after (earlier ++ [last]) = last.apply (after earlier) :=
      after_append earlier [last]
    rw [step] at busy
    by_cases starts : (after earlier).Starts last
    · exact ⟨earlier, last, [], rfl, starts, by simp⟩
    have unreset : last ≠ .reset := by
      rintro rfl
      exact busy rfl
    have open' : (after earlier).state ≠ .idle := by
      intro idle
      have coupled := coupled_after earlier
      have unused := (budgeted_after earlier).unused (coupled.quiet idle)
      exact busy (idle_apply (effect_apply coupled last) idle unused starts).1
    obtain ⟨before, call, during, split, accepted, clear⟩ := hyp open'
    refine ⟨before, call, during ++ [last], by simp [split], accepted, ?_⟩
    simpa [clear] using Ne.symm unreset

/-- Every frame handed out in a delivery carries the envelope of its start. -/
theorem envelope_of_takeFrame (sending : Sending made before call during) {peerIndex : PeerIndex}
    {frame : EspNowRadioFrame} {t : ReliableMessageSender}
    (taken : (after made).takeFrame = (some (peerIndex, frame), t)) :
    ∃ f, EspNowFrameReassembler.validate frame.bytes = .ok f ∧
      f.envelope = (after (before ++ [call])).envelope := by
  have coupled := coupled_after made
  rcases takeFrame_cases coupled with ⟨-, none⟩ | ⟨ready, -, some⟩
  · rw [none] at taken
    cases taken
  · rw [some] at taken
    obtain ⟨rfl, rfl⟩ := Prod.mk.inj (Option.some.inj (Prod.mk.inj taken).1)
    have delivered := (stateFor_ready_iff.mp (coupled.state ▸ ready)).1
    have loaded := coupled.loaded (by simp [delivered])
    have inside := coupled.position delivered
    rw [loaded.count] at inside
    exact ⟨_, validate_fragmentFrame loaded.identity inside, sending.delivery.1.envelope⟩

end Sending

theorem acknowledged_of_effect {call : SenderCall} {t : ReliableMessageSender}
    (effect : s.Effect call t) (before : s.state ≠ .acknowledged)
    (acknowledged : t.state = .acknowledged) :
    ∃ ack, call = .acceptAck ack ∧ ack.acknowledged = s.delivery.key ∧ ack.status ≠ .rejected := by
  cases effect with
  | answered ack _ own =>
    refine ⟨ack, rfl, own, ?_⟩
    intro refused
    simp [refused] at acknowledged
  | unchanged | configured | stored | rewound => exact absurd acknowledged before
  | started _ _ ready => simp [ready] at acknowledged
  | retried | timedOut | handed | advanced | ended | reset => cases acknowledged

/-- How the sender's state, its delivery and its flag belong together. -/
structure Consistent (s : ReliableMessageSender) : Prop where
  attempts : s.delivery.attemptCount ≤ s.delivery.policy.maxAttempts
  sending : s.state = .ready ∨ s.state = .frameInFlight →
    s.delivery.state = .readyToSend ∧ s.delivery.attemptCount < s.delivery.policy.maxAttempts
  waiting : s.state = .waitingForAck → s.delivery.state = .waitingForAck
  flight : s.frameInFlight = true ↔ s.state = .frameInFlight
  completes : s.frameInFlight = true → ∀ succeeded nowMs,
    (s.completeFrame succeeded nowMs).1 = true ∧
      (s.completeFrame succeeded nowMs).2.state ≠ .frameInFlight

theorem consistent (coupled : s.Coupled) (budgeted : Budgeted s.delivery) : s.Consistent := by
  constructor
  · exact budgeted.bounded
  · intro sending
    have delivered : s.delivery.state = .readyToSend := by
      rcases sending with ready | flying
      · exact (stateFor_ready_iff.mp (coupled.state ▸ ready)).1
      · exact coupled.flight (coupled.flight_iff.mpr flying)
    exact ⟨delivered, coupled.attempts delivered⟩
  · intro waiting
    exact stateFor_waiting_iff.mp (coupled.state ▸ waiting)
  · exact coupled.flight_iff
  · intro flying succeeded nowMs
    rcases completeFrame_cases coupled succeeded nowMs with
      ⟨landed, -⟩ | ⟨-, -, -, next⟩ | ⟨-, -, next⟩
    · simp [flying] at landed
    · rw [next]
      exact ⟨rfl, by simp⟩
    · rw [next]
      exact ⟨rfl, by simp⟩

/-- Over any calls: the states belong together, a delivery's frames carry one envelope, a
    message times out after all its attempts, and only its own ACK acknowledges it. -/
theorem deliveries_consistent (made : List SenderCall) :
    (after made).Consistent ∧
      (∀ before call during, Sending made before call during → ∀ peerIndex frame t,
        (after made).takeFrame = (some (peerIndex, frame), t) →
        ∃ f, EspNowFrameReassembler.validate frame.bytes = .ok f ∧
          f.envelope = (after (before ++ [call])).envelope) ∧
      ((after made).state = .timedOut → ∃ before call during, Sending made before call during ∧
        (after (before ++ [call])).attemptsCounted during =
          (after made).delivery.policy.maxAttempts.toNat) ∧
      ∀ call : SenderCall, (after made).state ≠ .acknowledged →
        (call.apply (after made)).state = .acknowledged →
        ∃ ack, call = .acceptAck ack ∧ ack.acknowledged = (after made).delivery.key ∧
          ack.status ≠ .rejected := by
  have coupled := coupled_after made
  have budgeted := budgeted_after made
  refine ⟨consistent coupled budgeted, ?_, ?_, ?_⟩
  · intro before call during sending peerIndex frame t taken
    exact envelope_of_takeFrame sending taken
  · intro timedOut
    obtain ⟨before, call, during, sending⟩ := sending_of_busy made (by simp [timedOut])
    have delivered := stateFor_timedOut_iff.mp (coupled.state ▸ timedOut)
    refine ⟨before, call, during, sending, ?_⟩
    rw [← sending.delivery.2, budgeted.exhausted delivered]
  · intro call before acknowledged
    exact acknowledged_of_effect (effect_apply coupled call) before acknowledged

/- Proofs of delivery that are not seen -/

/-- After a complete transmission an ACK that proves the delivery is presented to the sender
    `t`, in the calls made from `s` on. -/
def ProofPresented (s : ReliableMessageSender) (made : List SenderCall)
    (t : ReliableMessageSender) : Prop :=
  ∃ earlier nowMs between ack later,
    made = earlier ++ .completeFrame true nowMs :: (between ++ .acceptAck ack :: later) ∧
    (s.calls earlier).state = .frameInFlight ∧
    (s.calls earlier).fragmentIndex + 1 = (s.calls earlier).fragmentCount ∧
    t = s.calls (earlier ++ .completeFrame true nowMs :: between) ∧
    ack.acknowledged = t.delivery.key ∧ ack.status ≠ .rejected

theorem acknowledged_stays {call : SenderCall} {t : ReliableMessageSender}
    (effect : s.Effect call t) (acknowledged : s.state = .acknowledged) (unreset : call ≠ .reset) :
    t.state = .acknowledged := by
  cases effect with
  | unchanged => exact acknowledged
  | configured _ _ state | stored _ state | started state | rewound _ state | retried _ state
  | timedOut _ state | handed state | advanced _ state | ended _ _ _ state | answered _ state =>
    simp [acknowledged] at state
  | reset => exact absurd rfl unreset

theorem acknowledged_calls (coupled : s.Coupled) (acknowledged : s.state = .acknowledged)
    {made : List SenderCall} (unreset : .reset ∉ made) :
    (s.calls made).state = .acknowledged := by
  induction made generalizing s with
  | nil => exact acknowledged
  | cons call later hyp =>
    have first : call ≠ .reset := fun same => unreset (same ▸ List.mem_cons_self)
    exact hyp (coupled_apply coupled call)
      (acknowledged_stays (effect_apply coupled call) acknowledged first)
      (fun member => unreset (List.mem_cons_of_mem _ member))

theorem calls_append (s : ReliableMessageSender) (earlier later : List SenderCall) :
    s.calls (earlier ++ later) = (s.calls earlier).calls later := by
  simp [calls]

/-- A proof presented while the sender waits ends the delivery for good. -/
theorem acknowledged_of_presented (coupled : s.Coupled) {made : List SenderCall}
    (unreset : .reset ∉ made) {t : ReliableMessageSender} (presented : s.ProofPresented made t)
    (waiting : t.state = .waitingForAck) : (s.calls made).state = .acknowledged := by
  obtain ⟨earlier, nowMs, between, ack, later, split, -, -, same, own, proof⟩ := presented
  have reached : t.Coupled := by
    rw [same]
    exact coupled_calls coupled _
  have delivered := stateFor_waiting_iff.mp (reached.state ▸ waiting)
  have answered : ((SenderCall.acceptAck ack).apply t).state = .acknowledged := by
    rcases acceptAck_cases t ack with none | ⟨-, -, next⟩
    · simp [acceptAck, EspNowReliableDelivery.acceptAck, delivered, own] at none
    · simp [SenderCall.apply, next, proof]
  have rest : .reset ∉ later := by
    intro member
    exact unreset (by simp [split, member])
  have whole : s.calls made = (((SenderCall.acceptAck ack).apply t)).calls later := by
    rw [split, List.append_cons, ← List.append_assoc, calls_append, same]
    simp [calls]
  rw [whole]
  exact acknowledged_calls (coupled_apply reached _) answered rest

/-- A delivery that times out was presented no proof of itself, exactly when every proof came
    while the sender waited for it. -/
theorem timedOut_without_proof_iff (made before during : List SenderCall) (call last : SenderCall)
    (sending : Sending made before call during)
    (timedOut : (after (made ++ [last])).state = .timedOut) :
    (∀ t, ¬ (after (before ++ [call])).ProofPresented during t) ↔
      ∀ t, (after (before ++ [call])).ProofPresented during t → t.state = .waitingForAck := by
  constructor
  · intro none t presented
    exact absurd presented (none t)
  · intro waits t presented
    have coupled := coupled_after (before ++ [call])
    have acknowledged :=
      acknowledged_of_presented coupled sending.unreset presented (waits t presented)
    have ends : after (made ++ [last]) =
        last.apply ((after (before ++ [call])).calls during) := by
      rw [after_append, sending.split, List.append_cons, after_append]
      rfl
    rw [ends] at timedOut
    by_cases reset : last = .reset
    · subst reset
      cases timedOut
    · have reached := coupled_calls coupled during
      have stays := acknowledged_stays (effect_apply reached last) acknowledged reset
      simp [stays] at timedOut

/-- The ACK of the first attempt comes after its timer has expired, when the second attempt has
    not been handed out; the ACK of the second attempt is lost. -/
def lateAckCalls : List SenderCall :=
  [.takeFrame, .completeFrame true 0, .loop 250, .acceptAck ⟨⟨1, 7, 1⟩, .accepted⟩,
    .takeFrame, .completeFrame true 260]

def lateAckStart : SenderCall := .start 0 .command 7 (some [1])

def lateAckBefore : List SenderCall := [.configure 1 ⟨250, 2⟩]

theorem lateAck_sending :
    Sending (lateAckBefore ++ lateAckStart :: lateAckCalls) lateAckBefore lateAckStart
      lateAckCalls := by
  constructor
  · rfl
  · show ((after lateAckBefore).start 0 .command 7 (some [1])).1 = true
    decide +kernel
  · simp [lateAckCalls]

theorem lateAck_timedOut :
    (after (lateAckBefore ++ lateAckStart :: lateAckCalls ++ [.loop 510])).state = .timedOut := by
  decide +kernel

theorem lateAck_iff :
    (∀ t, ¬ (after (lateAckBefore ++ [lateAckStart])).ProofPresented lateAckCalls t) ↔
      ∀ t, (after (lateAckBefore ++ [lateAckStart])).ProofPresented lateAckCalls t →
        t.state = .waitingForAck :=
  timedOut_without_proof_iff _ _ _ _ (.loop 510) lateAck_sending lateAck_timedOut

/-- A proof of delivery that comes while a retry is being prepared is thrown away. -/
theorem late_proof_times_out :
    ¬ ∀ (made before during : List SenderCall) (call last : SenderCall),
      Sending made before call during → (after made).state ≠ .timedOut →
      (after (made ++ [last])).state = .timedOut →
      ∀ t, ¬ (after (before ++ [call])).ProofPresented during t := by
  intro holds
  refine holds _ _ _ _ (.loop 510) lateAck_sending (by decide +kernel) lateAck_timedOut _
    ⟨[.takeFrame], 0, [.loop 250], ⟨⟨1, 7, 1⟩, .accepted⟩, [.takeFrame, .completeFrame true 260],
      rfl, ?_, ?_, rfl, ?_, ?_⟩
  all_goals decide +kernel

end ReliableMessageSender

end EspNowNet
