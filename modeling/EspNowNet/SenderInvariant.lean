import EspNowNet.ReliableSender

/- The sender repeats part of the delivery machine's state. This module states how the
   two are coupled and shows that every public call keeps the coupling. -/
namespace EspNowNet
open EspNowFrameCodec
namespace ReliableMessageSender

/-- The sender state that belongs to a delivery state and the in-flight flag. -/
def stateFor (inFlight : Bool) : EspNowDeliveryState → ReliableSenderState
  | .idle => .idle
  | .readyToSend => if inFlight then .frameInFlight else .ready
  | .waitingForAck => .waitingForAck
  | .acknowledged => .acknowledged
  | .rejected => .rejected
  | .timedOut => .timedOut

/-- A message is stored with its envelope, its key and its fragment count. -/
structure Loaded (s : ReliableMessageSender) : Prop where
  identity : s.envelope.identity.Valid
  kind : s.envelope.kind ≠ .ack
  flags : s.envelope.flags = flagAckRequired
  boot : s.envelope.sourceBootId = s.localBootId
  key : s.delivery.key = s.envelope.identity
  count : s.fragmentCount = EspNowFrameCodec.fragmentCount s.message.size
  nonempty : 0 < s.fragmentCount

theorem Loaded.transfer {s t : ReliableMessageSender} (loaded : s.Loaded)
    (same : t.envelope = s.envelope ∧ t.localBootId = s.localBootId ∧
      t.delivery.key = s.delivery.key ∧ t.message = s.message ∧
      t.fragmentCount = s.fragmentCount) : t.Loaded := by
  obtain ⟨envelope, boot, key, message, count⟩ := same
  obtain ⟨identity, kind, flags, ownBoot, ownKey, counted, nonempty⟩ := loaded
  constructor <;> simp_all

structure Coupled (s : ReliableMessageSender) : Prop where
  policy : s.delivery.policy.Valid
  state : s.state = stateFor s.frameInFlight s.delivery.state
  flight : s.frameInFlight = true → s.delivery.state = .readyToSend
  attempts : s.delivery.state = .readyToSend →
    s.delivery.attemptCount < s.delivery.policy.maxAttempts
  position : s.delivery.state = .readyToSend → s.fragmentIndex < s.fragmentCount
  loaded : s.delivery.state ≠ .idle → s.Loaded

theorem stateFor_idle_iff {inFlight : Bool} {d : EspNowDeliveryState} :
    stateFor inFlight d = .idle ↔ d = .idle := by
  cases d <;> cases inFlight <;> simp [stateFor]

theorem stateFor_ready_iff {inFlight : Bool} {d : EspNowDeliveryState} :
    stateFor inFlight d = .ready ↔ d = .readyToSend ∧ inFlight = false := by
  cases d <;> cases inFlight <;> simp [stateFor]

theorem stateFor_waiting_iff {inFlight : Bool} {d : EspNowDeliveryState} :
    stateFor inFlight d = .waitingForAck ↔ d = .waitingForAck := by
  cases d <;> cases inFlight <;> simp [stateFor]

theorem stateFor_timedOut_iff {inFlight : Bool} {d : EspNowDeliveryState} :
    stateFor inFlight d = .timedOut ↔ d = .timedOut := by
  cases d <;> cases inFlight <;> simp [stateFor]

theorem Coupled.state_ne_idle {s : ReliableMessageSender} (coupled : s.Coupled)
    (busy : s.state ≠ .idle) : s.delivery.state ≠ .idle := by
  intro idle
  exact busy (by rw [coupled.state, idle]; rfl)

theorem coupled_fresh : ({} : ReliableMessageSender).Coupled := by
  refine ⟨by decide, rfl, by simp, by simp, by simp, by simp⟩

theorem coupled_reset {s : ReliableMessageSender} (coupled : s.Coupled) : s.reset.Coupled := by
  refine ⟨coupled.policy, rfl, ?_, ?_, ?_, ?_⟩ <;> simp [reset, EspNowReliableDelivery.reset]

theorem coupled_configure {s : ReliableMessageSender} (coupled : s.Coupled)
    (localBootId : UInt64) (policy : EspNowRetryPolicy) :
    (s.configure localBootId policy).2.Coupled := by
  unfold configure
  split
  · exact coupled
  · rename_i idle
    simp only [not_or, Decidable.not_not] at idle
    have quiet : s.delivery.state = .idle := by
      rw [coupled.state, stateFor_idle_iff] at idle
      exact idle.1
    unfold EspNowReliableDelivery.configure
    by_cases valid : policy.Valid
    · simp only [quiet, ne_eq, not_true_eq_false, valid, or_self, ↓reduceIte]
      refine ⟨valid, ?_, ?_, ?_, ?_, ?_⟩ <;> simp [stateFor, idle.1]
      have := coupled.flight
      simpa [quiet] using this
    · simp only [valid, not_false_eq_true, or_true, ↓reduceIte]
      exact coupled

/-- Configuring changes the boot id and the policy only. -/
theorem configure_eq (s : ReliableMessageSender) (localBootId : UInt64)
    (policy : EspNowRetryPolicy) :
    (s.configure localBootId policy).2 = s ∨
      (s.configure localBootId policy) =
        (true, { s with localBootId, delivery := { s.delivery with policy } }) := by
  unfold configure EspNowReliableDelivery.configure
  split
  · exact Or.inl rfl
  · by_cases accepted : s.delivery.state ≠ .idle ∨ ¬ policy.Valid
    · simp [accepted]
    · simp [accepted]

theorem configure_boot {s : ReliableMessageSender} {localBootId : UInt64} {policy : EspNowRetryPolicy}
    (accepted : (s.configure localBootId policy).1 = true) :
    (s.configure localBootId policy).2.localBootId = localBootId := by
  unfold configure at accepted ⊢
  split at accepted
  · cases accepted
  · rename_i allowed
    rw [if_neg allowed]
    cases run : s.delivery.configure policy with
    | mk done delivery =>
      cases done
      · simp [run] at accepted
      · rfl

theorem start_true {s t : ReliableMessageSender} {peerIndex : PeerIndex} {kind : EspNowFrameKind}
    {transactionId : TransactionId} {message : Option (List UInt8)}
    (run : s.start peerIndex kind transactionId message = (true, t)) :
    ∃ stored : BoundedBytes 640, message = some stored.bytes ∧
      s.localBootId ≠ 0 ∧ s.state = .idle ∧ peerIndex ≠ invalidPeerIndex ∧
      transactionId ≠ 0 ∧ kind ≠ .ack ∧
      EspNowFrameCodec.fragmentCount stored.size ≠ 0 ∧
      t = { s.load peerIndex kind transactionId stored with
        delivery := { s.delivery with
          key := ⟨s.localBootId, transactionId, nextSequence s.sequence⟩
          attemptCount := 0, deadlineMs := 0, state := .readyToSend }
        state := .ready } := by
  unfold start at run
  split at run
  · simp at run
  · rename_i arguments
    simp only [not_or, Decidable.not_not] at arguments
    obtain ⟨boot, idle, peer, transaction, notAck⟩ := arguments
    cases message with
    | none => simp at run
    | some bytes =>
      simp only at run
      split at run
      · simp at run
      · rename_i stored assigned
        have same := BoundedBytes.assign_true assigned
        subst same
        split at run
        · simp at run
        · rename_i counted
          split at run
          · simp at run
          · rename_i delivery started
            simp only [EspNowReliableDelivery.start] at started
            split at started
            · simp at started
            · simp only [Prod.mk.injEq, true_and] at started run
              refine ⟨stored, rfl, boot, idle, peer, transaction, notAck, counted, ?_⟩
              rw [← run, ← started]
              rfl

theorem start_false {s t : ReliableMessageSender} (coupled : s.Coupled) {peerIndex : PeerIndex}
    {kind : EspNowFrameKind} {transactionId : TransactionId} {message : Option (List UInt8)}
    (run : s.start peerIndex kind transactionId message = (false, t)) :
    t = s ∨ s.state = .idle ∧ ∃ stored, t = { s with message := stored } := by
  unfold start at run
  split at run
  · exact Or.inl (by simpa using run.symm)
  · rename_i arguments
    simp only [not_or, Decidable.not_not] at arguments
    obtain ⟨boot, idle, _, transaction, _⟩ := arguments
    cases message with
    | none => exact Or.inl (by simpa using run.symm)
    | some bytes =>
      simp only at run
      split at run
      · exact Or.inr ⟨idle, _, by simpa using run.symm⟩
      · split at run
        · exact Or.inr ⟨idle, _, by simpa using run.symm⟩
        · -- the delivery machine is idle with the sender, so it accepts the key
          have quiet : s.delivery.state = .idle := by
            rw [coupled.state, stateFor_idle_iff] at idle
            exact idle
          rename_i stored assigned counted
          have valid : (s.load peerIndex kind transactionId stored).envelope.identity.Valid :=
            ⟨boot, transaction, nextSequence_ne_zero _⟩
          simp [EspNowReliableDelivery.start, EspNowReliableDelivery.Active, quiet, valid] at run

/-- A configured sender that is idle takes any message that is not empty. -/
theorem start_of_idle {s : ReliableMessageSender} (coupled : s.Coupled) (boot : s.localBootId ≠ 0)
    (idle : s.state = .idle) {peerIndex : PeerIndex} (peer : peerIndex ≠ invalidPeerIndex)
    {kind : EspNowFrameKind} (notAck : kind ≠ .ack) {transactionId : TransactionId}
    (transaction : transactionId ≠ 0) (message : BoundedBytes 640) (nonempty : message.bytes ≠ []) :
    ∃ t, s.start peerIndex kind transactionId (some message.bytes) = (true, t) := by
  have quiet : s.delivery.state = .idle := by
    rw [coupled.state, stateFor_idle_iff] at idle
    exact idle
  have valid : (s.load peerIndex kind transactionId message).envelope.identity.Valid :=
    ⟨boot, transaction, nextSequence_ne_zero _⟩
  have counted : EspNowFrameCodec.fragmentCount message.bytes.length ≠ 0 := by
    have positive := List.length_pos_iff.mpr nonempty
    exact (fragmentCount_bounds positive message.fits).1.ne'
  unfold start
  simp [boot, idle, peer, transaction, notAck, BoundedBytes.assign_fits message.fits, counted,
    EspNowReliableDelivery.start, EspNowReliableDelivery.Active, quiet, valid]

theorem coupled_start {s : ReliableMessageSender} (coupled : s.Coupled) (peerIndex : PeerIndex)
    (kind : EspNowFrameKind) (transactionId : TransactionId) (message : Option (List UInt8)) :
    (s.start peerIndex kind transactionId message).2.Coupled := by
  cases run : s.start peerIndex kind transactionId message with
  | mk done t =>
    cases done with
    | true =>
      obtain ⟨stored, _, boot, idle, _, transaction, notAck, counted, rfl⟩ := start_true run
      have positive : 0 < EspNowFrameCodec.fragmentCount stored.size := Nat.pos_of_ne_zero counted
      refine ⟨coupled.policy, rfl, ?_, ?_, ?_, ?_⟩
      · simp [load]
      · intro _
        have nonzero := coupled.policy.2
        have bytes : s.delivery.policy.maxAttempts.toNat ≠ 0 := by
          intro zero
          exact nonzero (UInt8.toNat_inj.mp zero)
        exact UInt8.lt_iff_toNat_lt.mpr (Nat.pos_of_ne_zero bytes)
      · intro _
        exact positive
      · intro _
        exact ⟨⟨boot, transaction, nextSequence_ne_zero _⟩, notAck, rfl, rfl, rfl, rfl, positive⟩
    | false =>
      rcases start_false coupled run with rfl | ⟨idle, stored, rfl⟩
      · exact coupled
      · have quiet : s.delivery.state = .idle := by
          rw [coupled.state, stateFor_idle_iff] at idle
          exact idle
        refine ⟨coupled.policy, coupled.state, coupled.flight, coupled.attempts, coupled.position, ?_⟩
        simp [quiet]

theorem delivery_loop_cases (d : EspNowReliableDelivery) (nowMs : UInt32) :
    d.loop nowMs = d ∨
      d.state = .waitingForAck ∧
        ((d.attemptCount < d.policy.maxAttempts ∧ d.loop nowMs = { d with state := .readyToSend }) ∨
          d.loop nowMs = { d with state := .timedOut }) := by
  unfold EspNowReliableDelivery.loop
  split
  · exact Or.inl rfl
  · rename_i expired
    simp only [not_or, Decidable.not_not] at expired
    by_cases more : d.attemptCount < d.policy.maxAttempts
    · exact Or.inr ⟨expired.1, Or.inl ⟨more, by simp [more]⟩⟩
    · exact Or.inr ⟨expired.1, Or.inr (by simp [more])⟩

/-- What one `loop` can do. A waiting message may start over or time out; a message whose
    delivery is ready and has no frame in flight has its position set back to zero. -/
theorem loop_cases {s : ReliableMessageSender} (coupled : s.Coupled) (nowMs : UInt32) :
    s.loop nowMs = s ∨
      (s.state = .ready ∧ s.loop nowMs = { s with fragmentIndex := 0 }) ∨
      (s.state = .waitingForAck ∧
        s.delivery.attemptCount < s.delivery.policy.maxAttempts ∧
        s.loop nowMs = { s with
          delivery := { s.delivery with state := .readyToSend }
          fragmentIndex := 0, state := .ready }) ∨
      (s.state = .waitingForAck ∧
        s.loop nowMs = { s with
          delivery := { s.delivery with state := .timedOut }, state := .timedOut }) := by
  have form := coupled.state
  rcases delivery_loop_cases s.delivery nowMs with same | ⟨waiting, ⟨more, next⟩ | next⟩
  · cases delivered : s.delivery.state with
    | readyToSend =>
      cases flight : s.frameInFlight with
      | true =>
        left
        simp only [loop, same, delivered, flight, ↓reduceIte]
        rw [← flight]
      | false =>
        rw [delivered, flight] at form
        refine Or.inr (Or.inl ⟨form, ?_⟩)
        have ready : s.state = .ready := form
        simp [loop, same, delivered, flight, ← ready]
    | idle => exact Or.inl (by simp [loop, same, delivered])
    | waitingForAck | acknowledged | rejected | timedOut =>
      rw [delivered] at form
      simp only [stateFor] at form
      exact Or.inl (by simp [loop, same, delivered, ← form])
  · rw [waiting] at form
    have landed : s.frameInFlight = false := by
      by_contra flying
      have := coupled.flight (by simpa using flying)
      simp [waiting] at this
    refine Or.inr (Or.inr (Or.inl ⟨form, more, ?_⟩))
    simp [loop, next, landed]
  · rw [waiting] at form
    exact Or.inr (Or.inr (Or.inr ⟨form, by simp [loop, next]⟩))

theorem coupled_loop {s : ReliableMessageSender} (coupled : s.Coupled) (nowMs : UInt32) :
    (s.loop nowMs).Coupled := by
  rcases loop_cases coupled nowMs with same | ⟨ready, next⟩ | ⟨waiting, more, next⟩ | ⟨waiting, next⟩
  · rw [same]
    exact coupled
  · rw [next]
    have delivered := (stateFor_ready_iff.mp (coupled.state ▸ ready)).1
    have loaded := coupled.loaded (by simp [delivered])
    exact ⟨coupled.policy, coupled.state, coupled.flight, coupled.attempts,
      fun _ => loaded.nonempty, fun _ => loaded.transfer ⟨rfl, rfl, rfl, rfl, rfl⟩⟩
  · rw [next]
    have delivered := stateFor_waiting_iff.mp (coupled.state ▸ waiting)
    have loaded := coupled.loaded (by simp [delivered])
    have landed : s.frameInFlight = false := by
      by_contra flying
      have := coupled.flight (by simpa using flying)
      simp [delivered] at this
    refine ⟨coupled.policy, by simp [stateFor, landed], by simp, fun _ => more,
      fun _ => loaded.nonempty, fun _ => ?_⟩
    exact loaded.transfer ⟨rfl, rfl, rfl, rfl, rfl⟩
  · rw [next]
    have delivered := stateFor_waiting_iff.mp (coupled.state ▸ waiting)
    have loaded := coupled.loaded (by simp [delivered])
    refine ⟨coupled.policy, rfl, ?_, by simp, by simp, fun _ => ?_⟩
    · intro flying
      have := coupled.flight flying
      simp [delivered] at this
    · exact loaded.transfer ⟨rfl, rfl, rfl, rfl, rfl⟩

/-- A frame is handed out exactly when the sender is ready, and it is the fragment at the
    sender's position. -/
theorem takeFrame_cases {s : ReliableMessageSender} (coupled : s.Coupled) :
    (s.state ≠ .ready ∧ s.takeFrame = (none, s)) ∨
      (s.state = .ready ∧ s.frameInFlight = false ∧ s.takeFrame =
        (some (s.peerIndex, fragmentFrame s.envelope s.message.bytes s.fragmentIndex),
          { s with frameInFlight := true, state := .frameInFlight })) := by
  by_cases ready : s.state = .ready
  · obtain ⟨delivered, landed⟩ := stateFor_ready_iff.mp (coupled.state ▸ ready)
    have loaded := coupled.loaded (by simp [delivered])
    have inside := coupled.position delivered
    have within : s.fragmentIndex < EspNowFrameCodec.fragmentCount s.message.bytes.length := by
      rw [← BoundedBytes.size, ← loaded.count]
      exact inside
    have encoded := encodeFragment_eq_ok loaded.identity within
    exact Or.inr ⟨ready, landed, by simp [takeFrame, ready, landed, Nat.not_le.mpr inside, encoded]⟩
  · exact Or.inl ⟨ready, by simp [takeFrame, ready]⟩

theorem coupled_takeFrame {s : ReliableMessageSender} (coupled : s.Coupled) :
    s.takeFrame.2.Coupled := by
  rcases takeFrame_cases coupled with ⟨_, same⟩ | ⟨ready, _, next⟩
  · rw [same]
    exact coupled
  · rw [next]
    have delivered := (stateFor_ready_iff.mp (coupled.state ▸ ready)).1
    have loaded := coupled.loaded (by simp [delivered])
    refine ⟨coupled.policy, by simp [stateFor, delivered], fun _ => delivered, coupled.attempts,
      coupled.position, fun _ => ?_⟩
    exact loaded.transfer ⟨rfl, rfl, rfl, rfl, rfl⟩

theorem markSent_coupled {s : ReliableMessageSender} (delivered : s.delivery.state = .readyToSend)
    (attempts : s.delivery.attemptCount < s.delivery.policy.maxAttempts) (nowMs : UInt32) :
    s.markSent nowMs = (true, { s with
      delivery := { s.delivery with
        attemptCount := s.delivery.attemptCount + 1
        deadlineMs := nowMs + s.delivery.policy.ackTimeoutMs
        state := .waitingForAck }
      state := .waitingForAck }) := by
  simp [markSent, EspNowReliableDelivery.markSent, delivered, UInt8.not_le.mpr attempts]

/-- A completion without a frame in flight does nothing; a failed one, or that of the last
    fragment, ends the attempt; any other moves to the next fragment. -/
theorem completeFrame_cases {s : ReliableMessageSender} (coupled : s.Coupled) (succeeded : Bool)
    (nowMs : UInt32) :
    (s.frameInFlight = false ∧ s.completeFrame succeeded nowMs = (false, s)) ∨
      (s.frameInFlight = true ∧ succeeded = true ∧ s.fragmentIndex + 1 < s.fragmentCount ∧
        s.completeFrame succeeded nowMs = (true, { s with
          frameInFlight := false, fragmentIndex := s.fragmentIndex + 1, state := .ready })) ∨
      (s.frameInFlight = true ∧ (succeeded = true → s.fragmentIndex + 1 = s.fragmentCount) ∧
        s.completeFrame succeeded nowMs = (true, { s with
          frameInFlight := false
          fragmentIndex := if succeeded then s.fragmentIndex + 1 else s.fragmentIndex
          delivery := { s.delivery with
            attemptCount := s.delivery.attemptCount + 1
            deadlineMs := nowMs + s.delivery.policy.ackTimeoutMs
            state := .waitingForAck }
          state := .waitingForAck })) := by
  cases flight : s.frameInFlight with
  | false => exact Or.inl ⟨rfl, by simp [completeFrame, flight]⟩
  | true =>
    have delivered := coupled.flight flight
    have attempts := coupled.attempts delivered
    have inside := coupled.position delivered
    cases succeeded with
    | false =>
      refine Or.inr (Or.inr ⟨rfl, by simp, ?_⟩)
      simp only [completeFrame, flight, not_true_eq_false, ↓reduceIte, Bool.false_eq_true,
        not_false_eq_true]
      exact markSent_coupled (s := { s with frameInFlight := false }) delivered attempts nowMs
    | true =>
      by_cases more : s.fragmentIndex + 1 < s.fragmentCount
      · exact Or.inr (Or.inl ⟨rfl, rfl, more, by simp [completeFrame, flight, more]⟩)
      · refine Or.inr (Or.inr ⟨rfl, fun _ => by omega, ?_⟩)
        simp only [completeFrame, flight, not_true_eq_false, ↓reduceIte, more]
        exact markSent_coupled
          (s := { s with frameInFlight := false, fragmentIndex := s.fragmentIndex + 1 })
          delivered attempts nowMs

theorem coupled_completeFrame {s : ReliableMessageSender} (coupled : s.Coupled)
    (succeeded : Bool) (nowMs : UInt32) : (s.completeFrame succeeded nowMs).2.Coupled := by
  rcases completeFrame_cases coupled succeeded nowMs with
    ⟨_, same⟩ | ⟨flight, _, more, next⟩ | ⟨flight, _, next⟩
  · rw [same]
    exact coupled
  · rw [next]
    have delivered := coupled.flight flight
    have loaded := coupled.loaded (by simp [delivered])
    refine ⟨coupled.policy, by simp [stateFor, delivered], by simp, coupled.attempts,
      fun _ => more, fun _ => ?_⟩
    exact loaded.transfer ⟨rfl, rfl, rfl, rfl, rfl⟩
  · rw [next]
    have loaded := coupled.loaded (by simp [coupled.flight flight])
    refine ⟨coupled.policy, rfl, by simp, by simp, by simp, fun _ => ?_⟩
    exact loaded.transfer ⟨rfl, rfl, rfl, rfl, rfl⟩

theorem acceptAck_cases (s : ReliableMessageSender) (ack : EspNowAckPayload) :
    s.acceptAck ack = (false, s) ∨
      (s.delivery.state = .waitingForAck ∧ ack.acknowledged = s.delivery.key ∧
        s.acceptAck ack = (true, { s with
          delivery := { s.delivery with
            state := if ack.status = .rejected then .rejected else .acknowledged }
          state := if ack.status = .rejected then .rejected else .acknowledged })) := by
  unfold acceptAck EspNowReliableDelivery.acceptAck
  by_cases waiting : s.delivery.state = .waitingForAck
  · by_cases same : ack.acknowledged = s.delivery.key
    · by_cases rejected : ack.status = .rejected <;>
        exact Or.inr ⟨waiting, same, by simp [waiting, same, rejected]⟩
    · exact Or.inl (by simp [same])
  · exact Or.inl (by simp [waiting])

theorem coupled_acceptAck {s : ReliableMessageSender} (coupled : s.Coupled)
    (ack : EspNowAckPayload) : (s.acceptAck ack).2.Coupled := by
  rcases acceptAck_cases s ack with same | ⟨waiting, _, next⟩
  · rw [same]
    exact coupled
  · rw [next]
    have loaded := coupled.loaded (by simp [waiting])
    have landed : s.frameInFlight = false := by
      by_contra flying
      have := coupled.flight (by simpa using flying)
      simp [waiting] at this
    by_cases rejected : ack.status = .rejected <;>
      simp only [rejected, ↓reduceIte] <;>
      exact ⟨coupled.policy, rfl, by simp [landed], by simp, by simp,
        fun _ => loaded.transfer ⟨rfl, rfl, rfl, rfl, rfl⟩⟩

theorem coupled_apply {s : ReliableMessageSender} (coupled : s.Coupled) (call : SenderCall) :
    (call.apply s).Coupled := by
  cases call with
  | configure localBootId policy => exact coupled_configure coupled localBootId policy
  | start peerIndex kind transactionId message => exact coupled_start coupled _ _ _ _
  | loop nowMs => exact coupled_loop coupled nowMs
  | takeFrame => exact coupled_takeFrame coupled
  | completeFrame succeeded nowMs => exact coupled_completeFrame coupled succeeded nowMs
  | acceptAck ack => exact coupled_acceptAck coupled ack
  | reset => exact coupled_reset coupled

/-- Every sender that public calls can produce is coupled. -/
theorem reachable_coupled {s : ReliableMessageSender} (reachable : s.Reachable) : s.Coupled := by
  obtain ⟨calls, rfl⟩ := reachable
  generalize fresh : ({} : ReliableMessageSender) = start
  have coupled : start.Coupled := fresh ▸ coupled_fresh
  clear fresh
  induction calls generalizing start with
  | nil => exact coupled
  | cons call calls ih => exact ih _ (coupled_apply coupled call)

/-- Between its start and its reset a sender keeps the message it is working on. -/
structure SameMessage (s t : ReliableMessageSender) : Prop where
  idle : t.state = .idle ↔ s.state = .idle
  envelope : t.envelope = s.envelope
  peerIndex : t.peerIndex = s.peerIndex
  message : t.message = s.message
  localBootId : t.localBootId = s.localBootId
  sequence : t.sequence = s.sequence
  key : t.delivery.key = s.delivery.key

theorem SameMessage.refl (s : ReliableMessageSender) : s.SameMessage s :=
  ⟨Iff.rfl, rfl, rfl, rfl, rfl, rfl, rfl⟩

theorem SameMessage.trans {s t u : ReliableMessageSender} (first : s.SameMessage t)
    (second : t.SameMessage u) : s.SameMessage u :=
  ⟨second.idle.trans first.idle, second.envelope.trans first.envelope,
    second.peerIndex.trans first.peerIndex, second.message.trans first.message,
    second.localBootId.trans first.localBootId, second.sequence.trans first.sequence,
    second.key.trans first.key⟩

theorem sameMessage_loop {s : ReliableMessageSender} (coupled : s.Coupled) (nowMs : UInt32) :
    s.SameMessage (s.loop nowMs) := by
  rcases loop_cases coupled nowMs with same | ⟨_, next⟩ | ⟨waiting, _, next⟩ | ⟨waiting, next⟩
  · rw [same]
    exact .refl s
  · rw [next]
    exact ⟨Iff.rfl, rfl, rfl, rfl, rfl, rfl, rfl⟩
  · rw [next]
    exact ⟨by simp [waiting], rfl, rfl, rfl, rfl, rfl, rfl⟩
  · rw [next]
    exact ⟨by simp [waiting], rfl, rfl, rfl, rfl, rfl, rfl⟩

theorem sameMessage_takeFrame {s : ReliableMessageSender} (coupled : s.Coupled) :
    s.SameMessage s.takeFrame.2 := by
  rcases takeFrame_cases coupled with ⟨_, same⟩ | ⟨ready, _, next⟩
  · rw [same]
    exact .refl s
  · rw [next]
    exact ⟨by simp [ready], rfl, rfl, rfl, rfl, rfl, rfl⟩

theorem Coupled.inFlight_ne_idle {s : ReliableMessageSender} (coupled : s.Coupled)
    (flying : s.frameInFlight = true) : s.state ≠ .idle := by
  have delivered := coupled.flight flying
  have form := coupled.state
  simp [delivered, flying, stateFor] at form
  simp [form]

theorem sameMessage_completeFrame {s : ReliableMessageSender} (coupled : s.Coupled)
    (succeeded : Bool) (nowMs : UInt32) : s.SameMessage (s.completeFrame succeeded nowMs).2 := by
  rcases completeFrame_cases coupled succeeded nowMs with
    ⟨_, same⟩ | ⟨flying, _, _, next⟩ | ⟨flying, _, next⟩
  · rw [same]
    exact .refl s
  · rw [next]
    exact ⟨by simp [coupled.inFlight_ne_idle flying], rfl, rfl, rfl, rfl, rfl, rfl⟩
  · rw [next]
    exact ⟨by simp [coupled.inFlight_ne_idle flying], rfl, rfl, rfl, rfl, rfl, rfl⟩

theorem sameMessage_acceptAck {s : ReliableMessageSender} (coupled : s.Coupled)
    (ack : EspNowAckPayload) : s.SameMessage (s.acceptAck ack).2 := by
  rcases acceptAck_cases s ack with same | ⟨waiting, _, next⟩
  · rw [same]
    exact .refl s
  · rw [next]
    have form := coupled.state
    rw [waiting] at form
    refine ⟨?_, rfl, rfl, rfl, rfl, rfl, rfl⟩
    have : s.state = .waitingForAck := form
    split <;> simp [this]

end ReliableMessageSender

end EspNowNet
