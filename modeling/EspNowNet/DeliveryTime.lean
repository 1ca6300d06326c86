import EspNowNet.Library.TimeBudget
import EspNowNet.AckDeadline
import EspNowNet.DeliveryTrace
import EspNowNet.QuietSteps
import EspNowNet.SenderDeliveries
import EspNowNet.Transmission

/- How long the delivery of a message can take. An attempt takes two iterations and the time its ACK
   is waited for; only the ACKs the endpoint owes to others come before a frame of its sender. -/
namespace EspNowNet
open EspNowNetProtocolComponent Relation

namespace ReliableMessageSender

def active (s : ReliableMessageSender) : Bool :=
  s.state = .ready || s.state = .frameInFlight || s.state = .waitingForAck

variable {s : ReliableMessageSender}

theorem active_iff : s.active = true ↔
    s.state = .ready ∨ s.state = .frameInFlight ∨ s.state = .waitingForAck := by
  simp [active, or_assoc]

/-- The time an attempt takes, if iterations come this far apart at most. -/
def attemptMs (s : ReliableMessageSender) (gapMs : Nat) : Nat :=
  s.delivery.policy.ackTimeoutMs.toNat + 2 * gapMs

/-- The time the attempts take that are not counted yet. -/
def attemptsLeftMs (s : ReliableMessageSender) (gapMs : Nat) : Nat :=
  (s.delivery.policy.maxAttempts.toNat - s.delivery.attemptCount.toNat) * s.attemptMs gapMs

/-- How long a delivery of one fragment can still take after an iteration at this time. -/
def timeLeftMs (gapMs : Nat) (s : ReliableMessageSender) (nowMs : UInt32) : Nat :=
  match s.state with
  | .ready => s.attemptsLeftMs gapMs + gapMs
  | .frameInFlight => s.attemptsLeftMs gapMs
  | .waitingForAck => s.attemptsLeftMs gapMs + (s.delivery.deadlineMs - nowMs).toNat + gapMs
  | _ => 0

/- One iteration of the sender -/

/-- The sender as an attempt ends. -/
theorem timeLeft_attempted {gapMs : Nat} {nowMs : UInt32}
    (room : s.delivery.attemptCount < s.delivery.policy.maxAttempts) (t : ReliableMessageSender)
    (state : t.state = .waitingForAck)
    (delivery : t.delivery = { s.delivery with
      attemptCount := s.delivery.attemptCount + 1
      deadlineMs := nowMs + s.delivery.policy.ackTimeoutMs
      state := .waitingForAck }) :
    t.timeLeftMs gapMs nowMs + gapMs = s.attemptsLeftMs gapMs := by
  have counted : (s.delivery.attemptCount + 1).toNat = s.delivery.attemptCount.toNat + 1 := by
    have below := UInt8.lt_iff_toNat_lt.mp room
    have bound := s.delivery.policy.maxAttempts.toNat_lt
    rw [UInt8.toNat_add]
    have : (1 : UInt8).toNat = 1 := rfl
    omega
  have below := UInt8.lt_iff_toNat_lt.mp room
  obtain ⟨left, rest⟩ : ∃ left, s.delivery.policy.maxAttempts.toNat -
      s.delivery.attemptCount.toNat = left + 1 := ⟨_, (Nat.succ_pred_eq_of_pos (by omega)).symm⟩
  have after : s.delivery.policy.maxAttempts.toNat - (s.delivery.attemptCount.toNat + 1) = left := by
    omega
  have fresh : nowMs + s.delivery.policy.ackTimeoutMs - nowMs = s.delivery.policy.ackTimeoutMs := by
    rw [UInt32.add_comm, UInt32.add_sub_cancel]
  unfold timeLeftMs attemptsLeftMs attemptMs
  simp only [state, delivery, counted, rest, after, fresh, Nat.succ_mul]
  omega

/-- A frame is handed out, and its attempt may end at once. -/
theorem timeLeft_dispatched (coupled : s.Coupled) (ready : s.state = .ready) (gapMs : Nat)
    (nowMs : UInt32) :
    s.takeFrame.2.timeLeftMs gapMs nowMs + gapMs = s.timeLeftMs gapMs nowMs ∧
      (s.takeFrame.2.completeFrame false nowMs).2.timeLeftMs gapMs nowMs + gapMs ≤
        s.timeLeftMs gapMs nowMs := by
  rcases takeFrame_cases coupled with ⟨other, _⟩ | ⟨_, _, taken⟩
  · exact absurd ready other
  · have flying : s.takeFrame.2.frameInFlight = true := by rw [taken]
    have launched := coupled_takeFrame coupled
    have before : s.timeLeftMs gapMs nowMs = s.attemptsLeftMs gapMs + gapMs := by
      unfold timeLeftMs
      rw [ready]
    have same : s.takeFrame.2.attemptsLeftMs gapMs = s.attemptsLeftMs gapMs := by
      rw [taken]
      rfl
    constructor
    · rw [before, ← same]
      unfold timeLeftMs
      rw [launched.flight_iff.mp flying]
    · rcases completeFrame_cases launched false nowMs with
        ⟨landed, _⟩ | ⟨_, never, _⟩ | ⟨_, _, next⟩
      · rw [flying] at landed
        cases landed
      · cases never
      · have room := launched.attempts (launched.flight flying)
        rw [next, timeLeft_attempted room _ rfl rfl]
        omega

/-- A frame in flight ends its attempt when it is completed, unless other fragments follow. -/
theorem timeLeft_completed (coupled : s.Coupled) (flying : s.frameInFlight = true)
    (single : s.fragmentCount ≤ 1) (gapMs : Nat) (beforeMs nowMs : UInt32) (succeeded : Bool) :
    (s.completeFrame succeeded nowMs).2.timeLeftMs gapMs nowMs + gapMs =
      s.timeLeftMs gapMs beforeMs := by
  have state := coupled.flight_iff.mp flying
  rcases completeFrame_cases coupled succeeded nowMs with
    ⟨landed, _⟩ | ⟨_, _, more, _⟩ | ⟨_, _, next⟩
  · rw [flying] at landed
    cases landed
  · omega
  · have attempts := coupled.attempts (coupled.flight flying)
    rw [next, timeLeft_attempted attempts _ rfl rfl]
    unfold timeLeftMs
    rw [state]

/-- A wait that goes on has used the time that has passed; one that is over has used it all. -/
theorem timeLeft_looped (coupled : s.Coupled) (landed : s.frameInFlight = false) (gapMs : Nat)
    (beforeMs nowMs : UInt32) (near : (nowMs - beforeMs).toNat < 2 ^ 31)
    (active : (s.loop nowMs).active = true) :
    (s.loop nowMs).state = .ready ∧
        (s.loop nowMs).timeLeftMs gapMs nowMs ≤ s.timeLeftMs gapMs beforeMs ∨
      (s.loop nowMs).state = .waitingForAck ∧
        (s.loop nowMs).timeLeftMs gapMs nowMs + (nowMs - beforeMs).toNat ≤
          s.timeLeftMs gapMs beforeMs := by
  have grounded (state : s.state = .frameInFlight) : False := by
    rw [coupled.flight_iff.mpr state] at landed
    cases landed
  have left (t : ReliableMessageSender) (ready : t.state = .ready) (nowMs : UInt32) :
      t.timeLeftMs gapMs nowMs = t.attemptsLeftMs gapMs + gapMs := by
    unfold timeLeftMs
    rw [ready]
  rcases loop_cases coupled nowMs with same | ⟨ready, next⟩ | ⟨waiting, _, next⟩ | ⟨_, next⟩
  · rw [same] at active ⊢
    rcases active_iff.mp active with ready | flying | waiting
    · exact Or.inl ⟨ready, by rw [left s ready, left s ready]⟩
    · exact absurd flying grounded
    · have pending : deadlinePending nowMs s.delivery.deadlineMs = true := by
        by_contra due
        have ended := EspNowReliableDelivery.loop_due (Bool.not_eq_true _ ▸ due)
        rw [← loop_delivery, same] at ended
        exact ended (stateFor_waiting_iff.mp (coupled.state ▸ waiting))
      have split : (s.delivery.deadlineMs - beforeMs).toNat =
          (s.delivery.deadlineMs - nowMs).toNat + (nowMs - beforeMs).toNat := by
        have deadline := s.delivery.deadlineMs.toNat_lt
        have now := nowMs.toNat_lt
        have before := beforeMs.toNat_lt
        unfold deadlinePending at pending
        rw [decide_eq_true_eq] at pending
        rw [UInt32.toNat_sub] at pending near ⊢
        rw [UInt32.toNat_sub, UInt32.toNat_sub]
        omega
      refine Or.inr ⟨waiting, ?_⟩
      unfold timeLeftMs
      rw [waiting]
      dsimp only
      omega
  · have rewound : (s.loop nowMs).state = .ready := by
      rw [next]
      exact ready
    refine Or.inl ⟨rewound, ?_⟩
    rw [left _ rewound, left s ready, next]
    exact Nat.le_refl _
  · have retried : (s.loop nowMs).state = .ready := by rw [next]
    refine Or.inl ⟨retried, ?_⟩
    rw [left _ retried, next]
    unfold timeLeftMs
    rw [waiting]
    simp only [attemptsLeftMs, attemptMs]
    omega
  · rw [next] at active
    cases active

/-- What is still being delivered was so before, and is the same. -/
def Continues (s t : ReliableMessageSender) : Prop :=
  t.active = true → s.active = true ∧ t.message = s.message

theorem Continues.trans {t u : ReliableMessageSender} (first : s.Continues t)
    (second : t.Continues u) : s.Continues u := by
  intro active
  obtain ⟨between, later⟩ := second active
  obtain ⟨before, earlier⟩ := first between
  exact ⟨before, later.trans earlier⟩

theorem continues_reset (s : ReliableMessageSender) : s.Continues s.reset := by
  intro active
  cases active

/-- A start that is refused leaves a sender at work as it is. -/
theorem start_refused {t : ReliableMessageSender} {peer : PeerIndex} {kind : EspNowFrameKind}
    {transactionId : TransactionId} {data : Option (List UInt8)}
    (run : s.start peer kind transactionId data = (false, t)) (active : t.active = true) : t = s := by
  unfold start at run
  split at run
  · exact (Prod.mk.inj run).2.symm
  · rename_i admitted
    have idle : s.state = .idle := by
      by_contra busy
      exact admitted (Or.inr (Or.inl busy))
    have resting {other : ReliableMessageSender} (state : other.state = .idle) :
        other.active ≠ true := by
      simp [ReliableMessageSender.active, state]
    split at run
    · exact (Prod.mk.inj run).2.symm
    · split at run
      · obtain ⟨_, rfl⟩ := Prod.mk.inj run
        exact absurd active (resting idle)
      · split at run
        · obtain ⟨_, rfl⟩ := Prod.mk.inj run
          exact absurd active (resting idle)
        · dsimp only at run
          split at run
          · obtain ⟨_, rfl⟩ := Prod.mk.inj run
            exact absurd active (resting rfl)
          · cases (Prod.mk.inj run).1

theorem continues_takeFrame (coupled : s.Coupled) : s.Continues s.takeFrame.2 := by
  rcases takeFrame_cases coupled with ⟨_, same⟩ | ⟨ready, _, next⟩
  · rw [same]
    exact fun active => ⟨active, rfl⟩
  · rw [next]
    exact fun _ => ⟨active_iff.mpr (Or.inl ready), rfl⟩

theorem continues_completeFrame (coupled : s.Coupled) (succeeded : Bool) (nowMs : UInt32) :
    s.Continues (s.completeFrame succeeded nowMs).2 := by
  have flies (flying : s.frameInFlight = true) : s.active = true :=
    active_iff.mpr (Or.inr (Or.inl (coupled.flight_iff.mp flying)))
  rcases completeFrame_cases coupled succeeded nowMs with
    ⟨_, same⟩ | ⟨flying, _, _, next⟩ | ⟨flying, _, next⟩
  · rw [same]
    exact fun active => ⟨active, rfl⟩
  · rw [next]
    exact fun _ => ⟨flies flying, rfl⟩
  · rw [next]
    exact fun _ => ⟨flies flying, rfl⟩

theorem continues_loop (coupled : s.Coupled) (nowMs : UInt32) : s.Continues (s.loop nowMs) := by
  rcases loop_cases coupled nowMs with same | ⟨ready, next⟩ | ⟨waiting, _, next⟩ | ⟨_, next⟩
  · rw [same]
    exact fun active => ⟨active, rfl⟩
  · rw [next]
    exact fun _ => ⟨active_iff.mpr (Or.inl ready), rfl⟩
  · rw [next]
    exact fun _ => ⟨active_iff.mpr (Or.inr (Or.inr waiting)), rfl⟩
  · rw [next]
    intro active
    cases active

/-- An ACK that is accepted ends the delivery. -/
theorem acceptAck_active {ack : EspNowAckPayload} (active : (s.acceptAck ack).2.active = true) :
    (s.acceptAck ack).2 = s := by
  rcases acceptAck_cases s ack with same | ⟨_, _, next⟩
  · rw [same]
  · rw [next] at active
    split at active
    · cases active
    · cases active

end ReliableMessageSender

/- The endpoint -/

/-- So many messages have been started, and the last of them is still being delivered. -/
def EspNowNetProtocolComponent.Delivering (e : EspNowNetProtocolComponent) (count : Nat) : Prop :=
  (startedMessages e.history).length = count ∧ e.sender.active = true

section Endpoint
variable {e e' : EspNowNetProtocolComponent} {count : Nat}

theorem started_length {older newer : List EndpointEvent} (grown : older <:+ newer) :
    (startedMessages older).length ≤ (startedMessages newer).length := by
  obtain ⟨events, rfl⟩ := grown
  rw [startedMessages, startedMessages, List.filterMap_append, List.length_append]
  omega

/-- A step goes on with a delivery, or it starts one. -/
theorem step_continues (coupled : e.sender.Coupled) (step : EndpointStep e e') :
    e.sender.Continues e'.sender ∨
      ∃ peer envelope data, .messageStarted peer envelope data :: e.history <:+ e'.history := by
  have same : e.sender.Continues e.sender := fun active => ⟨active, rfl⟩
  cases step with
  | bookkeeping kept =>
    obtain ⟨_, _, _, _, _, _, _, rfl⟩ := kept.eq
    exact Or.inl same
  | messageTaken taken consumption =>
    obtain ⟨_, _, _, rfl⟩ := consumption.eq
    exact Or.inl same
  | startRefused run =>
    refine Or.inl fun active => ?_
    have kept := ReliableMessageSender.start_refused run active
    exact ⟨kept ▸ active, congrArg _ kept⟩
  | started claim free run => exact Or.inr ⟨_, _, _, List.suffix_rfl⟩
  | commandStarted => exact Or.inr ⟨_, _, _, List.suffix_cons _ _⟩
  | cancelled slot =>
    rw [cancelSlot_eq e slot]
    left
    dsimp only
    split
    · exact ReliableMessageSender.continues_reset e.sender
    · exact same
  | disabled =>
    obtain ⟨_, _, _, _, _, _, form, _⟩ := disableRuntime_eq e
    rw [form]
    exact Or.inl (ReliableMessageSender.continues_reset e.sender)
  | enabled | externalDeadline | radioPolled | recoveryRequested | discarded | completionIgnored
    | completionReleases | heartbeatReceived | frameAccepted | messageReady | ackDropped | ackSent
    | heartbeatSent =>
    exact Or.inl same
  | driver event =>
    obtain ⟨_, _, _, form⟩ := driverEvent_eq e event
    rw [form]
    exact Or.inl same
  | completionDelivered nowMs =>
    exact Or.inl (ReliableMessageSender.continues_completeFrame coupled _ nowMs)
  | @ackReceived received radio runtime ack taken run handed =>
    obtain ⟨_, _, form⟩ := acceptDeliveryAck_eq
      { e with radio, runtime := { runtime with deliveryAck := none } } received.peerIndex ack
    rw [form]
    refine Or.inl fun active => ?_
    have kept := ReliableMessageSender.acceptAck_active active
    dsimp only at active kept ⊢
    rw [kept] at active ⊢
    exact ⟨active, rfl⟩
  | progressQueued peer =>
    obtain ⟨_, form⟩ := queueCommandResultNotification_eq e peer _
    rw [form]
    exact Or.inl same
  | @finished slot result =>
    obtain ⟨_, form⟩ := finishCommandClient_eq e result slot
    rw [form]
    exact Or.inl same
  | deliveryFailed message nowMs =>
    unfold failCommandClient
    obtain ⟨_, form⟩ := finishCommandClient_eq e.releaseSender _ e.commandSenderSlot
    rw [form]
    exact Or.inl (ReliableMessageSender.continues_reset e.sender)
  | senderReset | delivered | senderReleased =>
    exact Or.inl (ReliableMessageSender.continues_reset e.sender)
  | senderLooped nowMs => exact Or.inl (ReliableMessageSender.continues_loop coupled nowMs)
  | @frameRefused peer frame sender nowMs free taken =>
    left
    have launched := ReliableMessageSender.coupled_takeFrame coupled
    have first := ReliableMessageSender.continues_takeFrame coupled
    rw [taken] at launched first
    exact first.trans (ReliableMessageSender.continues_completeFrame launched false nowMs)
  | @frameSent peer frame sender radio accepted free taken run =>
    left
    have first := ReliableMessageSender.continues_takeFrame coupled
    rw [taken] at first
    exact first

/-- As long as no message is started, what is still being delivered after some steps was so before. -/
theorem moves_continues (moves : EndpointMoves e e') (coherent : e.Coherent)
    (none : (startedMessages e'.history).length ≤ (startedMessages e.history).length) :
    e.sender.Continues e'.sender := by
  induction moves with
  | refl => exact fun active => ⟨active, rfl⟩
  | @tail between after moves last ih =>
    have earlier := started_length (GuardedInvariant.extends_run move_extends moves)
    have grown := started_length (move_extends _ _ last)
    have reached := GuardedInvariant.preserved _
      (fun coherent move => coherent_move coherent move) moves coherent
    apply (ih (by omega)).trans
    cases last with
    | step step =>
      rcases step_continues reached.coupled step with continues | ⟨peer, envelope, data, started⟩
      · exact continues
      · have counted := started_length started
        have one : (startedMessages (.messageStarted peer envelope data :: between.history)).length =
            (startedMessages between.history).length + 1 := rfl
        omega
    | notification step =>
      cases step with
      | taken | delivered | cleared => exact fun active => ⟨active, rfl⟩

/-- As long as no message is started, what is still being delivered has been left alone. -/
structure Spares (e e' : EspNowNetProtocolComponent) : Prop where
  grown : e.history <:+ e'.history
  same : (startedMessages e'.history).length ≤ (startedMessages e.history).length →
    e'.sender.active = true → e'.sender = e.sender ∧ e'.transmission = e.transmission

theorem Spares.trans {e'' : EspNowNetProtocolComponent} (first : Spares e e')
    (second : Spares e' e'') : Spares e e'' := by
  refine ⟨first.grown.trans second.grown, fun none active => ?_⟩
  have earlier := started_length first.grown
  have later := started_length second.grown
  obtain ⟨sender, transmission⟩ := second.same (by omega) active
  obtain ⟨before, carried⟩ := first.same (by omega) (sender ▸ active)
  exact ⟨sender.trans before, transmission.trans carried⟩

theorem Spares.kept {events : List EndpointEvent} (history : e'.history = events ++ e.history)
    (sender : e'.sender = e.sender) (transmission : e'.transmission = e.transmission) :
    Spares e e' :=
  ⟨⟨events, history.symm⟩, fun _ _ => ⟨sender, transmission⟩⟩

theorem QuietStep.spares (step : QuietStep e e') : Spares e e' := by
  cases step with
  | noted sender heartbeat transmission history quiet => exact .kept history sender transmission
  | refused run same =>
    rw [same]
    refine ⟨List.suffix_rfl, fun _ active => ⟨?_, rfl⟩⟩
    exact ReliableMessageSender.start_refused run active
  | @started peer kind transactionId data sender run same =>
    rw [same]
    refine ⟨List.suffix_cons _ _, fun none => ?_⟩
    have one : (startedMessages ({ e with sender }.record (.messageStarted peer sender.envelope
        sender.message.bytes)).history).length = (startedMessages e.history).length + 1 := rfl
    omega
  | @reset events sender heartbeat history quiet =>
    refine ⟨⟨events, history.symm⟩, fun _ active => ?_⟩
    rw [sender] at active
    cases active

theorem QuietSteps.spares (steps : QuietSteps e e') : Spares e e' := by
  induction steps with
  | refl => exact ⟨List.suffix_rfl, fun _ _ => ⟨rfl, rfl⟩⟩
  | tail _ last ih => exact ih.trans last.spares

theorem acceptProtocolFrame_spares (e : EspNowNetProtocolComponent) (received : EspNowReceivedFrame) :
    Spares e (e.acceptProtocolFrame received) := by
  unfold acceptProtocolFrame
  split
  · rename_i runtime _
    split
    · rename_i ack runtime _
      obtain ⟨outcome, _, same⟩ := acceptDeliveryAck_eq { e with runtime } received.peerIndex ack
      rw [same]
      refine ⟨⟨_, (List.append_cons _ _ _).symm⟩, fun _ active => ⟨?_, rfl⟩⟩
      exact ReliableMessageSender.acceptAck_active active
    · exact .kept (List.nil_append _).symm rfl rfl
  · simp only
    split
    · exact .kept List.singleton_append.symm rfl rfl
    · exact .kept (List.nil_append _).symm rfl rfl
  · exact .kept (List.nil_append _).symm rfl rfl

theorem processReceivedFrame_spares (e : EspNowNetProtocolComponent) (receivedMs : UInt32) :
    Spares e (e.processReceivedFrame receivedMs) := by
  unfold processReceivedFrame
  split
  · exact .kept (List.nil_append _).symm rfl rfl
  · rename_i received radio _
    have arrived : Spares e { e with radio } := .kept (List.nil_append _).symm rfl rfl
    simp only
    split
    · split
      · exact .kept (List.nil_append _).symm rfl rfl
      · exact arrived.trans (acceptProtocolFrame_spares _ received)
    · exact arrived.trans (acceptProtocolFrame_spares _ received)

theorem polled_spares (e : EspNowNetProtocolComponent) (env : EndpointEnvironment) :
    Spares e (e.polled env) := by
  unfold polled heartbeatTick
  split
  · exact .kept (List.nil_append _).symm rfl rfl
  · exact .kept (List.nil_append _).symm rfl rfl

/- The phases that do more -/

/-- The completion of a frame frees the transmission, and ends an attempt if it is the sender's. -/
theorem processSendCompletion_cases (e : EspNowNetProtocolComponent) (nowMs : UInt32) :
    ((e.processSendCompletion nowMs).sender = e.sender ∧
        (e.processSendCompletion nowMs).transmission = e.transmission) ∨
      ((e.processSendCompletion nowMs).transmission.owner = .none ∧
        (¬ (e.transmission.owner = .sender ∧ e.sender.frameInFlight = true) ∧
            (e.processSendCompletion nowMs).sender = e.sender ∨
          e.sender.frameInFlight = true ∧ ∃ succeeded,
            (e.processSendCompletion nowMs).sender =
              (e.sender.completeFrame succeeded nowMs).2)) := by
  generalize done : e.processSendCompletion nowMs = e'
  unfold processSendCompletion at done
  split at done
  · subst done
    exact Or.inl ⟨rfl, rfl⟩
  · rename_i completion radio _
    dsimp only at done
    split at done
    · subst done
      exact Or.inl ⟨rfl, rfl⟩
    · split at done
      · rename_i flying
        subst done
        exact Or.inr ⟨rfl, Or.inr ⟨flying.2, completion.succeeded, rfl⟩⟩
      · rename_i silent
        subst done
        exact Or.inr ⟨rfl, Or.inl ⟨silent, rfl⟩⟩

theorem dispatchApplicationAck_cases (e : EspNowNetProtocolComponent) (accepted : Bool) :
    (e.dispatchApplicationAck accepted).sender = e.sender ∧
      ((e.dispatchApplicationAck accepted).transmission = e.transmission ∨
        e.transmission.owner = .none ∧
          (e.dispatchApplicationAck accepted).transmission.owner = .ack) := by
  unfold dispatchApplicationAck
  split
  · exact ⟨rfl, Or.inl rfl⟩
  · rename_i free
    rw [ne_eq, not_not] at free
    split
    · exact ⟨rfl, Or.inl rfl⟩
    · rename_i pending runtime _
      simp only
      split
      · exact ⟨rfl, Or.inl rfl⟩
      · split
        · exact ⟨rfl, Or.inl rfl⟩
        · rename_i frame _
          rcases transmit_cases { e with runtime, ackSequence := nextSequence e.ackSequence } .ack
            pending.peerIndex frame.bytes accepted with same | ⟨radio, _, same⟩
          · rw [same]
            exact ⟨rfl, Or.inl rfl⟩
          · rw [same]
            exact ⟨rfl, Or.inr ⟨free, rfl⟩⟩

theorem dispatchHeartbeat_cases (e : EspNowNetProtocolComponent) (nowMs : UInt32) (accepted : Bool) :
    (e.dispatchHeartbeat nowMs accepted).sender = e.sender ∧
      ((e.dispatchHeartbeat nowMs accepted).transmission = e.transmission ∨
        e.transmission.owner = .none) := by
  unfold dispatchHeartbeat
  split
  · exact ⟨rfl, Or.inl rfl⟩
  · rename_i quiet
    simp only [not_or, not_not] at quiet
    split
    · exact ⟨rfl, Or.inl rfl⟩
    · rename_i packet heartbeat _
      rcases transmit_cases { e with heartbeat } .heartbeat e.heartbeat.peer packet.encode accepted
        with same | ⟨radio, _, same⟩
      · rw [same]
        exact ⟨rfl, Or.inl rfl⟩
      · rw [same]
        exact ⟨rfl, Or.inr quiet.2.2.1⟩

/-- A frame goes out if nothing else is in the air. -/
theorem dispatchSenderFrame_cases (e : EspNowNetProtocolComponent) (nowMs : UInt32)
    (accepted : Bool) :
    (e.transmission.owner ≠ .none ∧ (e.dispatchSenderFrame nowMs accepted).sender = e.sender ∧
        (e.dispatchSenderFrame nowMs accepted).transmission = e.transmission) ∨
      (e.transmission.owner = .none ∧
        (e.dispatchSenderFrame nowMs accepted).transmission.owner ≠ .ack ∧
        ((e.dispatchSenderFrame nowMs accepted).sender = e.sender.takeFrame.2 ∨
          e.sender.takeFrame.1 ≠ none ∧ (e.dispatchSenderFrame nowMs accepted).sender =
            (e.sender.takeFrame.2.completeFrame false nowMs).2)) := by
  unfold dispatchSenderFrame
  split
  · rename_i owned
    exact Or.inl ⟨owned, rfl, rfl⟩
  · rename_i free
    rw [ne_eq, not_not] at free
    refine Or.inr ⟨free, ?_⟩
    split
    · rename_i sender taken
      rw [taken]
      exact ⟨by simp [free], Or.inl rfl⟩
    · rename_i peer frame sender taken
      rw [taken]
      rcases transmit_cases { e with sender } .sender peer frame.bytes accepted with
        same | ⟨radio, _, same⟩
      · rw [same]
        exact ⟨by simp [free], Or.inr ⟨by simp, rfl⟩⟩
      · rw [same]
        exact ⟨by simp [EspNowNetProtocolComponent.record], Or.inl rfl⟩

end Endpoint

/- What is known while a message is being delivered -/

/-- So many messages have been started in a run, the last of them was short, and this is known of
    the sender and of what is in the air as long as it is being delivered. -/
structure Ongoing (config : Configuration) (random : UInt64) (count : Nat)
    (known : ReliableMessageSender → RadioTransmission → Prop) (e : EspNowNetProtocolComponent) :
    Prop where
  moves : EndpointMoves (setup config random) e
  begun : count ≤ (startedMessages e.history).length
  short : e.Delivering count → e.sender.message.size ≤ EspNowFrameCodec.maxFragmentData
  knows : e.Delivering count → known e.sender e.transmission

section Ongoing
variable {config : Configuration} {random : UInt64} {count : Nat}
variable {known known' : ReliableMessageSender → RadioTransmission → Prop}
variable {e e' : EspNowNetProtocolComponent}

theorem Ongoing.delivering (ongoing : Ongoing config random count known e)
    (moves : EndpointMoves e e') (delivering : e'.Delivering count) :
    e.Delivering count ∧ e'.sender.message = e.sender.message := by
  have begun := ongoing.begun
  have grown := started_length (GuardedInvariant.extends_run move_extends moves)
  have counted := delivering.1
  obtain ⟨active, message⟩ :=
    moves_continues moves (coherent_moves ongoing.moves) (by omega) delivering.2
  exact ⟨⟨by omega, active⟩, message⟩

theorem Ongoing.moved (ongoing : Ongoing config random count known e) (moves : EndpointMoves e e')
    (next : e.Delivering count → e'.Delivering count → known e.sender e.transmission →
      known' e'.sender e'.transmission) : Ongoing config random count known' e' := by
  have grown := started_length (GuardedInvariant.extends_run move_extends moves)
  constructor
  · exact ongoing.moves.trans moves
  · exact ongoing.begun.trans grown
  · intro delivering
    obtain ⟨before, message⟩ := ongoing.delivering moves delivering
    rw [message]
    exact ongoing.short before
  · intro delivering
    have before := (ongoing.delivering moves delivering).1
    exact next before delivering (ongoing.knows before)

theorem Ongoing.spared (ongoing : Ongoing config random count known e) (moves : EndpointMoves e e')
    (spares : Spares e e') : Ongoing config random count known e' := by
  refine ongoing.moved moves fun before after knows => ?_
  obtain ⟨sender, transmission⟩ := spares.same (after.1.le.trans before.1.ge) after.2
  rw [sender, transmission]
  exact knows

theorem Ongoing.driven (ongoing : Ongoing config random count known e)
    (events : List DriverEvent) : Ongoing config random count known (e.driverEvents events) :=
  ongoing.spared (driverEvents_steps e events).moves (driverEvents_quiet e events).spares

/-- The phases between the completion of a frame and the loop of the sender. -/
theorem Ongoing.early (env : EndpointEnvironment)
    {phase : EspNowNetProtocolComponent → EspNowNetProtocolComponent}
    (member : phase ∈ ((phases env).drop 2).take 7) (ongoing : Ongoing config random count known e) :
    Ongoing config random count known (phase e) := by
  have later : phase ∈ (phases env).tail := List.mem_of_mem_drop (i := 1) (List.mem_of_mem_take member)
  have moves := (laterPhases_steps env phase later e).moves
  apply ongoing.spared moves
  simp only [phases, List.drop_succ_cons, List.drop_zero, List.take_succ_cons, List.take_zero,
    List.mem_cons, List.not_mem_nil, or_false] at member
  rcases member with rfl | rfl | rfl | rfl | rfl | rfl | rfl
  · exact processReceivedFrame_spares e _
  · exact (processApplicationMessage_quiet e env).spares
  · exact (checkResultDeadline_quiet e _ 0).spares
  · simp only
    split
    · exact (checkResultDeadline_quiet e _ 1).spares
    · exact .kept (List.nil_append _).symm rfl rfl
  · exact (dispatcherLoop_quiet e env _).spares
  · exact (dispatcherLoop_quiet e env _).spares
  · exact (dispatcherLoop_quiet e env _).spares

end Ongoing

/- One iteration -/

section Iteration
variable (s : ReliableMessageSender) (t : RadioTransmission) (gapMs : Nat) (beforeMs nowMs : UInt32)

/-- Up to the loop of the sender its frame is in flight as before, or it has landed meanwhile. -/
inductive Landing (s' : ReliableMessageSender) (t' : RadioTransmission) : Prop
  | flying (flying : s'.frameInFlight = true) (same : t' = t)
  | landed (sinceMs : UInt32) (landed : s'.frameInFlight = false)
      (transmission : t' = t ∨ t'.owner = .none) (near : (nowMs - sinceMs).toNat ≤ gapMs)
      (left : s'.timeLeftMs gapMs sinceMs + (nowMs - beforeMs).toNat ≤
        s.timeLeftMs gapMs beforeMs + (nowMs - sinceMs).toNat)

/-- From there on the sender has a frame to send, or it waits. -/
inductive Looped (s' : ReliableMessageSender) (t' : RadioTransmission) : Prop
  | flying (flying : s'.frameInFlight = true) (same : t' = t)
  | ready (ready : s'.state = .ready) (transmission : t' = t ∨ t'.owner = .none ∨ t'.owner = .ack)
      (left : s'.timeLeftMs gapMs nowMs + (nowMs - beforeMs).toNat ≤
        s.timeLeftMs gapMs beforeMs + gapMs)
  | waiting (waiting : s'.state = .waitingForAck)
      (left : s'.timeLeftMs gapMs nowMs + (nowMs - beforeMs).toNat ≤ s.timeLeftMs gapMs beforeMs)

/-- In the end the iteration has used the time since the last one, unless something else has been
    in the air. -/
inductive Spent (s' : ReliableMessageSender) (t' : RadioTransmission) : Prop
  | stuck (same : t' = t) (owned : t.owner ≠ .none)
  | spent (left : s'.timeLeftMs gapMs nowMs + (nowMs - beforeMs).toNat ≤
      s.timeLeftMs gapMs beforeMs + if t'.owner = .ack then gapMs else 0)

variable {s t gapMs beforeMs nowMs}
variable {config : Configuration} {random : UInt64} {count : Nat} {e : EspNowNetProtocolComponent}

theorem processSendCompletion_landing (near : (nowMs - beforeMs).toNat ≤ gapMs)
    (ongoing : Ongoing config random count (fun s' t' => s' = s ∧ t' = t) e) :
    Ongoing config random count (Landing s t gapMs beforeMs nowMs)
      (e.processSendCompletion nowMs) := by
  refine ongoing.moved (processSendCompletion_steps e nowMs).moves fun before _ knows => ?_
  have coupled := (coherent_moves ongoing.moves).coupled
  have sound := transmissionSound_moves ongoing.moves
  have short := ongoing.short before
  obtain ⟨rfl, rfl⟩ := knows
  rcases processSendCompletion_cases e nowMs with
    ⟨sender, transmission⟩ | ⟨freed, ⟨silent, sender⟩ | ⟨flying, succeeded, sender⟩⟩
  · rw [sender, transmission]
    cases flight : e.sender.frameInFlight with
    | true => exact .flying flight rfl
    | false => exact .landed beforeMs flight (Or.inl rfl) near (Nat.le_refl _)
  · rw [sender]
    have landed : e.sender.frameInFlight = false := by
      by_contra flying
      rw [Bool.not_eq_false] at flying
      exact silent ⟨(sound.flight flying).1, flying⟩
    exact .landed beforeMs landed (Or.inr freed) near (Nat.le_refl _)
  · rw [sender]
    have loaded := coupled.loaded (by simp [coupled.flight flying])
    have single : e.sender.fragmentCount ≤ 1 := by
      rw [loaded.count]
      exact EspNowFrameCodec.fragmentCount_short short
    have left := ReliableMessageSender.timeLeft_completed coupled flying single gapMs beforeMs nowMs
      succeeded
    have none : (nowMs - nowMs).toNat = 0 := by simp
    refine .landed nowMs ?_ (Or.inr freed) (by omega) (by omega)
    rcases ReliableMessageSender.completeFrame_cases coupled succeeded nowMs with
      ⟨landed, same⟩ | ⟨_, _, _, next⟩ | ⟨_, _, next⟩
    · rw [same]
      exact landed
    · rw [next]
    · rw [next]

theorem senderLoop_looped (small : gapMs < 2 ^ 31)
    (ongoing : Ongoing config random count (Landing s t gapMs beforeMs nowMs) e) :
    Ongoing config random count (Looped s t gapMs beforeMs nowMs) (e.senderLoop nowMs) := by
  refine ongoing.moved (.single (.step (.senderLooped e nowMs))) fun _ after knows => ?_
  have coupled := (coherent_moves ongoing.moves).coupled
  cases knows with
  | flying flying same =>
    have state := coupled.flight_iff.mp flying
    refine .flying ?_ same
    rcases ReliableMessageSender.loop_cases coupled nowMs with
      kept | ⟨ready, _⟩ | ⟨waiting, _⟩ | ⟨waiting, _⟩
    · change (e.sender.loop nowMs).frameInFlight = true
      rw [kept]
      exact flying
    · rw [state] at ready
      cases ready
    · rw [state] at waiting
      cases waiting
    · rw [state] at waiting
      cases waiting
  | landed sinceMs landed transmission near left =>
    rcases ReliableMessageSender.timeLeft_looped coupled landed gapMs sinceMs nowMs (by omega)
      after.2 with ⟨ready, rest⟩ | ⟨waiting, rest⟩
    · refine .ready ready (transmission.imp_right Or.inl) ?_
      change (e.sender.loop nowMs).timeLeftMs gapMs nowMs + _ ≤ _
      omega
    · refine .waiting waiting ?_
      change (e.sender.loop nowMs).timeLeftMs gapMs nowMs + _ ≤ _
      omega

/-- The phases between the loop of the sender and the taking of its frame. -/
theorem Ongoing.late (env : EndpointEnvironment)
    {phase : EspNowNetProtocolComponent → EspNowNetProtocolComponent}
    (member : phase ∈ [(·.processOwnedSenderCompletion env), (·.processDispatcher),
      (·.dispatchApplicationAck env.ackAccepted)])
    (ongoing : Ongoing config random count (Looped s t gapMs beforeMs nowMs) e) :
    Ongoing config random count (Looped s t gapMs beforeMs nowMs) (phase e) := by
  simp only [List.mem_cons, List.not_mem_nil, or_false] at member
  rcases member with rfl | rfl | rfl
  · exact ongoing.spared (processOwnedSenderCompletion_steps e env).moves
      (processOwnedSenderCompletion_quiet e env).spares
  · exact ongoing.spared (processDispatcher_steps e).moves (processDispatcher_quiet e).spares
  · refine ongoing.moved (dispatchApplicationAck_steps e _).moves fun _ _ knows => ?_
    have sound := transmissionSound_moves ongoing.moves
    obtain ⟨sender, same | ⟨free, acked⟩⟩ := dispatchApplicationAck_cases e env.ackAccepted
    · rw [sender, same]
      exact knows
    · rw [sender]
      cases knows with
      | flying flying same =>
        have owned := (sound.flight flying).1
        rw [free] at owned
        cases owned
      | ready ready transmission left => exact .ready ready (Or.inr (Or.inr acked)) left
      | waiting waiting left => exact .waiting waiting left

theorem dispatchSenderFrame_spent (accepted : Bool)
    (ongoing : Ongoing config random count (Looped s t gapMs beforeMs nowMs) e) :
    Ongoing config random count (Spent s t gapMs beforeMs nowMs)
      (e.dispatchSenderFrame nowMs accepted) := by
  refine ongoing.moved (dispatchSenderFrame_steps e nowMs accepted).moves fun _ _ knows => ?_
  have coupled := (coherent_moves ongoing.moves).coupled
  have sound := transmissionSound_moves ongoing.moves
  rcases dispatchSenderFrame_cases e nowMs accepted with
    ⟨owned, sender, transmission⟩ | ⟨free, unacked, sender⟩
  · rw [sender, transmission]
    cases knows with
    | flying flying same => exact .stuck same (same ▸ owned)
    | ready ready held left =>
      rcases held with same | none | acked
      · exact .stuck same (same ▸ owned)
      · exact absurd none owned
      · refine .spent ?_
        rw [if_pos acked]
        exact left
    | waiting waiting left => exact .spent (left.trans (Nat.le_add_right _ _))
  · refine .spent ?_
    rw [if_neg unacked]
    cases knows with
    | flying flying same =>
      have owned := (sound.flight flying).1
      rw [free] at owned
      cases owned
    | ready ready held left =>
      obtain ⟨launched, failed⟩ :=
        ReliableMessageSender.timeLeft_dispatched coupled ready gapMs nowMs
      rcases sender with sender | ⟨_, sender⟩
      · rw [sender]
        omega
      · rw [sender]
        omega
    | waiting waiting left =>
      rcases ReliableMessageSender.takeFrame_cases coupled with ⟨_, same⟩ | ⟨ready, _⟩
      · rcases sender with sender | ⟨taken, _⟩
        · rw [sender, same]
          exact left
        · exact absurd (congrArg Prod.fst same) taken
      · rw [ready] at waiting
        cases waiting

theorem dispatchHeartbeat_spent (accepted : Bool)
    (ongoing : Ongoing config random count (Spent s t gapMs beforeMs nowMs) e) :
    Ongoing config random count (Spent s t gapMs beforeMs nowMs)
      (e.dispatchHeartbeat nowMs accepted) := by
  refine ongoing.moved (dispatchHeartbeat_steps e nowMs accepted).moves fun _ _ knows => ?_
  obtain ⟨sender, same | free⟩ := dispatchHeartbeat_cases e nowMs accepted
  · rw [sender, same]
    exact knows
  · rw [sender]
    cases knows with
    | stuck same owned => exact absurd (same ▸ free) owned
    | spent left =>
      rw [if_neg (by simp [free])] at left
      exact .spent (left.trans (Nat.le_add_right _ _))

end Iteration

section Loop
variable {config : Configuration} {random : UInt64} {count gapMs : Nat} {beforeMs : UInt32}
variable {e : EspNowNetProtocolComponent}

theorem phases_spent (env : EndpointEnvironment) (near : (env.nowMs - beforeMs).toNat ≤ gapMs)
    (small : gapMs < 2 ^ 31) (s : ReliableMessageSender) (t : RadioTransmission)
    (start : Ongoing config random count (fun s' t' => s' = s ∧ t' = t) e) :
    Ongoing config random count (Spent s t gapMs beforeMs env.nowMs)
      (runPhases env e (phases env)) := by
  -- up to the completion of a frame
  obtain ⟨completing, before, toCompletion⟩ := runPhases_reach env
    (Ongoing config random count (fun s' t' => s' = s ∧ t' = t))
    (fun e events ongoing => ongoing.driven events) (·.processSendCompletion env.nowMs)
    [(·.dispatchCommandResultNotification env)] ((phases env).drop 2) (by
      intro phase member e ongoing
      obtain rfl := List.mem_singleton.mp member
      exact ongoing.spared (dispatchCommandResultNotification_moves e env)
        (dispatchCommandResultNotification_quiet e env).spares) start
  have landing := processSendCompletion_landing near before
  -- up to the loop of the sender
  obtain ⟨looping, landed, toLoop⟩ := runPhases_reach env
    (Ongoing config random count (Landing s t gapMs beforeMs env.nowMs))
    (fun e events ongoing => ongoing.driven events) (·.senderLoop env.nowMs)
    (((phases env).drop 2).take 7) ((phases env).drop 10)
    (fun phase member e ongoing => ongoing.early env member) landing
  have looped := senderLoop_looped small landed
  -- up to the taking of its frame
  obtain ⟨taking, rests, toTake⟩ := runPhases_reach env
    (Ongoing config random count (Looped s t gapMs beforeMs env.nowMs))
    (fun e events ongoing => ongoing.driven events)
    (·.dispatchSenderFrame env.nowMs env.senderAccepted)
    [(·.processOwnedSenderCompletion env), (·.processDispatcher),
      (·.dispatchApplicationAck env.ackAccepted)]
    [(·.dispatchHeartbeat env.nowMs env.heartbeatAccepted)]
    (fun phase member e ongoing => ongoing.late env member) looped
  have sent := dispatchSenderFrame_spent env.senderAccepted rests
  have first : runPhases env e (phases env) = runPhases env
      (completing.processSendCompletion env.nowMs) ((phases env).drop 2) := toCompletion
  have second : runPhases env (completing.processSendCompletion env.nowMs) ((phases env).drop 2) =
      runPhases env (looping.senderLoop env.nowMs) ((phases env).drop 10) := toLoop
  have third : runPhases env (looping.senderLoop env.nowMs) ((phases env).drop 10) =
      runPhases env (taking.dispatchSenderFrame env.nowMs env.senderAccepted)
        [(·.dispatchHeartbeat env.nowMs env.heartbeatAccepted)] := toTake
  rw [first, second, third]
  exact dispatchHeartbeat_spent env.heartbeatAccepted (sent.driven _)

theorem loop_spent (env : EndpointEnvironment) (proceeds : e.Proceeds env)
    (near : (env.nowMs - beforeMs).toNat ≤ gapMs) (small : gapMs < 2 ^ 31)
    (ongoing : Ongoing config random count (fun _ _ => True) e) :
    Ongoing config random count (Spent e.sender e.transmission gapMs beforeMs env.nowMs)
      (e.loop env) := by
  have whole : e.loop env = runPhases env (e.polled env) (phases env) := by
    obtain ⟨enabled, failed⟩ := polled_runtimeEnabled e env
    obtain ⟨initialized, sound, on⟩ := proceeds
    unfold loop
    simp [initialized, enabled, failed, sound, on]
  have start : Ongoing config random count
      (fun s' t' => s' = e.sender ∧ t' = e.transmission) e :=
    ⟨ongoing.moves, ongoing.begun, ongoing.short, fun _ => ⟨rfl, rfl⟩⟩
  rw [whole]
  exact phases_spent env near small _ _
    (start.spared (polled_steps e env).moves (polled_spares e env))

end Loop

/- Runs -/

/-- An endpoint, and the time of its last iteration. -/
structure TimedEndpoint where
  endpoint : EspNowNetProtocolComponent
  lastMs : UInt32

namespace TimedEndpoint

def apply (e : TimedEndpoint) : EndpointOperation → TimedEndpoint
  | .control call => { e with endpoint := call.apply e.endpoint }
  | .driver event => { e with endpoint := e.endpoint.driverEvent event }
  | .loop env => ⟨e.endpoint.loop env, env.nowMs⟩

/-- The time an operation comes after the last iteration. -/
def elapsedMs (e : TimedEndpoint) : EndpointOperation → Nat
  | .control _ | .driver _ => 0
  | .loop env => (env.nowMs - e.lastMs).toNat

/-- The time until the next iteration, if this one has sent an ACK to another endpoint or found one
    in the air. -/
def ackMs (gapMs : Nat) (e : TimedEndpoint) : EndpointOperation → Nat
  | .control _ | .driver _ => 0
  | .loop env => if (e.endpoint.loop env).transmission.owner = .ack then gapMs else 0

/-- The iterations take place and come in time, and by the end of each the driver has completed what
    was in the air before it. -/
def Prompt (gapMs : Nat) (e : TimedEndpoint) : EndpointOperation → Prop
  | .control _ | .driver _ => True
  | .loop env => e.endpoint.Proceeds env ∧ (env.nowMs - e.lastMs).toNat ≤ gapMs ∧
      (e.endpoint.transmission.owner ≠ .none →
        (e.endpoint.loop env).transmission ≠ e.endpoint.transmission)

instance decidablePrompt (gapMs : Nat) (e : TimedEndpoint) :
    ∀ operation, Decidable (e.Prompt gapMs operation)
  | .control _ | .driver _ => inferInstanceAs (Decidable True)
  | .loop _ => inferInstanceAs (Decidable (_ ∧ _ ∧ (_ → _)))

variable {e : TimedEndpoint}

theorem apply_endpoint (e : TimedEndpoint) (operation : EndpointOperation) :
    (e.apply operation).endpoint = operation.apply e.endpoint := by
  cases operation with
  | control | driver | loop => rfl

theorem run_endpoint (e : TimedEndpoint) (operations : List EndpointOperation) :
    (operations.foldl apply e).endpoint = e.endpoint.run operations := by
  induction operations generalizing e with
  | nil => rfl
  | cons operation operations ih =>
    rw [List.foldl_cons, ih, apply_endpoint]
    rfl

end TimedEndpoint

/-- What is left of the time of a delivery is a budget for the iterations. -/
theorem delivery_spends (config : Configuration) (random : UInt64) (count : Nat) {gapMs : Nat}
    (small : gapMs < 2 ^ 31) :
    TimeBudget.Spends TimedEndpoint.apply (fun e => e.Prompt gapMs)
      (fun e => Ongoing config random count (fun _ _ => True) e.endpoint)
      (fun e => ¬ e.endpoint.Delivering count)
      TimedEndpoint.elapsedMs (fun e => e.ackMs gapMs)
      (fun e => e.endpoint.sender.timeLeftMs gapMs e.lastMs) := by
  have moves (e : TimedEndpoint) (operation : EndpointOperation) :
      EndpointMoves e.endpoint (e.apply operation).endpoint := by
    rw [TimedEndpoint.apply_endpoint]
    exact operation_moves e.endpoint operation
  constructor
  · intro e operation ongoing
    exact ongoing.moved (moves e operation) fun _ _ known => known
  · intro e operation ongoing ended delivering
    exact ended (ongoing.delivering (moves e operation) delivering).1
  · intro e operation ongoing prompt delivering
    rw [not_not] at delivering
    have before := (ongoing.delivering (moves e operation) delivering).1
    -- what is done between the iterations takes no time, and leaves the delivery as it is
    have aside {e' : EspNowNetProtocolComponent} (quiet : QuietSteps e.endpoint e')
        (after : e'.Delivering count) : e'.sender = e.endpoint.sender :=
      (quiet.spares.same (after.1.le.trans before.1.ge) after.2).1
    cases operation with
    | control call =>
      have same := aside (control_quiet e.endpoint call) delivering
      simp only [TimedEndpoint.apply, TimedEndpoint.elapsedMs, TimedEndpoint.ackMs, same]
      exact Nat.le_refl _
    | driver event =>
      have same := aside (driverEvent_quiet e.endpoint event) delivering
      simp only [TimedEndpoint.apply, TimedEndpoint.elapsedMs, TimedEndpoint.ackMs, same]
      exact Nat.le_refl _
    | loop env =>
      obtain ⟨proceeds, near, completed⟩ := prompt
      cases (loop_spent env proceeds near small ongoing).knows delivering with
      | stuck same owned => exact absurd same (completed owned)
      | spent left => exact left

/-- A message of one fragment that has been started is not delivered for longer than its attempts
    take, each with two iterations and the wait for its ACK, and the time in which the endpoint has
    an ACK to another one in the air. By then it has been acknowledged, rejected, timed out or given
    up, or another message has been started. -/
theorem short_delivery_ends {config : Configuration} {random : UInt64}
    {earlier operations : List EndpointOperation} {e : EspNowNetProtocolComponent}
    (reached : (setup config random).run earlier = e) (ready : e.sender.state = .ready)
    (short : e.sender.message.size ≤ EspNowFrameCodec.maxFragmentData) {gapMs : Nat}
    (small : gapMs < 2 ^ 31) (startMs : UInt32)
    (prompt : TimeBudget.Along TimedEndpoint.apply (fun e => e.Prompt gapMs) ⟨e, startMs⟩ operations)
    (long : e.sender.delivery.policy.maxAttempts.toNat *
        (e.sender.delivery.policy.ackTimeoutMs.toNat + 2 * gapMs) + gapMs +
          TimeBudget.total TimedEndpoint.apply (fun e => e.ackMs gapMs) ⟨e, startMs⟩ operations <
      TimeBudget.total TimedEndpoint.apply TimedEndpoint.elapsedMs ⟨e, startMs⟩ operations) :
    ¬ (e.run operations).Delivering (startedMessages e.history).length := by
  have moves : EndpointMoves (setup config random) e := reached ▸ run_moves _ earlier
  have start : Ongoing config random (startedMessages e.history).length (fun _ _ => True) e :=
    ⟨moves, Nat.le_refl _, fun _ => short, fun _ => trivial⟩
  have within : e.sender.timeLeftMs gapMs startMs ≤ e.sender.delivery.policy.maxAttempts.toNat *
      (e.sender.delivery.policy.ackTimeoutMs.toNat + 2 * gapMs) + gapMs := by
    unfold ReliableMessageSender.timeLeftMs
    rw [ready]
    exact Nat.add_le_add_right (Nat.mul_le_mul_right _ (Nat.sub_le _ _)) gapMs
  have ended := (delivery_spends config random (startedMessages e.history).length small).finished_run
    (s := ⟨e, startMs⟩) start prompt (by dsimp only; omega)
  rw [TimedEndpoint.run_endpoint] at ended
  exact ended

/-- An endpoint that has started a message of one byte. -/
def shortStarted : EspNowNetProtocolComponent :=
  (setup { peers := samplePeers } 1).run
    (radioReady ++ [.control (.startReliableMessage 0 .command 7 (some [1]))])

/-- An iteration every second, and the driver's report on the frame of the one before. -/
def unansweredSeconds : List EndpointOperation :=
  [6250, 7250, 8250, 9250, 10250, 11250, 12250, 13250].flatMap fun nowMs =>
    [.driver (.sendCallback 0 true), .loop { nowMs }]

theorem short_delivery_ends_unanswered :
    shortStarted.sender.state = .ready ∧
      shortStarted.sender.message.size ≤ EspNowFrameCodec.maxFragmentData ∧
      TimeBudget.Along TimedEndpoint.apply (fun e => e.Prompt 1000) ⟨shortStarted, 5250⟩
        unansweredSeconds ∧
      ¬ (shortStarted.run unansweredSeconds).Delivering
        (startedMessages shortStarted.history).length :=
  have ready : shortStarted.sender.state = .ready := by decide +kernel
  have short : shortStarted.sender.message.size ≤ EspNowFrameCodec.maxFragmentData := by
    decide +kernel
  have prompt : TimeBudget.Along TimedEndpoint.apply (fun e => e.Prompt 1000)
      ⟨shortStarted, 5250⟩ unansweredSeconds := by
    decide +kernel
  ⟨ready, short, prompt, short_delivery_ends rfl ready short (by decide) 5250 prompt
    (by decide +kernel)⟩

end EspNowNet
