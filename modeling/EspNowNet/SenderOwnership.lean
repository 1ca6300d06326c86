import EspNowNet.DeliveryTrace
import EspNowNet.LaneTransactions

/- Who the shared sender works for. The owner of a delivery is the one that started its
   message, until the sender is given back. -/
namespace EspNowNet
open EspNowNetProtocolComponent Relation

variable {e e' : EspNowNetProtocolComponent}

/-- What a step does to the ownership of the sender. -/
inductive OwnerStep (e e' : EspNowNetProtocolComponent) : Prop
  | kept (owner : e'.reliableMessageOwner = e.reliableMessageOwner)
      (slot : e'.commandSenderSlot = e.commandSenderSlot)
      (message : e.sender.SameMessage e'.sender)
      (background : e'.background = e.background ∨ e.background.completionReady = true)
  | released (owner : e'.reliableMessageOwner = .none)
  | started (free : e.reliableMessageOwner = .none)
      (more : (startedMessages e'.history).length = (startedMessages e.history).length + 1)
      (background : e'.reliableMessageOwner = .backgroundResult →
        e'.sender.envelope.transactionId = e'.background.transactionId ∧
          e'.background.completionReady = false)

/-- Nobody touches the sender. -/
theorem OwnerStep.aside (owner : e'.reliableMessageOwner = e.reliableMessageOwner)
    (slot : e'.commandSenderSlot = e.commandSenderSlot) (sender : e'.sender = e.sender)
    (background : e'.background = e.background) : OwnerStep e e' :=
  .kept owner slot (sender ▸ .refl _) (.inl background)

theorem step_owner (coherent : e.Coherent) (step : EndpointStep e e') : OwnerStep e e' := by
  have coupled := coherent.coupled
  cases step with
  | bookkeeping kept =>
    cases kept with
    | completionTaken ready => exact .kept rfl rfl (.refl _) (.inr ready)
    | heartbeat | declarativeId | mailboxTaken | mailboxFilled | commandVerified | commandAnswered
      | resultTaken | unsolicitedDelivered => exact .aside rfl rfl rfl rfl
    | laneLooped lane answers nowMs =>
      obtain ⟨events, _, same⟩ := loopLane_eq e lane answers nowMs
      rw [same]
      exact .aside rfl rfl rfl rfl
  | messageTaken taken consumption =>
    obtain ⟨_, _, _, rfl⟩ := consumption.eq
    exact .aside rfl rfl rfl rfl
  | enabled | radioPolled | recoveryRequested | discarded | completionIgnored | externalDeadline
    | completionReleases | heartbeatReceived | frameAccepted | messageReady | ackDropped | ackSent
    | heartbeatSent => exact .aside rfl rfl rfl rfl
  | startRefused run =>
    rcases ReliableMessageSender.start_false coupled run with rfl | ⟨idle, stored, rfl⟩
    · exact .aside rfl rfl rfl rfl
    · exact .released (coherent.free.mpr idle)
  | @started owner sender peer kind transactionId data background claim free run =>
    refine .started free rfl ?_
    obtain ⟨_, _, _, _, _, _, _, _, form⟩ := ReliableMessageSender.start_true run
    cases claim with
    | apiCaller | dispatcherResult => exact fun owned => nomatch owned
    | backgroundResult peer clear encodes =>
      rintro -
      refine ⟨?_, clear⟩
      change sender.envelope.transactionId = _
      rw [form]
      rfl
  | commandStarted nowMs enabled free idle valid encodes run =>
    exact .started free rfl fun owned => nomatch owned
  | cancelled slot busy =>
    rw [cancelSlot_eq e slot]
    by_cases own : e.reliableMessageOwner = .commandClient ∧ e.commandSenderSlot = slot
    · exact .released (if_pos own)
    · exact .aside (if_neg own) rfl (if_neg own) rfl
  | disabled enabled =>
    obtain ⟨_, _, _, _, _, _, same, _⟩ := disableRuntime_eq e
    rw [same]
    exact .released rfl
  | senderReset | delivered | senderReleased => exact .released rfl
  | driver event => cases event <;> exact .aside rfl rfl rfl rfl
  | completionDelivered nowMs taken owned own flying =>
    exact .kept rfl rfl (ReliableMessageSender.sameMessage_completeFrame coupled _ _) (.inl rfl)
  | @ackReceived received radio runtime ack taken run handed =>
    obtain ⟨outcome, _, same⟩ := acceptDeliveryAck_eq
      { e with radio, runtime := { runtime with deliveryAck := none } } received.peerIndex ack
    rw [same]
    exact .kept rfl rfl (ReliableMessageSender.sameMessage_acceptAck coupled ack) (.inl rfl)
  | progressQueued peer progress =>
    obtain ⟨notification, same⟩ := queueCommandResultNotification_eq e peer _
    rw [same]
    exact .aside rfl rfl rfl rfl
  | finished slot waiting terminal =>
    obtain ⟨notification, same⟩ := finishCommandClient_eq e _ slot
    rw [same]
    exact .aside rfl rfl rfl rfl
  | deliveryFailed message nowMs owned ended =>
    unfold failCommandClient
    obtain ⟨notification, same⟩ := finishCommandClient_eq e.releaseSender _ e.commandSenderSlot
    rw [same]
    exact .released rfl
  | senderLooped nowMs =>
    exact .kept rfl rfl (ReliableMessageSender.sameMessage_loop coupled nowMs) (.inl rfl)
  | @frameRefused peer frame sender nowMs free taken =>
    have takenCoupled := ReliableMessageSender.coupled_takeFrame coupled
    have takenSame := ReliableMessageSender.sameMessage_takeFrame coupled
    rw [taken] at takenCoupled takenSame
    exact .kept rfl rfl (takenSame.trans
      (ReliableMessageSender.sameMessage_completeFrame takenCoupled _ _)) (.inl rfl)
  | @frameSent peer frame sender radio accepted free taken run =>
    have takenSame := ReliableMessageSender.sameMessage_takeFrame coupled
    rw [taken] at takenSame
    exact .kept rfl rfl takenSame (.inl rfl)

theorem move_owner (coherent : e.Coherent) (move : EndpointMove e e') : OwnerStep e e' := by
  cases move with
  | step step => exact step_owner coherent step
  | notification step => cases step <;> exact .aside rfl rfl rfl rfl

namespace EspNowNetProtocolComponent

/-- The background result in delivery is the one its slot names, and no other has completed. -/
def BackgroundOwned (e : EspNowNetProtocolComponent) : Prop :=
  e.reliableMessageOwner = .backgroundResult →
    e.sender.envelope.transactionId = e.background.transactionId ∧
      e.background.completionReady = false

theorem BackgroundOwned.step (owned : e.BackgroundOwned) (step : OwnerStep e e') :
    e'.BackgroundOwned := by
  intro own
  cases step with
  | kept owner slot message background =>
    obtain ⟨transaction, clear⟩ := owned (owner ▸ own)
    rcases background with same | ready
    · rw [same, message.envelope]
      exact ⟨transaction, clear⟩
    · exact absurd (ready.symm.trans clear) (by decide)
  | released owner => exact absurd (owner.symm.trans own) (by decide)
  | started free more background => exact background own

/-- Between two states the sender has been given back, or works for the same owner on the same
    message. -/
def CreditKept (e e' : EspNowNetProtocolComponent) : Prop :=
  e'.reliableMessageOwner = .none ∨
    e'.reliableMessageOwner = e.reliableMessageOwner ∧
      e'.commandSenderSlot = e.commandSenderSlot ∧ e'.sender.outbound = e.sender.outbound ∧
      (e.reliableMessageOwner = .backgroundResult →
        e'.background.transactionId = e.background.transactionId)

theorem CreditKept.step (kept : e.CreditKept e') {next : EspNowNetProtocolComponent}
    (owned : e'.BackgroundOwned) (step : OwnerStep e' next)
    (same : (startedMessages next.history).length = (startedMessages e'.history).length) :
    e.CreditKept next := by
  cases step with
  | kept owner slot message background =>
    rcases kept with free | ⟨sameOwner, sameSlot, sameMessage, sameBackground⟩
    · exact .inl (owner.trans free)
    · refine .inr ⟨owner.trans sameOwner, slot.trans sameSlot, ?_, fun own => ?_⟩
      · rw [← sameMessage, ReliableMessageSender.outbound, ReliableMessageSender.outbound,
          message.peerIndex, message.envelope, message.message]
      · rcases background with kept | ready
        · rw [kept, sameBackground own]
        · have clear := (owned (sameOwner.trans own)).2
          exact absurd (ready.symm.trans clear) (by decide)
  | released owner => exact .inl owner
  | started free more background =>
    rw [more] at same
    omega

end EspNowNetProtocolComponent

theorem startedMessages_length_le {older newer : List EndpointEvent} (extended : older <:+ newer) :
    (startedMessages older).length ≤ (startedMessages newer).length := by
  obtain ⟨events, rfl⟩ := extended
  simp [startedMessages, List.filterMap_append]

theorem DeliveryEffect.senderBoot (effect : DeliveryEffect e e') :
    e'.sender.localBootId = e.sender.localBootId := by
  cases effect with
  | quiet _ _ sender | sent _ _ _ _ sender => exact sender.counters.1
  | accepted _ _ _ _ _ sender | ready _ _ _ _ _ _ sender | taken _ _ sender
    | answered _ _ sender => rw [sender]
  | started run =>
    obtain ⟨_, _, _, _, _, _, _, _, form⟩ := ReliableMessageSender.start_true run
    rw [form]
    rfl
  | received address data same => rw [same]; rfl
  | acknowledged _ _ _ _ sender =>
    rw [sender]
    rcases ReliableMessageSender.acceptAck_cases e.sender _ with kept | ⟨_, _, next⟩
    · rw [kept]
    · rw [next]

/-- What the ownership of the sender rests on in every state of a run. -/
structure Owned (config : Configuration) (random : UInt64) (e : EspNowNetProtocolComponent) :
    Prop where
  coherent : e.Coherent
  lanes : LanesRead e
  background : e.BackgroundOwned
  boot : e.sender.localBootId = (setup config random).sender.localBootId

theorem Owned.move {config : Configuration} {random : UInt64} (owned : Owned config random e)
    (move : EndpointMove e e') : Owned config random e' where
  coherent := coherent_move owned.coherent move
  lanes := owned.lanes.step (move_lanes move)
  background := owned.background.step (move_owner owned.coherent move)
  boot := (delivery_effect_move owned.coherent.coupled move).senderBoot.trans owned.boot

theorem owned_moves {config : Configuration} {random : UInt64}
    (moves : EndpointMoves (setup config random) e) : Owned config random e := by
  refine GuardedInvariant.preserved (Owned config random) (fun owned move => owned.move move) moves
    ⟨coherent_setup config random, ⟨fun _ => .of_idle rfl, fun _ => rfl⟩, ?_, rfl⟩
  exact fun own => nomatch own

theorem credit_kept {config : Configuration} {random : UInt64} (owned : Owned config random e)
    (moves : EndpointMoves e e')
    (same : (startedMessages e'.history).length = (startedMessages e.history).length) :
    e.CreditKept e' := by
  induction moves with
  | refl => exact .inr ⟨rfl, rfl, rfl, fun _ => rfl⟩
  | @tail before after earlier last ih =>
    have grown := startedMessages_length_le (move_extends _ _ last)
    have started := startedMessages_length_le (GuardedInvariant.extends_run move_extends earlier)
    have reached : Owned config random before :=
      GuardedInvariant.preserved (Owned config random) (fun owned move => owned.move move) earlier
        owned
    apply (ih (by omega)).step reached.background (move_owner reached.coherent last)
    omega

/-- A configured endpoint's sender has a boot id. -/
theorem configured_boot {config : Configuration} {random : UInt64}
    (configured : (setup config random).failed = false) :
    (setup config random).sender.localBootId ≠ 0 := by
  have nonzero : (if random = 0 then (1 : UInt64) else random) ≠ 0 := by
    split
    · decide
    · assumption
  simp only [setup, Bool.or_eq_false_iff, Bool.not_eq_false', Bool.and_eq_true] at configured
  simp only [setup]
  rw [ReliableMessageSender.configure_boot configured.2.2]
  exact nonzero

/-- The owner mark, the sender and the owner's own record agree. -/
structure OwnerAgrees (e : EspNowNetProtocolComponent) : Prop where
  free : e.reliableMessageOwner = .none ↔ e.sender.state = .idle
  client : e.reliableMessageOwner = .commandClient →
    (e.clients e.commandSenderSlot).state = .waitingForDeliveryAck ∧
      e.sender.delivery.key.transactionId =
        (e.clients e.commandSenderSlot).command.transactionId ∧
      e.sender.peerIndex = (e.clients e.commandSenderSlot).peer
  background : e.reliableMessageOwner = .backgroundResult →
    e.sender.delivery.key.transactionId = e.background.transactionId ∧
      e.background.completionReady = false

theorem Owned.agrees {config : Configuration} {random : UInt64} (owned : Owned config random e) :
    OwnerAgrees e := by
  have key (taken : e.reliableMessageOwner ≠ .none) :
      e.sender.delivery.key.transactionId = e.sender.envelope.transactionId := by
    have busy : e.sender.state ≠ .idle := fun idle => taken (owned.coherent.free.mpr idle)
    have loaded := owned.coherent.coupled.loaded (owned.coherent.coupled.state_ne_idle busy)
    exact congrArg DeliveryIdentity.transactionId loaded.key
  constructor
  · exact owned.coherent.free
  · intro own
    rw [key (by simp [own])]
    exact owned.coherent.owned own
  · intro own
    rw [key (by simp [own])]
    exact owned.background own

/-- A result the dispatcher phase takes is always given to the sender. -/
theorem processDispatcher_starts {config : Configuration} {random : UInt64}
    (configured : (setup config random).failed = false) (owned : Owned config random e)
    (free : e.reliableMessageOwner = .none) {pending : PendingNetResult}
    (taken : (e.lanes e.resultLane).takeResult.1 = some pending) :
    ∃ sender, e.sender.start pending.peerIndex .result pending.transactionId
        (some pending.payload.bytes) = (true, sender) ∧
      e.processDispatcher.sender = sender ∧
      e.processDispatcher.reliableMessageOwner = .dispatcherResult := by
  have idle := owned.coherent.free.mp free
  have sound := owned.lanes.sound e.resultLane
  have boot : e.sender.localBootId ≠ 0 := owned.boot ▸ configured_boot configured
  cases outcome : (e.lanes e.resultLane).takeResult with
  | mk result dispatcher =>
    rw [outcome] at taken
    obtain rfl : result = some pending := taken
    obtain ⟨ready, same, _⟩ := InboundCommandDispatcher.takeResult_some outcome
    have busy : (e.lanes e.resultLane).state ≠ .idle := by simp [ready]
    obtain ⟨sent, payload, encodes, staged⟩ := sound.staging ready
    rw [← same] at staged
    subst staged
    obtain ⟨sender, run⟩ := ReliableMessageSender.start_of_idle owned.coherent.coupled boot idle
      (sound.addressed busy) (show EspNowFrameKind.result ≠ .ack by decide) (sound.identified busy)
      payload (EspNowResultCodec.encode_ne_nil encodes)
    refine ⟨sender, run, ?_, ?_⟩ <;>
      simp [processDispatcher, free, idle, outcome, startSender, record, run]

/-- In every state of a configured endpoint the owner of the sender is known. From then on, as
    long as no other message is started, an outcome goes to that owner; and a result taken from
    a dispatcher becomes a delivery of its own. -/
theorem sender_ownership (config : Configuration) (random : UInt64)
    (configured : (setup config random).failed = false)
    (moves : EndpointMoves (setup config random) e) :
    OwnerAgrees e ∧
      (∀ e', EndpointMoves e e' → (startedMessages e'.history).length =
        (startedMessages e.history).length → e.CreditKept e') ∧
      ∀ pending, e.reliableMessageOwner = .none →
        (e.lanes e.resultLane).takeResult.1 = some pending →
        ∃ sender, e.sender.start pending.peerIndex .result pending.transactionId
            (some pending.payload.bytes) = (true, sender) ∧
          e.processDispatcher.sender = sender ∧
          e.processDispatcher.reliableMessageOwner = .dispatcherResult := by
  have owned := owned_moves moves
  refine ⟨owned.agrees, fun e' later same => credit_kept owned later same, ?_⟩
  intro pending free taken
  exact processDispatcher_starts configured owned free taken

/-- The sender after a command was started belongs to that command. -/
theorem sender_ownership_after_start :
    (setup {} 1).failed = false ∧
      OwnerAgrees ((setup {} 1).run [.control (.startCommand 0 sampleCommand 0)]) ∧
      ((setup {} 1).run [.control (.startCommand 0 sampleCommand 0)]).reliableMessageOwner =
        .commandClient :=
  have configured : (setup {} 1).failed = false := by decide +kernel
  ⟨configured, (sender_ownership {} 1 configured (run_moves (setup {} 1)
    [.control (.startCommand 0 sampleCommand 0)])).1, by decide +kernel⟩

end EspNowNet
