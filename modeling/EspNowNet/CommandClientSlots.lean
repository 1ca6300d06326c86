import EspNowNet.Step

/- The command-client slots and the sender they share. A slot that waits for its delivery
   ACK is the one the sender is working for, as long as nobody resets the sender under it. -/
namespace EspNowNet
open EspNowNetProtocolComponent

/-- The slots, the owner mark and the sender agree, apart from what `waiting` adds. -/
structure SlotsCoherent (dual : Bool) (owner : ReliableMessageOwner) (senderSlot : Fin 2)
    (clients : Fin 2 → CommandClient) (sender : ReliableMessageSender) : Prop where
  coupled : sender.Coupled
  valid : ClientsValid dual clients
  free : owner = .none ↔ sender.state = .idle
  owned : owner = .commandClient → (clients senderSlot).state = .waitingForDeliveryAck ∧
    sender.envelope.transactionId = (clients senderSlot).command.transactionId ∧
    sender.peerIndex = (clients senderSlot).peer

/-- No slot waits for an ACK that the sender does not work for. -/
def SlotsBacked (owner : ReliableMessageOwner) (senderSlot : Fin 2)
    (clients : Fin 2 → CommandClient) : Prop :=
  ∀ slot, (clients slot).state = .waitingForDeliveryAck →
    owner = .commandClient ∧ senderSlot = slot

namespace EspNowNetProtocolComponent

def Coherent (e : EspNowNetProtocolComponent) : Prop :=
  SlotsCoherent e.build.dualCommandClient e.reliableMessageOwner e.commandSenderSlot e.clients
    e.sender

def Backed (e : EspNowNetProtocolComponent) : Prop :=
  SlotsBacked e.reliableMessageOwner e.commandSenderSlot e.clients

end EspNowNetProtocolComponent

theorem ClientsValid.update {dual : Bool} {clients : Fin 2 → CommandClient}
    (valid : ClientsValid dual clients) {slot : Fin 2} {client : CommandClient}
    (command : client.state ≠ .idle → client.command.Valid)
    (peer : client.state ≠ .idle → client.peer ≠ invalidPeerIndex)
    (single : dual = false → slot = 1 → client.state = .idle) :
    ClientsValid dual (Function.update clients slot client) := by
  refine ⟨fun other busy => ?_, fun other busy => ?_, fun one => ?_⟩
  · by_cases here : other = slot
    · subst here
      simp only [Function.update_self] at busy ⊢
      exact command busy
    · simp only [Function.update_of_ne here] at busy ⊢
      exact valid.command other busy
  · by_cases here : other = slot
    · subst here
      simp only [Function.update_self] at busy ⊢
      exact peer busy
    · simp only [Function.update_of_ne here] at busy ⊢
      exact valid.peer other busy
  · by_cases here : (1 : Fin 2) = slot
    · subst here
      simpa using single one rfl
    · simpa [Function.update_of_ne here] using valid.single one

/-- A slot that becomes idle, or that changes without becoming busy, stays valid. -/
theorem ClientsValid.settle {dual : Bool} {clients : Fin 2 → CommandClient}
    (valid : ClientsValid dual clients) (slot : Fin 2) {client : CommandClient}
    (same : client.state = .idle ∨ (clients slot).state ≠ .idle ∧
      client.command = (clients slot).command ∧ client.peer = (clients slot).peer) :
    ClientsValid dual (Function.update clients slot client) := by
  rcases same with idle | ⟨busy, command, peer⟩
  · exact valid.update (by simp [idle]) (by simp [idle]) (fun _ _ => idle)
  · refine valid.update (fun _ => command ▸ valid.command slot busy)
      (fun _ => peer ▸ valid.peer slot busy) (fun one second => ?_)
    subst second
    exact absurd (valid.single one) busy

theorem ClientsValid.of_idle {dual : Bool} {clients : Fin 2 → CommandClient}
    (idle : ∀ slot, (clients slot).state = .idle) : ClientsValid dual clients :=
  ⟨fun slot busy => absurd (idle slot) busy, fun slot busy => absurd (idle slot) busy,
    fun _ => idle 1⟩

theorem SlotsCoherent.sameMessage {dual : Bool} {owner : ReliableMessageOwner}
    {senderSlot : Fin 2} {clients : Fin 2 → CommandClient} {s t : ReliableMessageSender}
    (coherent : SlotsCoherent dual owner senderSlot clients s) (coupled : t.Coupled)
    (same : s.SameMessage t) : SlotsCoherent dual owner senderSlot clients t where
  coupled := coupled
  valid := coherent.valid
  free := coherent.free.trans same.idle.symm
  owned := by
    intro own
    rw [same.envelope, same.peerIndex]
    exact coherent.owned own

/-- The sender goes back to idle together with the owner mark. -/
theorem SlotsCoherent.release {dual : Bool} {owner : ReliableMessageOwner}
    {senderSlot senderSlot' : Fin 2} {clients clients' : Fin 2 → CommandClient}
    {sender : ReliableMessageSender}
    (coherent : SlotsCoherent dual owner senderSlot clients sender)
    (valid : ClientsValid dual clients') :
    SlotsCoherent dual .none senderSlot' clients' sender.reset where
  coupled := ReliableMessageSender.coupled_reset coherent.coupled
  valid := valid
  free := ⟨fun _ => rfl, fun _ => rfl⟩
  owned := by simp

/-- A slot the sender does not work for may change. -/
theorem SlotsCoherent.otherSlot {dual : Bool} {owner : ReliableMessageOwner}
    {senderSlot slot : Fin 2} {clients : Fin 2 → CommandClient} {sender : ReliableMessageSender}
    (coherent : SlotsCoherent dual owner senderSlot clients sender) {client : CommandClient}
    (valid : ClientsValid dual (Function.update clients slot client))
    (other : owner = .commandClient → senderSlot ≠ slot) :
    SlotsCoherent dual owner senderSlot (Function.update clients slot client) sender where
  coupled := coherent.coupled
  valid := valid
  free := coherent.free
  owned := by
    intro own
    rw [Function.update_of_ne (other own)]
    exact coherent.owned own

theorem coupled_of_start {s t : ReliableMessageSender} (coupled : s.Coupled) {started : Bool}
    {peer : PeerIndex} {kind : EspNowFrameKind} {transactionId : TransactionId}
    {data : Option (List UInt8)} (run : s.start peer kind transactionId data = (started, t)) :
    t.Coupled := by
  have := ReliableMessageSender.coupled_start coupled peer kind transactionId data
  rwa [run] at this

theorem coherent_started {e : EspNowNetProtocolComponent} (coherent : e.Coherent)
    {owner : ReliableMessageOwner} {sender : ReliableMessageSender} {peer : PeerIndex}
    {kind : EspNowFrameKind} {transactionId : TransactionId} {data : Option (List UInt8)}
    {senderSlot : Fin 2} {clients : Fin 2 → CommandClient} (ownedBy : owner ≠ .none)
    (run : e.sender.start peer kind transactionId data = (true, sender))
    (valid : ClientsValid e.build.dualCommandClient clients)
    (owned : owner = .commandClient → (clients senderSlot).state = .waitingForDeliveryAck ∧
      transactionId = (clients senderSlot).command.transactionId ∧
      peer = (clients senderSlot).peer) :
    SlotsCoherent e.build.dualCommandClient owner senderSlot clients sender := by
  have coupled := coupled_of_start coherent.coupled run
  obtain ⟨stored, _, _, _, _, _, _, _, rfl⟩ := ReliableMessageSender.start_true run
  exact ⟨coupled, valid, by simp [ownedBy], owned⟩

theorem nextSlot_single {e : EspNowNetProtocolComponent} (one : e.build.dualCommandClient = false) :
    e.nextSlot = 0 := by
  simp [nextSlot, one]

/-- `fail` and `finish` clear a slot; so does cancelling one. -/
theorem ClientsValid.clear {dual : Bool} {clients : Fin 2 → CommandClient}
    (valid : ClientsValid dual clients) (slot : Fin 2) (externalDeadline : Bool) :
    ClientsValid dual (Function.update clients slot { externalDeadline }) :=
  valid.settle _ (Or.inl rfl)

theorem SlotsCoherent.owner_slot_ne {dual : Bool} {owner : ReliableMessageOwner}
    {senderSlot slot : Fin 2} {clients : Fin 2 → CommandClient} {sender : ReliableMessageSender}
    (coherent : SlotsCoherent dual owner senderSlot clients sender)
    (elsewhere : (clients slot).state ≠ .waitingForDeliveryAck) :
    owner = .commandClient → senderSlot ≠ slot := by
  intro own same
  exact elsewhere (same ▸ (coherent.owned own).1)

theorem coherent_cancelled {e : EspNowNetProtocolComponent} (coherent : e.Coherent)
    (slot : Fin 2) : (e.cancelSlot slot).Coherent := by
  rw [cancelSlot_eq e slot]
  have valid := coherent.valid.clear slot (e.clients slot).externalDeadline
  by_cases own : e.reliableMessageOwner = .commandClient ∧ e.commandSenderSlot = slot
  · simp only [own, and_self, ↓reduceIte]
    exact coherent.release valid
  · simp only [own, ↓reduceIte]
    exact coherent.otherSlot valid fun client here => own ⟨client, here⟩

theorem coherent_startRefused {e : EspNowNetProtocolComponent} (coherent : e.Coherent)
    {sender : ReliableMessageSender} {peer : PeerIndex} {kind : EspNowFrameKind}
    {transactionId : TransactionId} {data : Option (List UInt8)}
    (run : e.sender.start peer kind transactionId data = (false, sender)) :
    Coherent { e with sender } := by
  have kept := coupled_of_start coherent.coupled run
  rcases ReliableMessageSender.start_false coherent.coupled run with rfl | ⟨idle, stored, rfl⟩
  · exact coherent
  · -- the owner mark is clear while the sender is idle, so nobody owns the stored bytes
    have unowned := coherent.free.mpr idle
    refine ⟨kept, coherent.valid, coherent.free, ?_⟩
    intro own
    exact absurd (unowned.symm.trans own) (by decide)

theorem coherent_commandStarted {e : EspNowNetProtocolComponent} (coherent : e.Coherent)
    {sender : ReliableMessageSender} {peer : PeerIndex} {command : NetCommand}
    {encoded : List UInt8} (nowMs : UInt32) (valid : command.Valid)
    (run : e.sender.start peer .command command.transactionId (some encoded) = (true, sender)) :
    SlotsCoherent e.build.dualCommandClient .commandClient e.nextSlot
      (Function.update e.clients e.nextSlot
        { command, peer, startedMs := nowMs, state := .waitingForDeliveryAck }) sender := by
  obtain ⟨_, _, _, _, peerValid, _⟩ := ReliableMessageSender.start_true run
  have slots : ClientsValid e.build.dualCommandClient (Function.update e.clients e.nextSlot
      { command, peer, startedMs := nowMs, state := .waitingForDeliveryAck }) := by
    refine coherent.valid.update (fun _ => valid) (fun _ => peerValid) fun one second => ?_
    exact absurd (second.symm.trans (nextSlot_single one)) (by decide)
  exact coherent_started coherent (by decide) run slots fun _ => by simp

theorem coherent_disabled {e : EspNowNetProtocolComponent} (coherent : e.Coherent) :
    e.disableRuntime.Coherent := by
  obtain ⟨clients, peer, transactionId, heartbeat, _, _, same, idle⟩ := disableRuntime_eq e
  rw [same]
  exact coherent.release (ClientsValid.of_idle (idle coherent.valid))

theorem coherent_externalDeadline {e : EspNowNetProtocolComponent} (coherent : e.Coherent)
    (slot : Fin 2) (busy : (e.clients slot).state ≠ .idle) :
    (e.setClient slot { e.clients slot with externalDeadline := true }).Coherent := by
  have valid : ClientsValid e.build.dualCommandClient (Function.update e.clients slot
      { e.clients slot with externalDeadline := true }) :=
    coherent.valid.settle slot (Or.inr ⟨busy, rfl, rfl⟩)
  refine ⟨coherent.coupled, valid, coherent.free, fun own => ?_⟩
  by_cases here : e.commandSenderSlot = slot
  · subst here
    simpa [setClient] using coherent.owned own
  · simpa [setClient, Function.update_of_ne here] using coherent.owned own

theorem coherent_acceptDeliveryAck {e : EspNowNetProtocolComponent} (coherent : e.Coherent)
    (peer : PeerIndex) (ack : EspNowAckPayload) : (e.acceptDeliveryAck peer ack).Coherent := by
  obtain ⟨outcome, _, same⟩ := acceptDeliveryAck_eq e peer ack
  rw [same]
  exact coherent.sameMessage (ReliableMessageSender.coupled_acceptAck coherent.coupled ack)
    (ReliableMessageSender.sameMessage_acceptAck coherent.coupled ack)

theorem coherent_finished {e : EspNowNetProtocolComponent} (coherent : e.Coherent)
    (result : NetResult) {slot : Fin 2} (waiting : (e.clients slot).state = .waitingForResult) :
    (e.finishCommandClient result slot).Coherent := by
  obtain ⟨notification, same⟩ := finishCommandClient_eq e result slot
  rw [same]
  exact coherent.otherSlot (coherent.valid.clear slot _)
    (coherent.owner_slot_ne (by simp [waiting]))

theorem coherent_deliveryFailed {e : EspNowNetProtocolComponent} (coherent : e.Coherent)
    (code : NetErrorCode) (message : String) (nowMs : UInt32) :
    (e.releaseSender.failCommandClient code message nowMs e.commandSenderSlot).Coherent := by
  unfold failCommandClient
  obtain ⟨notification, same⟩ := finishCommandClient_eq e.releaseSender _ e.commandSenderSlot
  rw [same]
  exact coherent.release (coherent.valid.clear _ _)

/-- Taking a frame leaves the message with its owner. -/
theorem SlotsCoherent.frameTaken {dual : Bool} {owner : ReliableMessageOwner}
    {senderSlot : Fin 2} {clients : Fin 2 → CommandClient} {s t : ReliableMessageSender}
    (coherent : SlotsCoherent dual owner senderSlot clients s)
    {frame : Option (PeerIndex × EspNowRadioFrame)} (taken : s.takeFrame = (frame, t)) :
    SlotsCoherent dual owner senderSlot clients t := by
  have takenCoupled := ReliableMessageSender.coupled_takeFrame coherent.coupled
  have takenSame := ReliableMessageSender.sameMessage_takeFrame coherent.coupled
  rw [taken] at takenCoupled takenSame
  exact coherent.sameMessage takenCoupled takenSame

theorem SlotsCoherent.frameCompleted {dual : Bool} {owner : ReliableMessageOwner}
    {senderSlot : Fin 2} {clients : Fin 2 → CommandClient} {s : ReliableMessageSender}
    (coherent : SlotsCoherent dual owner senderSlot clients s) (succeeded : Bool)
    (nowMs : UInt32) :
    SlotsCoherent dual owner senderSlot clients (s.completeFrame succeeded nowMs).2 :=
  coherent.sameMessage (ReliableMessageSender.coupled_completeFrame coherent.coupled _ _)
    (ReliableMessageSender.sameMessage_completeFrame coherent.coupled _ _)

theorem coherent_step {e e' : EspNowNetProtocolComponent} (coherent : e.Coherent)
    (step : EndpointStep e e') : e'.Coherent := by
  cases step with
  | bookkeeping kept =>
    obtain ⟨_, _, _, _, _, _, _, rfl⟩ := kept.eq
    exact coherent
  | messageTaken taken consumption =>
    obtain ⟨_, _, _, rfl⟩ := consumption.eq
    exact coherent
  | enabled | radioPolled | recoveryRequested | discarded | completionIgnored
    | completionReleases | heartbeatReceived | frameAccepted | messageReady | ackDropped | ackSent
    | heartbeatSent => exact coherent
  | driver event =>
    obtain ⟨radio, history, _, same⟩ := driverEvent_eq e event
    rw [same]
    exact coherent
  | progressQueued peer progress =>
    obtain ⟨notification, same⟩ := queueCommandResultNotification_eq e peer _
    rw [same]
    exact coherent
  | startRefused run => exact coherent_startRefused coherent run
  | started claim free run =>
    obtain ⟨other, owned⟩ := claim.owner_ne
    exact coherent_started coherent owned run coherent.valid fun own => absurd own other
  | commandStarted nowMs enabled free idle valid encodes run =>
    exact coherent_commandStarted coherent nowMs valid run
  | cancelled slot busy => exact coherent_cancelled coherent slot
  | disabled enabled => exact coherent_disabled coherent
  | senderReset => exact coherent.release coherent.valid
  | externalDeadline slot busy => exact coherent_externalDeadline coherent slot busy
  | completionDelivered nowMs taken owned own flying => exact coherent.frameCompleted _ _
  | @ackReceived _ radio runtime _ taken run handed =>
    have polled : Coherent { e with radio, runtime := { runtime with deliveryAck := none } } := coherent
    exact coherent_acceptDeliveryAck polled _ _
  | finished slot waiting terminal => exact coherent_finished coherent _ waiting
  | deliveryFailed message nowMs owned ended => exact coherent_deliveryFailed coherent _ message nowMs
  | delivered owned acknowledged =>
    have waiting := (coherent.owned owned).1
    refine coherent.release (coherent.valid.settle _ (Or.inr ⟨?_, rfl, rfl⟩))
    simp [waiting]
  | senderLooped nowMs =>
    exact coherent.sameMessage (ReliableMessageSender.coupled_loop coherent.coupled nowMs)
      (ReliableMessageSender.sameMessage_loop coherent.coupled nowMs)
  | senderReleased release => exact coherent.release coherent.valid
  | frameRefused nowMs free taken => exact (coherent.frameTaken taken).frameCompleted _ _
  | frameSent free taken run => exact coherent.frameTaken taken

theorem SlotsBacked.nobody {owner : ReliableMessageOwner} {senderSlot : Fin 2}
    {clients : Fin 2 → CommandClient} (backed : SlotsBacked owner senderSlot clients)
    (other : owner ≠ .commandClient) (slot : Fin 2) :
    (clients slot).state ≠ .waitingForDeliveryAck :=
  fun waiting => other (backed slot waiting).1

theorem slotsBacked_of_nobody {owner : ReliableMessageOwner} {senderSlot : Fin 2}
    {clients : Fin 2 → CommandClient}
    (nobody : ∀ slot, (clients slot).state ≠ .waitingForDeliveryAck) :
    SlotsBacked owner senderSlot clients :=
  fun slot waiting => absurd waiting (nobody slot)

/-- The slot the sender worked for stops waiting; then nobody waits. -/
theorem SlotsBacked.settled {owner owner' : ReliableMessageOwner} {senderSlot : Fin 2}
    {clients : Fin 2 → CommandClient} (backed : SlotsBacked owner senderSlot clients)
    {client : CommandClient} (settled : client.state ≠ .waitingForDeliveryAck) :
    SlotsBacked owner' senderSlot (Function.update clients senderSlot client) := by
  refine slotsBacked_of_nobody fun slot waiting => ?_
  by_cases here : slot = senderSlot
  · subst here
    exact settled (by simpa using waiting)
  · rw [Function.update_of_ne here] at waiting
    exact here (backed slot waiting).2.symm

/-- A slot that does not wait afterwards leaves the others as they were. -/
theorem SlotsBacked.cleared {owner : ReliableMessageOwner} {senderSlot slot : Fin 2}
    {clients : Fin 2 → CommandClient} (backed : SlotsBacked owner senderSlot clients)
    {client : CommandClient} (settled : client.state ≠ .waitingForDeliveryAck) :
    SlotsBacked owner senderSlot (Function.update clients slot client) := by
  intro other waiting
  by_cases here : other = slot
  · subst here
    exact absurd (by simpa using waiting) settled
  · rw [Function.update_of_ne here] at waiting
    exact backed other waiting

/-- Nobody resets the sender while it works for a client slot. -/
def SparesCommandClient (event : EndpointEvent) : Prop := event ≠ .senderReset .commandClient

theorem backed_step {e e' : EspNowNetProtocolComponent}
    (clear : GuardedInvariant.Clear SparesCommandClient e'.history) (coherent : e.Coherent)
    (backed : e.Backed) (step : EndpointStep e e') : e'.Backed := by
  cases step with
  | bookkeeping kept =>
    obtain ⟨_, _, _, _, _, _, _, rfl⟩ := kept.eq
    exact backed
  | messageTaken taken consumption =>
    obtain ⟨_, _, _, rfl⟩ := consumption.eq
    exact backed
  | enabled | radioPolled | recoveryRequested | discarded | completionIgnored
    | completionReleases | completionDelivered | heartbeatReceived | frameAccepted | messageReady
    | startRefused | senderLooped | ackDropped | ackSent | frameRefused | frameSent
    | heartbeatSent => exact backed
  | driver event =>
    obtain ⟨radio, history, _, same⟩ := driverEvent_eq e event
    rw [same]
    exact backed
  | progressQueued peer progress =>
    obtain ⟨notification, same⟩ := queueCommandResultNotification_eq e peer _
    rw [same]
    exact backed
  | @ackReceived received radio runtime ack taken run handed =>
    obtain ⟨outcome, _, same⟩ := acceptDeliveryAck_eq
      { e with radio, runtime := { runtime with deliveryAck := none } } received.peerIndex ack
    rw [same]
    exact backed
  | started claim free run =>
    exact slotsBacked_of_nobody (backed.nobody (by simp [free]))
  | commandStarted nowMs enabled free idle valid encodes run =>
    intro slot waiting
    by_cases here : slot = e.nextSlot
    · exact ⟨rfl, here.symm⟩
    · refine absurd ?_ (backed.nobody (by simp [free]) slot)
      simpa [record, Function.update_of_ne here] using waiting
  | cancelled slot busy =>
    rw [cancelSlot_eq e slot]
    by_cases own : e.reliableMessageOwner = .commandClient ∧ e.commandSenderSlot = slot
    · obtain ⟨client, rfl⟩ := own
      exact backed.settled (by simp)
    · simp only [EspNowNetProtocolComponent.Backed, own, ↓reduceIte]
      exact backed.cleared (by simp)
  | disabled enabled =>
    obtain ⟨clients, peer, transactionId, heartbeat, _, _, same, idle⟩ := disableRuntime_eq e
    rw [same]
    refine slotsBacked_of_nobody fun slot waiting => ?_
    have quiet := idle coherent.valid slot
    exact absurd (quiet.symm.trans waiting) (by decide)
  | senderReset =>
    have spared : e.reliableMessageOwner ≠ .commandClient := by
      intro own
      exact clear (.senderReset e.reliableMessageOwner) List.mem_cons_self (by rw [own])
    exact slotsBacked_of_nobody (backed.nobody spared)
  | externalDeadline slot busy =>
    intro other waiting
    by_cases here : other = slot
    · subst here
      exact backed other (by simpa [setClient, record] using waiting)
    · exact backed other (by simpa [setClient, record, Function.update_of_ne here] using waiting)
  | @finished slot result waiting terminal =>
    obtain ⟨notification, same⟩ := finishCommandClient_eq e result slot
    rw [same]
    exact backed.cleared (by simp)
  | deliveryFailed message nowMs owned ended =>
    unfold failCommandClient
    obtain ⟨notification, same⟩ := finishCommandClient_eq e.releaseSender _ e.commandSenderSlot
    rw [same]
    exact backed.settled (by simp)
  | delivered owned acknowledged => exact backed.settled (by simp)
  | senderReleased release => exact slotsBacked_of_nobody (backed.nobody release.owner_ne)

theorem coherent_setup (config : Configuration) (random : UInt64) :
    (setup config random).Coherent := by
  have coupled := ReliableMessageSender.coupled_configure ReliableMessageSender.coupled_fresh
    (if random = 0 then 1 else random) config.retryPolicy
  refine ⟨coupled, ClientsValid.of_idle fun _ => rfl, ⟨fun _ => ?_, fun _ => rfl⟩, by simp [setup]⟩
  rcases ReliableMessageSender.configure_eq {} (if random = 0 then 1 else random)
    config.retryPolicy with same | same
  · simp only [setup, same]
  · simp only [setup, same]

/-- Every operation keeps the slots, the owner mark and the sender coherent. -/
theorem coherent_move {e e' : EspNowNetProtocolComponent} (coherent : e.Coherent)
    (move : EndpointMove e e') : e'.Coherent := by
  cases move with
  | step step => exact coherent_step coherent step
  | notification step => cases step <;> exact coherent

theorem coherent_moves {config : Configuration} {random : UInt64} {e : EspNowNetProtocolComponent}
    (moves : EndpointMoves (setup config random) e) : e.Coherent := by
  refine GuardedInvariant.preserved _ ?_ moves (coherent_setup config random)
  exact fun coherent move => coherent_move coherent move

theorem coherent_run (config : Configuration) (random : UInt64)
    (operations : List EndpointOperation) : ((setup config random).run operations).Coherent :=
  coherent_moves (run_moves _ operations)

theorem backed_run {config : Configuration} {random : UInt64} {operations : List EndpointOperation}
    (clear : ∀ event ∈ ((setup config random).run operations).history, SparesCommandClient event) :
    ((setup config random).run operations).Backed := by
  have both := GuardedInvariant.guarded move_extends SparesCommandClient
    (fun e : EspNowNetProtocolComponent => e.Coherent ∧ e.Backed) ?_
    (run_moves _ operations)
    ⟨coherent_setup config random, slotsBacked_of_nobody fun _ => by simp [setup]⟩ clear
  · exact both.2
  · intro e e' clear invariant move
    cases move with
    | step step =>
      exact ⟨coherent_step invariant.1 step, backed_step clear invariant.1 invariant.2 step⟩
    | notification step => cases step <;> exact invariant

/-- The sender works for the slot: it carries the slot's transaction to the slot's peer. -/
def EspNowNetProtocolComponent.Serves (e : EspNowNetProtocolComponent) (slot : Fin 2) : Prop :=
  e.reliableMessageOwner = .commandClient ∧ e.commandSenderSlot = slot ∧ e.sender.state ≠ .idle ∧
    e.sender.envelope.transactionId = (e.clients slot).command.transactionId ∧
    e.sender.peerIndex = (e.clients slot).peer

instance decidableServes (e : EspNowNetProtocolComponent) (slot : Fin 2) :
    Decidable (e.Serves slot) :=
  inferInstanceAs (Decidable (_ ∧ _))

/-- A slot that waits for its delivery ACK is served by the sender in every state of a run in
    which `reset_sender` is never called while the sender works for the command client. -/
theorem waiting_slot_served (config : Configuration) (random : UInt64)
    (operations : List EndpointOperation)
    (spared : ∀ event ∈ ((setup config random).run operations).history,
      event ≠ .senderReset .commandClient) (slot : Fin 2)
    (waiting : (((setup config random).run operations).clients slot).state =
      .waitingForDeliveryAck) :
    ((setup config random).run operations).Serves slot := by
  have coherent := coherent_run config random operations
  obtain ⟨own, here⟩ := backed_run spared slot waiting
  obtain ⟨_, transaction, peer⟩ := coherent.owned own
  refine ⟨own, here, ?_, ?_, ?_⟩
  · intro idle
    have unowned := coherent.free.mpr idle
    exact absurd (unowned.symm.trans own) (by decide)
  · rw [transaction, here]
  · rw [peer, here]

def peerAt (address : Vector UInt8 6) : PeerRegistry :=
  (PeerRegistry.empty.add ⟨(BoundedText.assign [112]).2, address, .replicate 16 0⟩).2

def nodeAddress (last : UInt8) : Vector UInt8 6 := ⟨#[2, 0, 0, 0, 0, last], rfl⟩

def samplePeers : PeerRegistry := peerAt (nodeAddress 1)

/-- Two polls after which the radio is initialized. -/
def radioReady : List EndpointOperation := [.loop { nowMs := 250 }, .loop { nowMs := 5250 }]

def startAndSend (nowMs : UInt32) : List EndpointOperation :=
  [.control (.startReliableMessage 0 .command 7 (some [1])), .loop { nowMs }]

/-- A command the client can start: device "d", name "n", one second. -/
def sampleCommand : NetCommand :=
  { transactionId := 7, timeoutMs := 1000
    deviceId := (BoundedText.assign [100]).2, name := (BoundedText.assign [110]).2 }

theorem waiting_slot_served_after_start :
    (∀ event ∈ ((setup {} 1).run [.control (.startCommand 0 sampleCommand 0)]).history,
        event ≠ .senderReset .commandClient) ∧
      (((setup {} 1).run [.control (.startCommand 0 sampleCommand 0)]).clients 0).state =
        .waitingForDeliveryAck ∧
      ((setup {} 1).run [.control (.startCommand 0 sampleCommand 0)]).Serves 0 :=
  have spared : ∀ event ∈ ((setup {} 1).run [.control (.startCommand 0 sampleCommand 0)]).history,
      event ≠ .senderReset .commandClient := by decide
  have waiting : (((setup {} 1).run [.control (.startCommand 0 sampleCommand 0)]).clients 0).state =
      .waitingForDeliveryAck := by decide
  ⟨spared, waiting, waiting_slot_served {} 1 _ spared 0 waiting⟩

/-- `reset_sender` right after `start_command` leaves a slot that nobody serves. -/
theorem reset_strands_waiting_slot :
    ¬ ∀ (config : Configuration) (random : UInt64) (operations : List EndpointOperation)
      (slot : Fin 2),
      (((setup config random).run operations).clients slot).state = .waitingForDeliveryAck →
        ((setup config random).run operations).Serves slot := by
  intro always
  have served := always {} 1 [.control (.startCommand 0 sampleCommand 0), .control .resetSender] 0
    (by decide)
  exact absurd served (by decide)

end EspNowNet
