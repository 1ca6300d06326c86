import EspNowNet.DeliveryTrace
import EspNowNet.LaneTransactions

/- What settles a delivery. An outcome of the sender always comes with an ACK of the
   message's key, but nothing on the way of that ACK looks at the peer it came from. -/
namespace EspNowNet
open EspNowNetProtocolComponent Relation

variable {e e' : EspNowNetProtocolComponent}

/-- The peer and the envelope of the message whose delivery the event settles. -/
def EndpointEvent.settled : EndpointEvent → Option (PeerIndex × EspNowFrameEnvelope)
  | .messageAcknowledged peer envelope _ | .messageRejected peer envelope _ => some (peer, envelope)
  | _ => none

/-- The event is an ACK or settles a delivery. -/
def EndpointEvent.Settling : EndpointEvent → Prop
  | .messageAcknowledged _ _ _ | .messageRejected _ _ _ | .ackReceived _ _ _ => True
  | _ => False

theorem EndpointEvent.settling_of_settled {event : EndpointEvent}
    {message : PeerIndex × EspNowFrameEnvelope} (own : event.settled = some message) :
    event.Settling := by
  cases event with
  | messageAcknowledged | messageRejected => trivial
  | _ => simp [settled] at own

theorem EndpointEvent.Incidental.unsettling {event : EndpointEvent}
    (incidental : event.Incidental) : ¬ event.Settling := by
  intro settling
  cases event <;> trivial

namespace ReliableMessageSender
variable {s t : ReliableMessageSender}

def Settled (s : ReliableMessageSender) : Prop := s.state = .acknowledged ∨ s.state = .rejected

/-- The outcome of a settled delivery. -/
def outcome (s : ReliableMessageSender) : EndpointEvent :=
  if s.state = .rejected then .messageRejected s.peerIndex s.envelope s.message.bytes
  else .messageAcknowledged s.peerIndex s.envelope s.message.bytes

theorem outcome_settled (s : ReliableMessageSender) :
    s.outcome.settled = some (s.peerIndex, s.envelope) := by
  unfold outcome
  split <;> rfl

/-- A delivery that is settled now was settled before, with the same outcome. -/
def Unsettling (s t : ReliableMessageSender) : Prop :=
  t.Settled → s.Settled ∧ t.outcome = s.outcome

theorem Unsettling.refl (s : ReliableMessageSender) : s.Unsettling s := fun settled => ⟨settled, rfl⟩

theorem Unsettling.trans {u : ReliableMessageSender} (first : s.Unsettling t)
    (second : t.Unsettling u) : s.Unsettling u := by
  intro settled
  obtain ⟨before, same⟩ := second settled
  obtain ⟨earlier, same'⟩ := first before
  exact ⟨earlier, same.trans same'⟩

theorem unsettling_of_state (open' : t.state ≠ .acknowledged ∧ t.state ≠ .rejected) :
    s.Unsettling t := by
  rintro (acknowledged | rejected)
  · exact absurd acknowledged open'.1
  · exact absurd rejected open'.2

theorem unsettling_idle (idle : t.state = .idle) : s.Unsettling t :=
  unsettling_of_state (by simp [idle])

theorem unsettling_start {peer : PeerIndex} {kind : EspNowFrameKind}
    {transactionId : TransactionId} {message : Option (List UInt8)}
    (run : s.start peer kind transactionId message = (true, t)) : s.Unsettling t := by
  obtain ⟨_, _, _, _, _, _, _, _, form⟩ := start_true run
  exact unsettling_of_state (by simp [form])

theorem unsettling_loop (coupled : s.Coupled) (nowMs : UInt32) : s.Unsettling (s.loop nowMs) := by
  rcases loop_cases coupled nowMs with same | ⟨ready, next⟩ | ⟨_, _, next⟩ | ⟨_, next⟩
  · rw [same]
    exact .refl s
  · exact unsettling_of_state (by simp [next, ready])
  · exact unsettling_of_state (by simp [next])
  · exact unsettling_of_state (by simp [next])

theorem unsettling_takeFrame (coupled : s.Coupled) : s.Unsettling s.takeFrame.2 := by
  rcases takeFrame_cases coupled with ⟨_, same⟩ | ⟨_, _, next⟩
  · rw [same]
    exact .refl s
  · exact unsettling_of_state (by simp [next])

theorem unsettling_completeFrame (coupled : s.Coupled) (succeeded : Bool) (nowMs : UInt32) :
    s.Unsettling (s.completeFrame succeeded nowMs).2 := by
  rcases completeFrame_cases coupled succeeded nowMs with
    ⟨_, same⟩ | ⟨_, _, _, next⟩ | ⟨_, _, next⟩
  · rw [same]
    exact .refl s
  · exact unsettling_of_state (by simp [next])
  · exact unsettling_of_state (by simp [next])

end ReliableMessageSender

/-- An ACK that a peer's frames put together, for the identity. -/
def AckFrom (peers : PeerRegistry) (history : List EndpointEvent) (peer : PeerIndex)
    (ack : EspNowAckPayload) : Prop :=
  ∃ message, Assembled (Came peers history peer) message ∧ message.envelope.kind = .ack ∧
    EspNowAckCodec.decode message.data.bytes = some ack

/-- What a step does to the settlement of the delivery. -/
inductive SettlementStep (e e' : EspNowNetProtocolComponent) : Prop
  | aside (events : List EndpointEvent) (history : e'.history = events ++ e.history)
      (unsettling : ∀ event ∈ events, ¬ event.Settling) (kept : e.sender.Unsettling e'.sender)
  | unawaited {peer : PeerIndex} {ack : EspNowAckPayload}
      (history : e'.history = .ackReceived peer ack none :: e.history)
      (sender : e'.sender = e.sender)
  | settled {peer : PeerIndex} {ack : EspNowAckPayload}
      (received : AckFrom e.radio.peers e.history peer ack) (ended : e'.sender.Settled)
      (key : ack.acknowledged = e'.sender.envelope.identity)
      (history : e'.history =
        e'.sender.outcome :: .ackReceived peer ack (some e'.sender.peerIndex) :: e.history)

/-- An ACK either is not the awaited one and leaves the sender alone, or settles the delivery. -/
theorem acceptDeliveryAck_settlement (coupled : e.sender.Coupled) {peer : PeerIndex}
    {ack : EspNowAckPayload} (received : AckFrom e.radio.peers e.history peer ack) :
    SettlementStep e (e.acceptDeliveryAck peer ack) := by
  rcases ReliableMessageSender.acceptAck_cases e.sender ack with same | ⟨waiting, key, next⟩
  · by_cases awaited : e.sender.delivery.state = .waitingForAck ∧
        ack.acknowledged = e.sender.delivery.key
    · simp [ReliableMessageSender.acceptAck, EspNowReliableDelivery.acceptAck, awaited] at same
    · have noted : (e.acceptDeliveryAck peer ack).history =
          .ackReceived peer ack none :: e.history := by
        simp [acceptDeliveryAck, same, record, awaitedFrom, awaited]
      refine .unawaited noted ?_
      simp [acceptDeliveryAck, same, record]
  · have loaded := coupled.loaded (by simp [waiting])
    have before : e.sender.state = .waitingForAck := by
      rw [coupled.state, waiting]
      rfl
    have own : e.awaitedFrom ack = some e.sender.peerIndex := if_pos ⟨waiting, key⟩
    by_cases rejected : ack.status = .rejected
    · refine .settled received ?_ ?_ ?_ <;>
        simp [acceptDeliveryAck, next, record, rejected, before, own,
          ReliableMessageSender.Settled, ReliableMessageSender.outcome, key, loaded.key]
    · refine .settled received ?_ ?_ ?_ <;>
        simp [acceptDeliveryAck, next, record, rejected, before, own,
          ReliableMessageSender.Settled, ReliableMessageSender.outcome, key, loaded.key]

/- What each kind of step does to the settlement -/

theorem SettlementStep.silent (history : e'.history = e.history)
    (kept : e.sender.Unsettling e'.sender) : SettlementStep e e' :=
  .aside [] (history.trans (List.nil_append _).symm) (by simp) kept

theorem SettlementStep.incidental {events : List EndpointEvent}
    (history : e'.history = events ++ e.history)
    (incidental : ∀ event ∈ events, event.Incidental) (sender : e'.sender = e.sender) :
    SettlementStep e e' := by
  refine .aside events history (fun event member => (incidental event member).unsettling) ?_
  rw [sender]
  exact .refl _

theorem settlement_startRefused (coupled : e.sender.Coupled) {sender : ReliableMessageSender}
    {peer : PeerIndex} {kind : EspNowFrameKind} {transactionId : TransactionId}
    {data : Option (List UInt8)}
    (run : e.sender.start peer kind transactionId data = (false, sender)) :
    SettlementStep e { e with sender } := by
  refine .silent rfl ?_
  rcases ReliableMessageSender.start_false coupled run with rfl | ⟨idle, stored, rfl⟩
  · exact .refl _
  · exact ReliableMessageSender.unsettling_idle idle

theorem settlement_driver (event : DriverEvent) : SettlementStep e (e.driverEvent event) := by
  cases event with
  | sendCallback | receiveCallback =>
    exact .aside [_] rfl (by simp [EndpointEvent.Settling]) (.refl _)

theorem settlement_cancelled (e : EspNowNetProtocolComponent) (slot : Fin 2) :
    SettlementStep e (e.cancelSlot slot) := by
  rw [cancelSlot_eq e slot]
  refine .aside [_] rfl (by simp [EndpointEvent.Settling]) ?_
  simp only
  split
  · exact ReliableMessageSender.unsettling_idle rfl
  · exact .refl _

theorem settlement_disabled (e : EspNowNetProtocolComponent) :
    SettlementStep e e.disableRuntime := by
  obtain ⟨events, history, unsettling⟩ := disableRuntime_events e
    (fun event => ¬ event.Settling) id (fun _ _ _ _ => id) (fun _ => id) id
  refine .aside events history unsettling (ReliableMessageSender.unsettling_idle ?_)
  obtain ⟨_, _, _, _, _, _, same, _⟩ := disableRuntime_eq e
  rw [same]
  rfl

theorem settlement_ackReceived (coupled : e.sender.Coupled) (inbox : e.InboxTraced)
    {received : EspNowReceivedFrame} {radio : EspIdfEspNowEncryptedRadio}
    {runtime : EspNowProtocolRuntime} {ack : EspNowAckPayload}
    (taken : e.radio.takeReceivedFrame = (some received, radio))
    (run : e.runtime.accept received = (.deliveryAckReady, runtime))
    (handed : runtime.deliveryAck = some ack) :
    SettlementStep e ({ e with radio, runtime := { runtime with deliveryAck := none }
      }.acceptDeliveryAck received.peerIndex ack) := by
  obtain ⟨member, frames, rfl, _⟩ := EspIdfEspNowEncryptedRadio.takeReceivedFrame_some taken
  obtain ⟨_, effect⟩ := EspNowProtocolRuntime.accept_effect inbox.sound
    (inbox.entries received member) run
  cases effect with
  | silent nothing => simp at nothing
  | @deliveryAck message decoded assembled kind decodes mailbox remembers given answer =>
    obtain rfl := Option.some.inj (given.symm.trans handed)
    have answered : AckFrom e.radio.peers e.history received.peerIndex decoded :=
      ⟨message, assembled, kind, decodes⟩
    have settlement := acceptDeliveryAck_settlement (e := { e with
      radio := { e.radio with receivedFrames := frames }
      runtime := { runtime with deliveryAck := none } }) coupled answered
    cases settlement with
    | aside events history unsettling kept => exact .aside events history unsettling kept
    | unawaited history sender => exact .unawaited history sender
    | settled received ended key history => exact .settled received ended key history

theorem settlement_progressQueued (e : EspNowNetProtocolComponent) (peer : PeerIndex)
    (result : NetResult) : SettlementStep e (e.queueCommandResultNotification peer result) := by
  obtain ⟨notification, same⟩ := queueCommandResultNotification_eq e peer result
  rw [same]
  exact .silent rfl (.refl _)

/-- A command ends in a state in which nothing is settled that was not. -/
theorem settlement_finish (base : EspNowNetProtocolComponent) (history : base.history = e.history)
    (kept : e.sender.Unsettling base.sender) (result : NetResult) (slot : Fin 2) :
    SettlementStep e (base.finishCommandClient result slot) := by
  obtain ⟨notification, same⟩ := finishCommandClient_eq base result slot
  have noted : (base.finishCommandClient result slot).history = [.commandFinished slot
      (base.clients slot).peer result base.notification.ready] ++ e.history := by
    rw [same, history, List.singleton_append]
  refine .aside _ noted (by simp [EndpointEvent.Settling]) ?_
  rw [same]
  exact kept

theorem settlement_frameRefused (coupled : e.sender.Coupled) {peer : PeerIndex}
    {frame : EspNowRadioFrame} {sender : ReliableMessageSender} (nowMs : UInt32)
    (taken : e.sender.takeFrame = (some (peer, frame), sender)) :
    SettlementStep e { e with sender := (sender.completeFrame false nowMs).2 } := by
  have kept := ReliableMessageSender.unsettling_takeFrame coupled
  have still := ReliableMessageSender.coupled_takeFrame coupled
  rw [taken] at kept still
  exact .silent rfl (kept.trans (ReliableMessageSender.unsettling_completeFrame still _ _))

theorem settlement_step (coupled : e.sender.Coupled) (inbox : e.InboxTraced)
    (step : EndpointStep e e') : SettlementStep e e' := by
  cases step with
  | bookkeeping kept =>
    obtain ⟨_, _, _, _, _, events, incidental, rfl⟩ := kept.eq
    exact .incidental rfl incidental rfl
  | messageTaken taken consumption =>
    obtain ⟨_, events, incidental, rfl⟩ := consumption.eq
    exact .incidental rfl incidental rfl
  | enabled | radioPolled | recoveryRequested | completionIgnored | heartbeatReceived
    | frameAccepted | ackDropped => exact .silent rfl (.refl _)
  | externalDeadline | discarded | completionReleases | messageReady | ackSent | heartbeatSent =>
    exact .aside [_] rfl (by simp [EndpointEvent.Settling]) (.refl _)
  | driver event => exact settlement_driver event
  | startRefused run => exact settlement_startRefused coupled run
  | started claim free run =>
    exact .aside [_] rfl (by simp [EndpointEvent.Settling]) (ReliableMessageSender.unsettling_start run)
  | commandStarted _ _ _ _ _ _ run =>
    exact .aside [_, _] rfl (by simp [EndpointEvent.Settling])
      (ReliableMessageSender.unsettling_start run)
  | cancelled slot busy => exact settlement_cancelled e slot
  | disabled enabled => exact settlement_disabled e
  | senderReset =>
    exact .aside [_] rfl (by simp [EndpointEvent.Settling]) (ReliableMessageSender.unsettling_idle rfl)
  | delivered | senderReleased => exact .silent rfl (ReliableMessageSender.unsettling_idle rfl)
  | completionDelivered nowMs taken owned own flying =>
    exact .aside [_, _] rfl (by simp [EndpointEvent.Settling])
      (ReliableMessageSender.unsettling_completeFrame coupled _ _)
  | ackReceived taken run handed => exact settlement_ackReceived coupled inbox taken run handed
  | progressQueued peer progress => exact settlement_progressQueued e peer _
  | finished slot waiting terminal => exact settlement_finish e rfl (.refl _) _ slot
  | deliveryFailed message nowMs owned ended =>
    have idle : e.releaseSender.sender.state = .idle := rfl
    exact settlement_finish (e := e) e.releaseSender rfl (ReliableMessageSender.unsettling_idle idle) _ _
  | senderLooped nowMs =>
    exact .silent rfl (ReliableMessageSender.unsettling_loop coupled nowMs)
  | frameRefused nowMs free taken => exact settlement_frameRefused coupled nowMs taken
  | frameSent free taken run =>
    have kept := ReliableMessageSender.unsettling_takeFrame coupled
    rw [taken] at kept
    exact .aside [_] rfl (by simp [EndpointEvent.Settling]) kept

theorem settlement_move (coupled : e.sender.Coupled) (inbox : e.InboxTraced)
    (move : EndpointMove e e') : SettlementStep e e' := by
  cases move with
  | step step => exact settlement_step coupled inbox step
  | notification step =>
    cases step with
    | cleared => exact .aside [] rfl (by simp) (.refl _)
    | taken | delivered => exact .aside [_] rfl (by simp [EndpointEvent.Settling]) (.refl _)

/-- Each outcome directly follows an ACK that was awaited from the message's peer, and each
    awaited ACK has brought an outcome. -/
structure Settlements (peers : PeerRegistry) (sender : ReliableMessageSender)
    (history : List EndpointEvent) : Prop where
  current : sender.Settled → sender.outcome ∈ history
  noted : ∀ outcome earlier peer envelope, outcome.settled = some (peer, envelope) →
    outcome :: earlier <:+ history → ∃ source ack rest,
      earlier = .ackReceived source ack (some peer) :: rest ∧ AckFrom peers rest source ack ∧
        ack.acknowledged = envelope.identity
  answered : ∀ source ack peer rest, .ackReceived source ack (some peer) :: rest <:+ history →
    ∃ outcome envelope, outcome.settled = some (peer, envelope) ∧
      outcome :: .ackReceived source ack (some peer) :: rest <:+ history

theorem Settlements.step {peers : PeerRegistry}
    (settlements : Settlements peers e.sender e.history) (same : e.radio.peers = peers)
    (step : SettlementStep e e') : Settlements peers e'.sender e'.history := by
  cases step with
  | aside events history unsettling kept =>
    rw [history]
    constructor
    · intro settled
      obtain ⟨before, outcome⟩ := kept settled
      rw [outcome]
      exact List.mem_append_right _ (settlements.current before)
    · intro outcome earlier peer envelope own present
      have older := GuardedInvariant.suffix_of_aside unsettling
        (EndpointEvent.settling_of_settled own) present
      exact settlements.noted outcome earlier peer envelope own older
    · intro source ack peer rest present
      have acked : EndpointEvent.Settling (.ackReceived source ack (some peer)) := trivial
      have older := GuardedInvariant.suffix_of_aside unsettling acked present
      obtain ⟨outcome, envelope, own, follows⟩ := settlements.answered source ack peer rest older
      exact ⟨outcome, envelope, own, follows.trans (List.suffix_append _ _)⟩
  | unawaited history sender =>
    rw [history, sender]
    constructor
    · exact fun settled => List.mem_cons_of_mem _ (settlements.current settled)
    · intro outcome earlier peer envelope own present
      rcases List.suffix_cons_iff.mp present with head | older
      · rw [(List.cons.inj head).1] at own
        simp [EndpointEvent.settled] at own
      · exact settlements.noted outcome earlier peer envelope own older
    · intro source ack peer rest present
      rcases List.suffix_cons_iff.mp present with head | older
      · simp at head
      · obtain ⟨outcome, envelope, own, follows⟩ := settlements.answered source ack peer rest older
        exact ⟨outcome, envelope, own, follows.trans (List.suffix_cons _ _)⟩
  | @settled peer ack received ended key history =>
    rw [history]
    constructor
    · exact fun _ => List.mem_cons_self
    · intro outcome earlier target envelope own present
      rcases List.suffix_cons_iff.mp present with head | present
      · obtain ⟨rfl, rfl⟩ := List.cons.inj head
        rw [e'.sender.outcome_settled] at own
        obtain ⟨rfl, rfl⟩ := Prod.mk.inj (Option.some.inj own)
        exact ⟨peer, ack, e.history, rfl, same ▸ received, key⟩
      · rcases List.suffix_cons_iff.mp present with head | older
        · rw [(List.cons.inj head).1] at own
          simp [EndpointEvent.settled] at own
        · exact settlements.noted outcome earlier target envelope own older
    · intro source other target rest present
      rcases List.suffix_cons_iff.mp present with head | present
      · have settled := e'.sender.outcome_settled
        rw [← (List.cons.inj head).1] at settled
        simp [EndpointEvent.settled] at settled
      · rcases List.suffix_cons_iff.mp present with head | older
        · obtain ⟨first, rfl⟩ := List.cons.inj head
          obtain ⟨rfl, rfl, awaited⟩ := EndpointEvent.ackReceived.inj first
          obtain rfl := Option.some.inj awaited
          exact ⟨_, _, e'.sender.outcome_settled, List.suffix_rfl⟩
        · obtain ⟨outcome, envelope, own, follows⟩ :=
            settlements.answered source other target rest older
          exact ⟨outcome, envelope, own,
            follows.trans ((List.suffix_cons _ _).trans (List.suffix_cons _ _))⟩

theorem settlements_moves {config : Configuration} {random : UInt64}
    (moves : EndpointMoves (setup config random) e) :
    Settlements config.peers e.sender e.history := by
  induction moves with
  | refl =>
    have idle := (coherent_setup config random).free.mp rfl
    refine ⟨fun settled => ?_, by simp [setup], by simp [setup]⟩
    rcases settled with acknowledged | rejected
    · simp [idle] at acknowledged
    · simp [idle] at rejected
  | tail earlier last ih =>
    have traced := traced_moves earlier
    exact ih.step traced.peers (settlement_move traced.coherent.coupled traced.inbox last)

namespace EspNowNetProtocolComponent

/-- Whatever delivery is settled, now or earlier, was settled by an ACK of its key which frames
    of the peer the message was sent to put together. -/
structure SettledByPeer (e : EspNowNetProtocolComponent) : Prop where
  current : e.sender.Settled → e.sender.outcome ∈ e.history
  noted : ∀ outcome earlier peer envelope, outcome.settled = some (peer, envelope) →
    outcome :: earlier <:+ e.history → ∃ ack awaited rest,
      earlier = .ackReceived peer ack awaited :: rest ∧ AckFrom e.radio.peers rest peer ack ∧
        ack.acknowledged = envelope.identity

end EspNowNetProtocolComponent

/-- An ACK of the key the sender waits for: where it came from, and the peer waited for. -/
def EndpointEvent.awaitedAck : EndpointEvent → Option (PeerIndex × PeerIndex)
  | .ackReceived source _ (some peer) => some (source, peer)
  | _ => none

def EndpointEvent.FromAwaitedPeer (event : EndpointEvent) : Prop :=
  ∀ ack ∈ event.awaitedAck, ack.1 = ack.2

instance decidableFromAwaitedPeer (event : EndpointEvent) : Decidable event.FromAwaitedPeer :=
  show Decidable (∀ ack ∈ event.awaitedAck, ack.1 = ack.2) from Option.decidableForallMem _

theorem settledByPeer_of_acks {peers : PeerRegistry}
    (settlements : Settlements peers e.sender e.history) (same : e.radio.peers = peers)
    (awaited : ∀ event ∈ e.history, event.FromAwaitedPeer) : e.SettledByPeer := by
  refine ⟨settlements.current, fun outcome earlier peer envelope own present => ?_⟩
  obtain ⟨source, ack, rest, rfl, received, key⟩ :=
    settlements.noted outcome earlier peer envelope own present
  have member : .ackReceived source ack (some peer) ∈ e.history :=
    present.subset (List.mem_cons_of_mem _ List.mem_cons_self)
  obtain rfl : source = peer := awaited _ member (source, peer) rfl
  exact ⟨ack, _, rest, rfl, same ▸ received, key⟩

theorem acks_of_settledByPeer {peers : PeerRegistry}
    (settlements : Settlements peers e.sender e.history) (settled : e.SettledByPeer) :
    ∀ event ∈ e.history, event.FromAwaitedPeer := by
  intro event member found awaited
  cases event with
  | ackReceived source ack awaitedFrom =>
    cases awaitedFrom with
    | none => simp [EndpointEvent.awaitedAck] at awaited
    | some peer =>
      obtain rfl : (source, peer) = found := Option.some.inj awaited
      obtain ⟨later, rest, whole⟩ := List.append_of_mem member
      have present : .ackReceived source ack (some peer) :: rest <:+ e.history :=
        ⟨later, whole.symm⟩
      obtain ⟨outcome, envelope, own, follows⟩ :=
        settlements.answered source ack peer rest present
      obtain ⟨_, _, _, head, _⟩ := settled.noted outcome _ peer envelope own follows
      exact (EndpointEvent.ackReceived.inj (List.cons.inj head).1).1
  | _ => simp [EndpointEvent.awaitedAck] at awaited

/-- In a run every delivery is settled by its own peer exactly when every ACK of a key the
    sender was waiting for came from the peer it was waiting for. -/
theorem settled_by_peer_iff (config : Configuration) (random : UInt64)
    (operations : List EndpointOperation) :
    ((setup config random).run operations).SettledByPeer ↔
      ∀ event ∈ ((setup config random).run operations).history, event.FromAwaitedPeer := by
  have moves := run_moves (setup config random) operations
  have settlements := settlements_moves moves
  constructor
  · exact acks_of_settledByPeer settlements
  · exact settledByPeer_of_acks settlements (traced_moves moves).peers

/-- A command for the first peer; its ACK comes from the second. -/
def foreignAck : List EndpointOperation :=
  radioReady ++
    [.control (.startCommand 0 sampleCommand 5250), .loop { nowMs := 5251 },
      .driver (.sendCallback 0 true), .loop { nowMs := 5251 },
      .driver (.receiveCallback (nodeAddress 2)
        (EspNowFrameCodec.fragmentFrame ⟨.ack, 0, 3, 7, 1⟩
          (EspNowAckCodec.encodedBytes ⟨⟨1, 7, 1⟩, .accepted⟩) 0).bytes),
      .loop { nowMs := 5252 }]

/-- The second peer settles the delivery to the first. -/
theorem foreign_ack_settles :
    ¬ ∀ (config : Configuration) (random : UInt64) (operations : List EndpointOperation),
      ((setup config random).run operations).SettledByPeer := by
  intro always
  have settlements := settlements_moves (run_moves (setup parallelConfiguration 1) foreignAck)
  have acks := acks_of_settledByPeer settlements (always parallelConfiguration 1 foreignAck)
  exact absurd acks (by decide +kernel)

end EspNowNet
