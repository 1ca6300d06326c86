import EspNowNet.CommandClientSlots
import EspNowNet.RadioInvariant
import EspNowNet.RuntimeInvariant

/- Where an endpoint's frames, ACKs and messages come from. Its history tells what it has
   received and sent; every frame it sends and every message it reports is traced back to
   an earlier entry. -/
namespace EspNowNet
open EspNowNetProtocolComponent EspNowFrameCodec

/-- The events the traces are not about. -/
def EndpointEvent.Untold : EndpointEvent → Prop
  | .messageStarted _ _ _ | .messageReady _ | .frameSent _ _ | .frameReceived _ _ => False
  | _ => True

theorem EndpointEvent.Incidental.untold {event : EndpointEvent} (incidental : event.Incidental) :
    event.Untold := by
  cases event <;> trivial

/-- Nothing is received, sent, started or reported. -/
structure Undisturbed (e e' : EspNowNetProtocolComponent) : Prop where
  peers : e'.radio.peers = e.radio.peers
  inbox : e'.radio.receivedFrames.entries = e.radio.receivedFrames.entries
  boot : e'.localBootId = e.localBootId
  untold : ∃ events, e'.history = events ++ e.history ∧ ∀ event ∈ events, event.Untold

/-- The sender becomes idle, or goes on with its message and is not acknowledged by that. -/
inductive SenderMove (s s' : ReliableMessageSender) : Prop
  | idle (idle : s'.state = .idle) (boot : s'.localBootId = s.localBootId)
      (sequence : s'.sequence = s.sequence)
  | kept (same : s.SameMessage s') (acknowledged : s'.state = .acknowledged → s.state = .acknowledged)

theorem SenderMove.refl (s : ReliableMessageSender) : SenderMove s s := .kept (.refl s) id

theorem SenderMove.reset (s : ReliableMessageSender) : SenderMove s s.reset := .idle rfl rfl rfl

theorem SenderMove.trans {s t u : ReliableMessageSender} (first : SenderMove s t)
    (second : SenderMove t u) : SenderMove s u := by
  cases second with
  | idle idle boot sequence =>
    cases first with
    | idle _ boot' sequence' => exact .idle idle (boot.trans boot') (sequence.trans sequence')
    | kept same _ =>
      exact .idle idle (boot.trans same.localBootId) (sequence.trans same.sequence)
  | kept same acknowledged =>
    cases first with
    | idle idle boot sequence =>
      exact .idle (same.idle.mpr idle) (same.localBootId.trans boot) (same.sequence.trans sequence)
    | kept same' acknowledged' =>
      exact .kept (same'.trans same) fun now => acknowledged' (acknowledged now)

namespace ReliableMessageSender
variable {s : ReliableMessageSender}

theorem move_loop (coupled : s.Coupled) (nowMs : UInt32) : SenderMove s (s.loop nowMs) := by
  refine .kept (sameMessage_loop coupled nowMs) fun acknowledged => ?_
  rcases loop_cases coupled nowMs with same | ⟨ready, next⟩ | ⟨_, _, next⟩ | ⟨_, next⟩
  · rwa [same] at acknowledged
  · rwa [next] at acknowledged
  · simp [next] at acknowledged
  · simp [next] at acknowledged

theorem move_completeFrame (coupled : s.Coupled) (succeeded : Bool) (nowMs : UInt32) :
    SenderMove s (s.completeFrame succeeded nowMs).2 := by
  refine .kept (sameMessage_completeFrame coupled succeeded nowMs) fun acknowledged => ?_
  rcases completeFrame_cases coupled succeeded nowMs with
    ⟨_, same⟩ | ⟨_, _, _, next⟩ | ⟨_, _, next⟩
  · rwa [same] at acknowledged
  · simp [next] at acknowledged
  · simp [next] at acknowledged

theorem move_takeFrame (coupled : s.Coupled) : SenderMove s s.takeFrame.2 := by
  refine .kept (sameMessage_takeFrame coupled) fun acknowledged => ?_
  rcases takeFrame_cases coupled with ⟨_, same⟩ | ⟨_, _, next⟩
  · rwa [same] at acknowledged
  · simp [next] at acknowledged

theorem move_start_false {t : ReliableMessageSender} (coupled : s.Coupled) {peer : PeerIndex}
    {kind : EspNowFrameKind} {transactionId : TransactionId} {message : Option (List UInt8)}
    (run : s.start peer kind transactionId message = (false, t)) : SenderMove s t := by
  rcases start_false coupled run with rfl | ⟨idle, stored, rfl⟩
  · exact .refl _
  · exact .idle idle rfl rfl

end ReliableMessageSender

/-- What an endpoint hands to its radio. -/
inductive Outgoing (e : EspNowNetProtocolComponent) : PeerIndex → List UInt8 → Prop
  | fragment {index : Nat} (busy : e.sender.state ≠ .idle)
      (inside : index < fragmentCount e.sender.message.bytes.length) :
      Outgoing e e.sender.peerIndex
        (fragmentFrame e.sender.envelope e.sender.message.bytes index).bytes
  | ack {pending : EspNowPendingApplicationAck} {envelope : EspNowFrameEnvelope}
      (ready : e.runtime.applicationAck = some pending)
      (valid : pending.payload.acknowledged.Valid) (kind : envelope.kind = .ack)
      (identity : envelope.identity.Valid) :
      Outgoing e pending.peerIndex
        (fragmentFrame envelope (EspNowAckCodec.encodedBytes pending.payload) 0).bytes
  | heartbeat (peer : PeerIndex) (packet : HeartbeatPacket) : Outgoing e peer packet.encode

/-- What a step does to the traffic of an endpoint. -/
inductive DeliveryEffect (e e' : EspNowNetProtocolComponent) : Prop
  | quiet (undisturbed : Undisturbed e e') (runtime : e'.runtime = e.runtime)
      (sender : SenderMove e.sender e'.sender)
  | started {peer : PeerIndex} {kind : EspNowFrameKind} {transactionId : TransactionId}
      {message : Option (List UInt8)}
      (run : e.sender.start peer kind transactionId message = (true, e'.sender))
      (radio : e'.radio = e.radio) (boot : e'.localBootId = e.localBootId)
      (runtime : e'.runtime = e.runtime) (events : List EndpointEvent)
      (untold : ∀ event ∈ events, event.Untold)
      (history : e'.history = events ++
        .messageStarted peer e'.sender.envelope e'.sender.message.bytes :: e.history)
  | received (address : Vector UInt8 6) (data : List UInt8)
      (same : e' = e.driverEvent (.receiveCallback address data))
  | accepted {received : EspNowReceivedFrame} {result : EspNowProtocolAcceptResult}
      (member : received ∈ e.radio.receivedFrames.entries)
      (run : e.runtime.accept received = (result, e'.runtime))
      (noAck : result ≠ .deliveryAckReady)
      (unread : result = .applicationMessageReady → e'.runtime.peekApplicationMessage = none)
      (undisturbed : Undisturbed e e') (sender : e'.sender = e.sender)
  | ready {received : EspNowReceivedFrame} {inbound : EspNowInboundApplicationMessage}
      (member : received ∈ e.radio.receivedFrames.entries)
      (run : e.runtime.accept received = (.applicationMessageReady, e'.runtime))
      (peeked : e'.runtime.peekApplicationMessage = some inbound)
      (peers : e'.radio.peers = e.radio.peers)
      (inbox : e'.radio.receivedFrames.entries = e.radio.receivedFrames.entries)
      (boot : e'.localBootId = e.localBootId) (sender : e'.sender = e.sender)
      (history : e'.history = .messageReady inbound :: e.history)
  | acknowledged {received : EspNowReceivedFrame} {runtime : EspNowProtocolRuntime}
      {ack : EspNowAckPayload}
      (member : received ∈ e.radio.receivedFrames.entries)
      (run : e.runtime.accept received = (.deliveryAckReady, runtime))
      (handed : runtime.deliveryAck = some ack)
      (released : e'.runtime = { runtime with deliveryAck := none })
      (sender : e'.sender = (e.sender.acceptAck ack).2) (undisturbed : Undisturbed e e')
  | taken {message : Option EspNowInboundApplicationMessage}
      (run : e.runtime.takeApplicationMessage = (message, e'.runtime))
      (undisturbed : Undisturbed e e') (sender : e'.sender = e.sender)
  | answered (runtime : e'.runtime = { e.runtime with applicationAck := none })
      (undisturbed : Undisturbed e e') (sender : e'.sender = e.sender)
  | sent {peer : PeerIndex} {data : List UInt8} {accepted : Bool} (outgoing : Outgoing e peer data)
      (run : e.radio.sendFrame peer data accepted = (true, e'.radio))
      (runtime : e'.runtime = e.runtime ∨ e'.runtime = { e.runtime with applicationAck := none })
      (boot : e'.localBootId = e.localBootId) (sender : SenderMove e.sender e'.sender)
      (history : e'.history = .frameSent peer data :: e.history)

/-- A step that leaves the radio alone and tells nothing. -/
theorem DeliveryEffect.aside {e e' : EspNowNetProtocolComponent} (radio : e'.radio = e.radio)
    (boot : e'.localBootId = e.localBootId) (runtime : e'.runtime = e.runtime)
    (sender : SenderMove e.sender e'.sender) (events : List EndpointEvent)
    (history : e'.history = events ++ e.history) (untold : ∀ event ∈ events, event.Untold) :
    DeliveryEffect e e' :=
  .quiet ⟨by rw [radio], by rw [radio], boot, events, history, untold⟩ runtime sender

theorem undisturbed_radio {e : EspNowNetProtocolComponent} {radio : EspIdfEspNowEncryptedRadio}
    (peers : radio.peers = e.radio.peers)
    (inbox : radio.receivedFrames.entries = e.radio.receivedFrames.entries) :
    Undisturbed e { e with radio } :=
  ⟨peers, inbox, rfl, [], rfl, by simp⟩

theorem delivery_cancelled (e : EspNowNetProtocolComponent) (slot : Fin 2) :
    DeliveryEffect e (e.cancelSlot slot) := by
  rw [cancelSlot_eq e slot]
  refine .aside rfl rfl rfl ?_ [_] rfl (by simp [EndpointEvent.Untold])
  simp only
  split
  · exact .reset _
  · exact .refl _

theorem delivery_disabled (e : EspNowNetProtocolComponent) : DeliveryEffect e e.disableRuntime := by
  have untold := disableRuntime_events e EndpointEvent.Untold trivial
    (fun _ _ _ _ => trivial) (fun _ => trivial) trivial
  obtain ⟨clients, peer, transactionId, heartbeat, _, _, same, _⟩ := disableRuntime_eq e
  rw [same] at untold ⊢
  exact .quiet ⟨rfl, EspNowSpscQueue.discard_entries _, rfl, untold⟩ rfl (.reset _)

theorem delivery_radioPolled (e : EspNowNetProtocolComponent) (env : EndpointEnvironment) :
    DeliveryEffect e (e.radioLoop env) := by
  rcases EspIdfEspNowEncryptedRadio.loop_cases
    (e.radio.setRecoveryPermitted e.recoveryPermitted) env.radio env.nowMs with
    ⟨traffic, _⟩ | ⟨_, restarted⟩
  · exact .quiet (undisturbed_radio traffic.peers (congrArg _ traffic.received)) rfl (.refl _)
  · exact .quiet (undisturbed_radio restarted.peers restarted.entries) rfl (.refl _)

theorem delivery_recoveryRequested (e : EspNowNetProtocolComponent) (env : EndpointEnvironment) :
    DeliveryEffect e (e.requestRecovery env) := by
  have quiet := (EspIdfEspNowEncryptedRadio.quiet_requestPeerRefresh e.radio
    e.sender.peerIndex).trans
      (EspIdfEspNowEncryptedRadio.quiet_requestRadioRecovery _ env.radio env.recoveryMs)
  exact .quiet (undisturbed_radio quiet.peers (congrArg _ quiet.received)) rfl (.refl _)

theorem delivery_driver (e : EspNowNetProtocolComponent) (event : DriverEvent) :
    DeliveryEffect e (e.driverEvent event) := by
  cases event with
  | receiveCallback address data => exact .received address data rfl
  | sendCallback position succeeded =>
    rcases EspIdfEspNowEncryptedRadio.sendCallback_cases e.radio position succeeded with
      ⟨_, same⟩ | ⟨_, _, queue, same, _⟩
    · refine .quiet ⟨?_, ?_, rfl, [_], rfl, by simp [EndpointEvent.Untold]⟩ rfl (.refl _) <;>
        simp [driverEvent, record, same]
    · refine .quiet ⟨?_, ?_, rfl, [_], rfl, by simp [EndpointEvent.Untold]⟩ rfl (.refl _) <;>
        simp [driverEvent, record, same]

theorem delivery_ackReceived (e : EspNowNetProtocolComponent) {received : EspNowReceivedFrame}
    {radio : EspIdfEspNowEncryptedRadio} {runtime : EspNowProtocolRuntime} {ack : EspNowAckPayload}
    (taken : e.radio.takeReceivedFrame = (some received, radio))
    (run : e.runtime.accept received = (.deliveryAckReady, runtime))
    (handed : runtime.deliveryAck = some ack) :
    DeliveryEffect e ({ e with radio, runtime := { runtime with deliveryAck := none }
      }.acceptDeliveryAck received.peerIndex ack) := by
  obtain ⟨member, frames, rfl, entries⟩ :=
    EspIdfEspNowEncryptedRadio.takeReceivedFrame_some taken
  obtain ⟨outcome, kinds, same⟩ := acceptDeliveryAck_eq { e with
    radio := { e.radio with receivedFrames := frames }
    runtime := { runtime with deliveryAck := none } } received.peerIndex ack
  rw [same]
  refine .acknowledged member run handed rfl rfl
    ⟨rfl, entries, rfl, outcome ++ [_], (List.append_assoc outcome [_] e.history).symm, ?_⟩
  rcases kinds with rfl | rfl | rfl <;> simp [EndpointEvent.Untold]

/-- A command ends in a state that differs at most in its sender. -/
theorem delivery_finish (e base : EspNowNetProtocolComponent)
    (radio : base.radio = e.radio) (boot : base.localBootId = e.localBootId)
    (runtime : base.runtime = e.runtime) (history : base.history = e.history)
    (sender : SenderMove e.sender base.sender) (result : NetResult) (slot : Fin 2) :
    DeliveryEffect e (base.finishCommandClient result slot) := by
  obtain ⟨notification, same⟩ := finishCommandClient_eq base result slot
  rw [same]
  exact .aside radio boot runtime sender [_] (by rw [history]; rfl) (by simp [EndpointEvent.Untold])

theorem delivery_frameRefused {e : EspNowNetProtocolComponent} (coupled : e.sender.Coupled)
    {peer : PeerIndex} {frame : EspNowRadioFrame} {sender : ReliableMessageSender} (nowMs : UInt32)
    (taken : e.sender.takeFrame = (some (peer, frame), sender)) :
    DeliveryEffect e { e with sender := (sender.completeFrame false nowMs).2 } := by
  have kept := ReliableMessageSender.move_takeFrame coupled
  have still := ReliableMessageSender.coupled_takeFrame coupled
  rw [taken] at kept still
  exact .aside rfl rfl rfl (kept.trans
    (ReliableMessageSender.move_completeFrame still _ _)) [] rfl (by simp)

/-- The frame sent is the fragment at which the sender stands. -/
theorem delivery_frameSent {e : EspNowNetProtocolComponent} (coupled : e.sender.Coupled)
    {peer : PeerIndex} {frame : EspNowRadioFrame} {sender : ReliableMessageSender}
    {radio : EspIdfEspNowEncryptedRadio} {accepted : Bool}
    (taken : e.sender.takeFrame = (some (peer, frame), sender))
    (run : e.radio.sendFrame peer frame.bytes accepted = (true, radio)) :
    DeliveryEffect e ({ e with
      sender, radio
      transmission := ⟨.sender, peer, e.radio.transmitted⟩
      senderFrame := e.radio.transmitted }.record (.frameSent peer frame.bytes)) := by
  have kept := ReliableMessageSender.move_takeFrame coupled
  rw [taken] at kept
  rcases ReliableMessageSender.takeFrame_cases coupled with ⟨_, none⟩ | ⟨ready, landed, handed⟩
  · rw [none] at taken
    simp at taken
  · rw [handed] at taken
    simp only [Prod.mk.injEq, Option.some.injEq] at taken
    obtain ⟨⟨rfl, rfl⟩, rfl⟩ := taken
    have delivered := (ReliableMessageSender.stateFor_ready_iff.mp (coupled.state ▸ ready)).1
    have inside := coupled.position delivered
    rw [(coupled.loaded (by simp [delivered])).count] at inside
    exact .sent (.fragment (by simp [ready]) inside) run (Or.inl rfl) rfl kept rfl

theorem delivery_effect {e e' : EspNowNetProtocolComponent} (coupled : e.sender.Coupled)
    (step : EndpointStep e e') : DeliveryEffect e e' := by
  cases step with
  | bookkeeping kept =>
    obtain ⟨_, _, _, _, _, events, incidental, rfl⟩ := kept.eq
    exact .aside rfl rfl rfl (.refl _) events rfl fun event member => (incidental event member).untold
  | enabled => exact .aside rfl rfl rfl (.refl _) [] rfl (by simp)
  | startRefused run =>
    exact .aside rfl rfl rfl (ReliableMessageSender.move_start_false coupled run) [] rfl (by simp)
  | started claim free run => exact .started run rfl rfl rfl [] (by simp) rfl
  | commandStarted _ _ _ _ _ _ run =>
    exact .started run rfl rfl rfl [_] (by simp [EndpointEvent.Untold]) rfl
  | cancelled slot busy => exact delivery_cancelled e slot
  | disabled enabled => exact delivery_disabled e
  | senderReset => exact .aside rfl rfl rfl (.reset _) [_] rfl (by simp [EndpointEvent.Untold])
  | externalDeadline =>
    exact .aside rfl rfl rfl (.refl _) [_] rfl (by simp [EndpointEvent.Untold])
  | radioPolled env => exact delivery_radioPolled e env
  | recoveryRequested env => exact delivery_recoveryRequested e env
  | discarded off =>
    exact .quiet ⟨rfl, EspNowSpscQueue.discard_entries _, rfl, [_], rfl,
      by simp [EndpointEvent.Untold]⟩ rfl (.refl _)
  | driver event => exact delivery_driver e event
  | completionIgnored taken foreign =>
    obtain ⟨queue, rfl, _⟩ := EspIdfEspNowEncryptedRadio.takeSendCompletion_some taken
    exact .quiet (undisturbed_radio rfl rfl) rfl (.refl _)
  | completionReleases taken owned own silent =>
    obtain ⟨queue, rfl, _⟩ := EspIdfEspNowEncryptedRadio.takeSendCompletion_some taken
    exact .quiet ⟨rfl, rfl, rfl, [_], rfl, by simp [EndpointEvent.Untold]⟩ rfl (.refl _)
  | completionDelivered nowMs taken owned own flying =>
    obtain ⟨queue, rfl, _⟩ := EspIdfEspNowEncryptedRadio.takeSendCompletion_some taken
    exact .quiet ⟨rfl, rfl, rfl, [_, _], rfl, by simp [EndpointEvent.Untold]⟩ rfl
      (ReliableMessageSender.move_completeFrame coupled _ _)
  | heartbeatReceived heartbeat taken =>
    obtain ⟨_, frames, rfl, entries⟩ := EspIdfEspNowEncryptedRadio.takeReceivedFrame_some taken
    exact .quiet ⟨rfl, entries, rfl, [], rfl, by simp⟩ rfl (.refl _)
  | frameAccepted taken run noAck notReady =>
    obtain ⟨member, frames, rfl, entries⟩ :=
      EspIdfEspNowEncryptedRadio.takeReceivedFrame_some taken
    exact .accepted member run noAck notReady ⟨rfl, entries, rfl, [], rfl, by simp⟩ rfl
  | messageReady taken run peeked =>
    obtain ⟨member, frames, rfl, entries⟩ :=
      EspIdfEspNowEncryptedRadio.takeReceivedFrame_some taken
    exact .ready member run peeked rfl entries rfl rfl rfl
  | ackReceived taken run handed => exact delivery_ackReceived e taken run handed
  | messageTaken taken consumption =>
    obtain ⟨_, events, incidental, rfl⟩ := consumption.eq
    exact .taken taken
      ⟨rfl, rfl, rfl, events, rfl, fun event member => (incidental event member).untold⟩ rfl
  | progressQueued peer progress =>
    obtain ⟨notification, same⟩ := queueCommandResultNotification_eq e peer _
    rw [same]
    exact .aside rfl rfl rfl (.refl _) [] rfl (by simp)
  | finished slot waiting terminal => exact delivery_finish e e rfl rfl rfl rfl (.refl _) _ slot
  | deliveryFailed message nowMs owned ended =>
    have reset : SenderMove e.sender e.releaseSender.sender := .reset _
    exact delivery_finish e e.releaseSender rfl rfl rfl rfl reset _ _
  | delivered owned acknowledged => exact .aside rfl rfl rfl (.reset _) [] rfl (by simp)
  | senderLooped nowMs =>
    exact .aside rfl rfl rfl (ReliableMessageSender.move_loop coupled nowMs) [] rfl (by simp)
  | senderReleased release => exact .aside rfl rfl rfl (.reset _) [] rfl (by simp)
  | ackDropped ackSequence ready =>
    exact .answered rfl ⟨rfl, rfl, rfl, [], rfl, by simp⟩ rfl
  | ackSent free ready valid encodes run =>
    obtain ⟨identity, _, rfl⟩ := (encodeFragment_ok_iff _ _ _ _).mp encodes
    exact .sent (.ack ready valid rfl identity) run (Or.inr rfl) rfl (.refl _) rfl
  | frameRefused nowMs free taken => exact delivery_frameRefused coupled nowMs taken
  | frameSent free taken run => exact delivery_frameSent coupled taken run
  | heartbeatSent packet heartbeat free run =>
    exact .sent (.heartbeat _ packet) run (Or.inl rfl) rfl (.refl _) rfl

/- The history read back -/

structure OutboundMessage where
  peerIndex : PeerIndex
  envelope : EspNowFrameEnvelope
  data : List UInt8

def ReliableMessageSender.outbound (s : ReliableMessageSender) : OutboundMessage :=
  ⟨s.peerIndex, s.envelope, s.message.bytes⟩

def EndpointEvent.startedMessage : EndpointEvent → Option OutboundMessage
  | .messageStarted peer envelope data => some ⟨peer, envelope, data⟩
  | _ => none

def EndpointEvent.readyMessage : EndpointEvent → Option EspNowInboundApplicationMessage
  | .messageReady inbound => some inbound
  | _ => none

def startedMessages (history : List EndpointEvent) : List OutboundMessage :=
  history.filterMap EndpointEvent.startedMessage

def readyMessages (history : List EndpointEvent) : List EspNowInboundApplicationMessage :=
  history.filterMap EndpointEvent.readyMessage

/-- The identities reported as ready, newest first. -/
def readyIdentities (history : List EndpointEvent) : List DeliveryIdentity :=
  (readyMessages history).map (·.message.envelope.identity)

theorem mem_readyMessages {history : List EndpointEvent}
    {inbound : EspNowInboundApplicationMessage} :
    inbound ∈ readyMessages history ↔ .messageReady inbound ∈ history := by
  rw [readyMessages, List.mem_filterMap]
  constructor
  · rintro ⟨event, member, found⟩
    cases event <;> simp only [EndpointEvent.readyMessage, Option.some.injEq, reduceCtorEq] at found
    exact found ▸ member
  · intro member
    exact ⟨_, member, rfl⟩

theorem mem_startedMessages {history : List EndpointEvent} {message : OutboundMessage} :
    message ∈ startedMessages history ↔
      .messageStarted message.peerIndex message.envelope message.data ∈ history := by
  rw [startedMessages, List.mem_filterMap]
  constructor
  · rintro ⟨event, member, found⟩
    cases event <;> simp only [EndpointEvent.startedMessage, Option.some.injEq, reduceCtorEq] at found
    exact found ▸ member
  · intro member
    exact ⟨_, member, rfl⟩

theorem startedMessages_untold {events history : List EndpointEvent}
    (untold : ∀ event ∈ events, event.Untold) :
    startedMessages (events ++ history) = startedMessages history := by
  rw [startedMessages, List.filterMap_append]
  have none : events.filterMap EndpointEvent.startedMessage = [] := by
    refine List.filterMap_eq_nil_iff.mpr fun event member => ?_
    have := untold event member
    cases event <;> first | rfl | exact absurd this id
  rw [none]
  rfl

theorem readyMessages_untold {events history : List EndpointEvent}
    (untold : ∀ event ∈ events, event.Untold) :
    readyMessages (events ++ history) = readyMessages history := by
  rw [readyMessages, List.filterMap_append]
  have none : events.filterMap EndpointEvent.readyMessage = [] := by
    refine List.filterMap_eq_nil_iff.mpr fun event member => ?_
    have := untold event member
    cases event <;> first | rfl | exact absurd this id
  rw [none]
  rfl

theorem mem_untold {events history : List EndpointEvent} (untold : ∀ event ∈ events, event.Untold)
    {event : EndpointEvent} (told : ¬ event.Untold) :
    event ∈ events ++ history ↔ event ∈ history := by
  rw [List.mem_append]
  exact ⟨fun member => member.resolve_left fun inside => told (untold event inside), Or.inr⟩

/-- The frame came from the peer's address, or says nothing at all. -/
def Came (peers : PeerRegistry) (history : List EndpointEvent) (peer : PeerIndex)
    (frame : List UInt8) : Prop :=
  frame = [] ∨ ∃ address, .frameReceived address frame ∈ history ∧
    peers.indexForAddress address = peer

theorem Came.grow {peers : PeerRegistry} {history history' : List EndpointEvent}
    {peer : PeerIndex} {frame : List UInt8} (came : Came peers history peer frame)
    (grown : history ⊆ history') : Came peers history' peer frame :=
  came.imp_right fun ⟨address, member, same⟩ => ⟨address, grown member, same⟩

/- What came in -/

/-- The queued frames, the assembly, the remembered identities and the reported messages all
    go back to received frames. -/
structure InboxTraced (peers : PeerRegistry) (entries : List EspNowReceivedFrame)
    (runtime : EspNowProtocolRuntime) (history : List EndpointEvent) : Prop where
  entries : ∀ received ∈ entries, Came peers history received.peerIndex received.frame.bytes
  sound : runtime.Sound (Came peers history)
  tracks : RecentWindow.Tracks EspNowDuplicateCache.capacity runtime.duplicates.ring
    (readyIdentities history)
  answer : ∀ pending, runtime.applicationAck = some pending →
    pending.payload.acknowledged ∈ readyIdentities history
  ready : ∀ inbound ∈ readyMessages history,
    Assembled (Came peers history inbound.peerIndex) inbound.message ∧
      inbound.message.envelope.kind ≠ .ack

section Inbox
variable {peers : PeerRegistry} {entries : List EspNowReceivedFrame}
  {runtime runtime' : EspNowProtocolRuntime} {history history' : List EndpointEvent}

theorem InboxTraced.grow (traced : InboxTraced peers entries runtime history)
    (grown : history ⊆ history') (same : readyMessages history' = readyMessages history) :
    InboxTraced peers entries runtime history' where
  entries received member := (traced.entries received member).grow grown
  sound := traced.sound.mono fun _ _ came => came.grow grown
  tracks := by
    rw [readyIdentities, same]
    exact traced.tracks
  answer pending found := by
    rw [readyIdentities, same]
    exact traced.answer pending found
  ready inbound member := by
    rw [same] at member
    obtain ⟨assembled, kind⟩ := traced.ready inbound member
    exact ⟨assembled.mono fun _ came => came.grow grown, kind⟩

theorem InboxTraced.settle (traced : InboxTraced peers entries runtime history)
    (sound : runtime'.Sound (Came peers history))
    (remembers : runtime'.duplicates = runtime.duplicates)
    (answer : ∀ pending, runtime'.applicationAck = some pending →
      pending.payload.acknowledged ∈ readyIdentities history) :
    InboxTraced peers entries runtime' history :=
  ⟨traced.entries, sound, remembers ▸ traced.tracks, answer, traced.ready⟩

theorem InboxTraced.answered (traced : InboxTraced peers entries runtime history) :
    InboxTraced peers entries { runtime with applicationAck := none } history :=
  traced.settle (EspNowProtocolRuntime.sound_handed traced.sound _ _) rfl (by simp)

/-- The runtime takes a frame that does not complete a message for the application. -/
theorem InboxTraced.accept (traced : InboxTraced peers entries runtime history)
    {received : EspNowReceivedFrame} {result : EspNowProtocolAcceptResult}
    (member : received ∈ entries) (run : runtime.accept received = (result, runtime'))
    (unread : result = .applicationMessageReady → runtime'.peekApplicationMessage = none) :
    InboxTraced peers entries runtime' history := by
  obtain ⟨sound, effect⟩ :=
    EspNowProtocolRuntime.accept_effect traced.sound (traced.entries received member) run
  cases effect with
  | silent nothing mailbox remembers handed answer =>
    exact traced.settle sound remembers (by rw [answer]; exact traced.answer)
  | deliveryAck assembled kind decodes mailbox remembers handed answer =>
    exact traced.settle sound remembers (by simp [answer])
  | @duplicate key known mailbox remembers handed answer =>
    refine traced.settle sound remembers ?_
    have recent := ((EspNowDuplicateCache.contains_iff traced.tracks key).mp known).2
    intro pending found
    obtain rfl := Option.some.inj (answer.symm.trans found)
    exact List.mem_of_mem_take recent
  | ready assembled kind unknown mailbox remembers handed answer =>
    simp [unread rfl] at mailbox

/-- The runtime takes the frame that completes a message. -/
theorem InboxTraced.complete (traced : InboxTraced peers entries runtime history)
    {received : EspNowReceivedFrame} {inbound : EspNowInboundApplicationMessage}
    (member : received ∈ entries)
    (run : runtime.accept received = (.applicationMessageReady, runtime'))
    (peeked : runtime'.peekApplicationMessage = some inbound) :
    InboxTraced peers entries runtime' (.messageReady inbound :: history) := by
  have grown : history ⊆ .messageReady inbound :: history := List.subset_cons_self _ _
  obtain ⟨sound, effect⟩ :=
    EspNowProtocolRuntime.accept_effect traced.sound (traced.entries received member) run
  cases effect with
  | silent nothing => simp at nothing
  | @ready message assembled kind unknown mailbox remembers handed answer =>
    obtain rfl := Option.some.inj (mailbox.symm.trans peeked)
    obtain ⟨_, tracks⟩ := EspNowDuplicateCache.observe_tracks traced.tracks assembled.identity unknown
    refine ⟨fun other inside => (traced.entries other inside).grow grown,
      sound.mono fun _ _ came => came.grow grown, remembers ▸ tracks, ?_, ?_⟩
    · intro pending found
      obtain rfl := Option.some.inj (answer.symm.trans found)
      exact List.mem_cons_self
    · intro other inside
      rcases List.mem_cons.mp inside with rfl | older
      · exact ⟨assembled.mono fun _ came => came.grow grown, kind⟩
      · obtain ⟨earlier, notAck⟩ := traced.ready other older
        exact ⟨earlier.mono fun _ came => came.grow grown, notAck⟩

end Inbox

def EspNowNetProtocolComponent.InboxTraced (e : EspNowNetProtocolComponent) : Prop :=
  EspNowNet.InboxTraced e.radio.peers e.radio.receivedFrames.entries e.runtime e.history

theorem receiveCallback_entries (r : EspIdfEspNowEncryptedRadio) (address : Vector UInt8 6)
    (data : List UInt8) {received : EspNowReceivedFrame}
    (member : received ∈ (r.receiveCallback address data).receivedFrames.entries) :
    received ∈ r.receivedFrames.entries ∨
      received.frame.bytes = data ∧ r.peers.indexForAddress address = received.peerIndex := by
  unfold EspIdfEspNowEncryptedRadio.receiveCallback at member
  simp only at member
  split at member
  · exact Or.inl member
  · rename_i frame assigned
    split at member
    · exact Or.inl member
    · rcases EspNowSpscQueue.push_mem_entries member with old | rfl
      · exact Or.inl old
      · exact Or.inr ⟨BoundedBytes.assign_true assigned, rfl⟩

theorem inboxTraced_step {e e' : EspNowNetProtocolComponent} (traced : e.InboxTraced)
    (effect : DeliveryEffect e e') : e'.InboxTraced := by
  unfold EspNowNetProtocolComponent.InboxTraced at traced ⊢
  cases effect with
  | quiet undisturbed runtime sender =>
    obtain ⟨peers, inbox, _, events, history, untold⟩ := undisturbed
    rw [peers, inbox, runtime, history]
    exact traced.grow (List.subset_append_right _ _) (readyMessages_untold untold)
  | started run radio boot runtime events untold history =>
    rw [radio, runtime, history]
    exact traced.grow (fun _ member => List.mem_append_right _ (List.mem_cons_of_mem _ member))
      (readyMessages_untold untold)
  | received address data same =>
    obtain ⟨frames, radio⟩ := EspIdfEspNowEncryptedRadio.receiveCallback_eq e.radio address data
    have entries (received : EspNowReceivedFrame) (member : received ∈ frames.entries) :=
      receiveCallback_entries e.radio address data (by rw [radio]; exact member)
    subst same
    simp only [driverEvent, record, radio]
    have grown := traced.grow (List.subset_cons_self (.frameReceived address data) e.history) rfl
    refine ⟨fun received member => ?_, grown.sound, grown.tracks, grown.answer, grown.ready⟩
    rcases entries received member with old | ⟨rfl, peer⟩
    · exact grown.entries received old
    · exact Or.inr ⟨address, List.mem_cons_self, peer⟩
  | accepted member run noAck unread undisturbed sender =>
    obtain ⟨peers, inbox, _, events, history, untold⟩ := undisturbed
    rw [peers, inbox, history]
    exact (traced.accept member run unread).grow (List.subset_append_right _ _)
      (readyMessages_untold untold)
  | ready member run peeked peers inbox boot sender history =>
    rw [peers, inbox, history]
    exact traced.complete member run peeked
  | acknowledged member run handed released sender undisturbed =>
    obtain ⟨peers, inbox, _, events, history, untold⟩ := undisturbed
    rw [peers, inbox, released, history]
    have accepted := traced.accept member run (by simp)
    exact (accepted.settle (EspNowProtocolRuntime.sound_handed accepted.sound none _) rfl
      accepted.answer).grow (List.subset_append_right _ _) (readyMessages_untold untold)
  | taken run undisturbed sender =>
    obtain ⟨peers, inbox, _, events, history, untold⟩ := undisturbed
    have sound := EspNowProtocolRuntime.sound_takeApplicationMessage traced.sound run
    obtain ⟨reassembler, ready, same⟩ := EspNowProtocolRuntime.takeApplicationMessage_eq run
    rw [same] at sound
    rw [peers, inbox, same, history]
    exact (traced.settle sound rfl traced.answer).grow (List.subset_append_right _ _)
      (readyMessages_untold untold)
  | answered runtime undisturbed sender =>
    obtain ⟨peers, inbox, _, events, history, untold⟩ := undisturbed
    rw [peers, inbox, runtime, history]
    exact traced.answered.grow (List.subset_append_right _ _) (readyMessages_untold untold)
  | sent outgoing run runtime boot sender history =>
    obtain ⟨_, peer, _, radio⟩ := EspIdfEspNowEncryptedRadio.sendFrame_true run
    rw [radio, history]
    rcases runtime with same | same
    · rw [same]
      exact traced.grow (List.subset_cons_self _ _) rfl
    · rw [same]
      exact traced.answered.grow (List.subset_cons_self _ _) rfl

/- What went out -/

/-- Where a sent frame comes from. -/
inductive Emitted (history : List EndpointEvent) : PeerIndex → List UInt8 → Prop
  | fragment {message : OutboundMessage} {index : Nat}
      (started : message ∈ startedMessages history)
      (inside : index < fragmentCount message.data.length) :
      Emitted history message.peerIndex
        (fragmentFrame message.envelope message.data index).bytes
  | ack (peer : PeerIndex) {payload : EspNowAckPayload} {envelope : EspNowFrameEnvelope}
      (known : payload.acknowledged ∈ readyIdentities history)
      (valid : payload.acknowledged.Valid) (kind : envelope.kind = .ack)
      (identity : envelope.identity.Valid) :
      Emitted history peer (fragmentFrame envelope (EspNowAckCodec.encodedBytes payload) 0).bytes
  | heartbeat (peer : PeerIndex) (packet : HeartbeatPacket) : Emitted history peer packet.encode

/-- An acknowledgement of the identity has been put together from received frames. -/
def AckReceived (peers : PeerRegistry) (history : List EndpointEvent) (key : DeliveryIdentity) :
    Prop :=
  ∃ peer message ack, Assembled (Came peers history peer) message ∧ message.envelope.kind = .ack ∧
    EspNowAckCodec.decode message.data.bytes = some ack ∧ ack.acknowledged = key

/-- The messages are numbered one by one, so no sequence has been used twice. -/
structure Numbered (sequence : UInt32) (messages : List OutboundMessage) : Prop where
  counted : sequence.toNat = messages.length
  bounded : ∀ message ∈ messages, message.envelope.sequence.toNat ≤ messages.length
  distinct : messages.Pairwise fun a b => a.envelope.sequence ≠ b.envelope.sequence

/-- Every started message carries the endpoint's own boot id and the next sequence; every sent
    frame and every acknowledgement goes back to something that happened before. -/
structure OutboxTraced (bootId : UInt64) (peers : PeerRegistry) (sender : ReliableMessageSender)
    (history : List EndpointEvent) : Prop where
  boot : sender.localBootId ≠ 0 → sender.localBootId = bootId
  started : ∀ message ∈ startedMessages history, message.envelope.identity.Valid ∧
    message.envelope.kind ≠ .ack ∧ message.envelope.sourceBootId = bootId ∧
    message.data.length ≤ maxMessageSize
  busy : sender.state ≠ .idle → sender.outbound ∈ startedMessages history
  sent : ∀ peer data, .frameSent peer data ∈ history → Emitted history peer data
  acknowledged : sender.state = .acknowledged →
    AckReceived peers history sender.envelope.identity
  numbered : (startedMessages history).length < 2 ^ 32 - 1 →
    Numbered sender.sequence (startedMessages history)

section Outbox
variable {bootId : UInt64} {peers : PeerRegistry} {sender sender' : ReliableMessageSender}
  {history history' : List EndpointEvent}

theorem startedMessages_grow (grown : history ⊆ history') :
    startedMessages history ⊆ startedMessages history' := by
  intro message member
  obtain ⟨event, inside, found⟩ := List.mem_filterMap.mp member
  exact List.mem_filterMap.mpr ⟨event, grown inside, found⟩

theorem readyIdentities_grow (grown : history ⊆ history') :
    readyIdentities history ⊆ readyIdentities history' := by
  refine List.map_subset _ fun inbound member => ?_
  exact mem_readyMessages.mpr (grown (mem_readyMessages.mp member))

theorem Emitted.grow {peer : PeerIndex} {data : List UInt8} (emitted : Emitted history peer data)
    (grown : history ⊆ history') : Emitted history' peer data := by
  cases emitted with
  | fragment started inside => exact .fragment (startedMessages_grow grown started) inside
  | ack peer known valid kind identity =>
    exact .ack peer (readyIdentities_grow grown known) valid kind identity
  | heartbeat peer packet => exact .heartbeat peer packet

theorem AckReceived.grow {key : DeliveryIdentity} (received : AckReceived peers history key)
    (grown : history ⊆ history') : AckReceived peers history' key := by
  obtain ⟨peer, message, ack, assembled, rest⟩ := received
  exact ⟨peer, message, ack, assembled.mono fun _ came => came.grow grown, rest⟩

theorem SenderMove.outbound (move : SenderMove sender sender') (busy : sender'.state ≠ .idle) :
    sender.state ≠ .idle ∧ sender'.outbound = sender.outbound := by
  cases move with
  | idle idle boot sequence => exact absurd idle busy
  | kept same acknowledged =>
    refine ⟨fun idle => busy (same.idle.mpr idle), ?_⟩
    simp only [ReliableMessageSender.outbound, same.peerIndex, same.envelope, same.message]

theorem SenderMove.counters (move : SenderMove sender sender') :
    sender'.localBootId = sender.localBootId ∧ sender'.sequence = sender.sequence := by
  cases move with
  | idle idle boot sequence => exact ⟨boot, sequence⟩
  | kept same acknowledged => exact ⟨same.localBootId, same.sequence⟩

/-- The sender moves on without a new message; what the history gains has been emitted. -/
theorem OutboxTraced.move (traced : OutboxTraced bootId peers sender history)
    (moved : SenderMove sender sender') (grown : history ⊆ history')
    (same : startedMessages history' = startedMessages history)
    (emitted : ∀ peer data, .frameSent peer data ∈ history' → .frameSent peer data ∉ history →
      Emitted history' peer data) : OutboxTraced bootId peers sender' history' := by
  obtain ⟨boot, sequence⟩ := moved.counters
  refine ⟨boot ▸ traced.boot, same ▸ traced.started, fun busy => ?_, fun peer data member => ?_,
    fun acknowledged => ?_, ?_⟩
  · obtain ⟨before, outbound⟩ := moved.outbound busy
    rw [same, outbound]
    exact traced.busy before
  · by_cases old : .frameSent peer data ∈ history
    · exact (traced.sent peer data old).grow grown
    · exact emitted peer data member old
  · cases moved with
    | idle idle => simp [idle] at acknowledged
    | kept kept still =>
      rw [kept.envelope]
      exact (traced.acknowledged (still acknowledged)).grow grown
  · rw [same, sequence]
    exact traced.numbered

theorem OutboxTraced.told (traced : OutboxTraced bootId peers sender history)
    (moved : SenderMove sender sender') {events : List EndpointEvent}
    (untold : ∀ event ∈ events, event.Untold) :
    OutboxTraced bootId peers sender' (events ++ history) :=
  traced.move moved (List.subset_append_right _ _) (startedMessages_untold untold)
    fun _ _ member absent => absurd ((mem_untold untold id).mp member) absent

/-- Only sequences up to the last one have been used, so the next one is new. -/
theorem Numbered.next {sequence : UInt32} {messages : List OutboundMessage}
    (numbered : Numbered sequence messages) (few : messages.length + 1 < 2 ^ 32 - 1)
    {message : OutboundMessage} (follows : message.envelope.sequence = nextSequence sequence) :
    Numbered (nextSequence sequence) (message :: messages) := by
  obtain ⟨counted, bounded, distinct⟩ := numbered
  have number : (nextSequence sequence).toNat = messages.length + 1 := by
    have grown : (sequence + 1).toNat = messages.length + 1 := by
      rw [UInt32.toNat_add, counted]
      exact Nat.mod_eq_of_lt (show messages.length + 1 < 2 ^ 32 by omega)
    unfold nextSequence
    split
    · rename_i wrapped
      rw [wrapped] at grown
      simp at grown
    · exact grown
  refine ⟨number, ?_, ?_⟩
  · intro other member
    rcases List.mem_cons.mp member with rfl | older
    · rw [follows, number, List.length_cons]
    · exact Nat.le_trans (bounded other older) (Nat.le_succ _)
  · refine List.pairwise_cons.mpr ⟨fun other older same => ?_, distinct⟩
    have small := bounded other older
    rw [← same, follows, number] at small
    omega

theorem OutboxTraced.start (traced : OutboxTraced bootId peers sender history) {peer : PeerIndex}
    {kind : EspNowFrameKind} {transactionId : TransactionId} {message : Option (List UInt8)}
    (run : sender.start peer kind transactionId message = (true, sender'))
    {events : List EndpointEvent} (untold : ∀ event ∈ events, event.Untold) :
    OutboxTraced bootId peers sender' (events ++
      .messageStarted peer sender'.envelope sender'.message.bytes :: history) := by
  obtain ⟨stored, _, boot, _, _, transaction, notAck, counted, form⟩ :=
    ReliableMessageSender.start_true run
  have grown : history ⊆ events ++
      .messageStarted peer sender'.envelope sender'.message.bytes :: history :=
    fun _ member => List.mem_append_right _ (List.mem_cons_of_mem _ member)
  have messages : startedMessages (events ++
      .messageStarted peer sender'.envelope sender'.message.bytes :: history) =
        ⟨peer, sender'.envelope, sender'.message.bytes⟩ :: startedMessages history :=
    startedMessages_untold untold
  refine ⟨?_, ?_, fun _ => ?_, ?_, ?_, ?_⟩
  · rw [form]
    exact traced.boot
  · intro other member
    rw [messages] at member
    rcases List.mem_cons.mp member with rfl | older
    · refine ⟨?_, ?_, ?_, sender'.message.fits⟩
      · rw [form]
        exact ⟨boot, transaction, nextSequence_ne_zero _⟩
      · rw [form]
        exact notAck
      · rw [form]
        exact traced.boot boot
    · exact traced.started other older
  · rw [messages, form]
    exact List.mem_cons_self
  · intro other data member
    have old : .frameSent other data ∈ history := by
      have inside := (mem_untold untold id).mp member
      simpa using inside
    exact (traced.sent other data old).grow grown
  · rw [form]
    simp
  · rw [messages]
    intro few
    have numbered := traced.numbered (by simp only [List.length_cons] at few; omega)
    rw [form]
    exact numbered.next few rfl

/-- An ACK of the sender's key acknowledges the message the sender works on. -/
theorem OutboxTraced.acknowledge (traced : OutboxTraced bootId peers sender history)
    (coupled : sender.Coupled) {events : List EndpointEvent}
    (untold : ∀ event ∈ events, event.Untold) {ack : EspNowAckPayload}
    (received : AckReceived peers history ack.acknowledged) :
    OutboxTraced bootId peers (sender.acceptAck ack).2 (events ++ history) := by
  rcases ReliableMessageSender.acceptAck_cases sender ack with same | ⟨waiting, key, next⟩
  · rw [same]
    exact traced.told (.refl _) untold
  · have loaded := coupled.loaded (by simp [waiting])
    have busy : sender.state ≠ .idle := by
      rw [coupled.state, waiting]
      simp [ReliableMessageSender.stateFor]
    have told := traced.told (.refl _) untold
    rw [next]
    refine ⟨told.boot, told.started, fun _ => told.busy busy, told.sent, fun _ => ?_, told.numbered⟩
    simp only
    rw [← loaded.key, ← key]
    exact received.grow (List.subset_append_right _ _)

end Outbox

def EspNowNetProtocolComponent.OutboxTraced (e : EspNowNetProtocolComponent) : Prop :=
  EspNowNet.OutboxTraced e.localBootId e.radio.peers e.sender e.history

theorem emitted_outgoing {e : EspNowNetProtocolComponent} (inbox : e.InboxTraced)
    (outbox : e.OutboxTraced) {peer : PeerIndex} {data : List UInt8}
    (outgoing : Outgoing e peer data) : Emitted e.history peer data := by
  cases outgoing with
  | fragment busy inside => exact .fragment (outbox.busy busy) inside
  | ack ready valid kind identity =>
    exact .ack _ (inbox.answer _ ready) valid kind identity
  | heartbeat peer packet => exact .heartbeat peer packet

theorem outboxTraced_step {e e' : EspNowNetProtocolComponent} (coupled : e.sender.Coupled)
    (inbox : e.InboxTraced) (traced : e.OutboxTraced) (effect : DeliveryEffect e e') :
    e'.OutboxTraced := by
  have emitted {peer : PeerIndex} {data : List UInt8} (outgoing : Outgoing e peer data) :
      Emitted e.history peer data := emitted_outgoing inbox traced outgoing
  unfold EspNowNetProtocolComponent.OutboxTraced at traced ⊢
  have aside (undisturbed : Undisturbed e e') (moved : SenderMove e.sender e'.sender) :
      EspNowNet.OutboxTraced e'.localBootId e'.radio.peers e'.sender e'.history := by
    obtain ⟨peers, _, boot, events, history, untold⟩ := undisturbed
    rw [peers, boot, history]
    exact traced.told moved untold
  cases effect with
  | quiet undisturbed runtime sender => exact aside undisturbed sender
  | accepted member run noAck unread undisturbed sender =>
    exact aside undisturbed (sender ▸ .refl _)
  | taken run undisturbed sender => exact aside undisturbed (sender ▸ .refl _)
  | answered runtime undisturbed sender => exact aside undisturbed (sender ▸ .refl _)
  | started run radio boot runtime events untold history =>
    rw [radio, boot, history]
    exact traced.start run untold
  | received address data same =>
    obtain ⟨frames, radio⟩ := EspIdfEspNowEncryptedRadio.receiveCallback_eq e.radio address data
    subst same
    simp only [driverEvent, record, radio]
    exact traced.move (.refl _) (List.subset_cons_self _ _) rfl
      fun _ _ member absent => absurd (by simpa using member) absent
  | ready member run peeked peers inbox' boot sender history =>
    rw [peers, boot, sender, history]
    exact traced.move (.refl _) (List.subset_cons_self _ _) rfl
      fun _ _ member absent => absurd (by simpa using member) absent
  | @acknowledged received runtime ack member run handed released sender undisturbed =>
    obtain ⟨_, effect⟩ :=
      EspNowProtocolRuntime.accept_effect inbox.sound (inbox.entries received member) run
    cases effect with
    | silent nothing => simp at nothing
    | deliveryAck assembled kind decodes mailbox remembers given answer =>
      obtain rfl := Option.some.inj (given.symm.trans handed)
      obtain ⟨peers, _, boot, events, history, untold⟩ := undisturbed
      rw [peers, boot, history, sender]
      exact traced.acknowledge coupled untold ⟨_, _, _, assembled, kind, decodes, rfl⟩
  | sent outgoing run runtime boot sender history =>
    obtain ⟨_, peer, _, radio⟩ := EspIdfEspNowEncryptedRadio.sendFrame_true run
    rw [radio, boot, history]
    refine traced.move sender (List.subset_cons_self _ _) rfl fun _ _ member absent => ?_
    rcases List.mem_cons.mp member with own | old
    · obtain ⟨rfl, rfl⟩ := EndpointEvent.frameSent.inj own
      exact (emitted outgoing).grow (List.subset_cons_self _ _)
    · exact absurd old absent

theorem delivery_effect_move {e e' : EspNowNetProtocolComponent} (coupled : e.sender.Coupled)
    (move : EndpointMove e e') : DeliveryEffect e e' := by
  cases move with
  | step step => exact delivery_effect coupled step
  | notification step =>
    cases step with
    | cleared => exact .aside rfl rfl rfl (.refl _) [] rfl (by simp)
    | taken | delivered =>
      exact .aside rfl rfl rfl (.refl _) [_] rfl (by simp [EndpointEvent.Untold])

theorem DeliveryEffect.constants {e e' : EspNowNetProtocolComponent} (effect : DeliveryEffect e e') :
    e'.radio.peers = e.radio.peers ∧ e'.localBootId = e.localBootId := by
  cases effect with
  | quiet undisturbed | accepted _ _ _ _ undisturbed | acknowledged _ _ _ _ _ undisturbed
    | taken _ undisturbed | answered _ undisturbed => exact ⟨undisturbed.peers, undisturbed.boot⟩
  | started _ radio boot => exact ⟨by rw [radio], boot⟩
  | received address data same =>
    obtain ⟨frames, radio⟩ := EspIdfEspNowEncryptedRadio.receiveCallback_eq e.radio address data
    subst same
    simp [driverEvent, record, radio]
  | ready _ _ _ peers _ boot => exact ⟨peers, boot⟩
  | sent _ run _ boot =>
    obtain ⟨_, peer, _, radio⟩ := EspIdfEspNowEncryptedRadio.sendFrame_true run
    exact ⟨by rw [radio], boot⟩

/-- What holds of an endpoint in every state of a run. -/
structure Traced (config : Configuration) (random : UInt64) (e : EspNowNetProtocolComponent) :
    Prop where
  coherent : e.Coherent
  inbox : e.InboxTraced
  outbox : e.OutboxTraced
  peers : e.radio.peers = config.peers
  boot : e.localBootId = (setup config random).localBootId

theorem traced_setup (config : Configuration) (random : UInt64) :
    Traced config random (setup config random) where
  coherent := coherent_setup config random
  inbox := by
    refine ⟨fun received member => Or.inl ?_, ?_, ?_, ?_, by simp [setup, readyMessages]⟩
    · have blank : received = {} := List.eq_of_mem_replicate member
      rw [blank]
      rfl
    · exact EspNowProtocolRuntime.sound_configure EspNowProtocolRuntime.sound_fresh _
    · obtain ⟨localBootId, same⟩ := EspNowProtocolRuntime.configure_eq {}
        (if random = 0 then 1 else random)
      simp only [setup, same]
      exact RecentWindow.tracks_nil _ rfl
    · obtain ⟨localBootId, same⟩ := EspNowProtocolRuntime.configure_eq {}
        (if random = 0 then 1 else random)
      simp only [setup, same]
      exact fun pending found => absurd found (by simp)
  outbox := by
    have fresh : (setup config random).sender.state = .idle ∧
        (setup config random).sender.sequence = 0 ∧
        ((setup config random).sender.localBootId ≠ 0 →
          (setup config random).sender.localBootId = (setup config random).localBootId) := by
      simp only [setup]
      rcases ReliableMessageSender.configure_eq {} (if random = 0 then 1 else random)
        config.retryPolicy with same | same
      · rw [same]
        exact ⟨rfl, rfl, fun nonzero => absurd rfl nonzero⟩
      · rw [same]
        exact ⟨rfl, rfl, fun _ => rfl⟩
    refine ⟨fresh.2.2, by simp [setup, startedMessages], ?_, by simp [setup], ?_, fun _ => ?_⟩
    · exact fun busy => absurd fresh.1 busy
    · simp [fresh.1]
    · rw [fresh.2.1]
      exact ⟨rfl, by simp [setup, startedMessages], by simp [setup, startedMessages]⟩
  peers := rfl
  boot := rfl

theorem traced_moves {config : Configuration} {random : UInt64} {e : EspNowNetProtocolComponent}
    (moves : EndpointMoves (setup config random) e) : Traced config random e := by
  refine GuardedInvariant.preserved _ ?_ moves (traced_setup config random)
  intro e e' traced move
  have effect := delivery_effect_move traced.coherent.coupled move
  obtain ⟨peers, boot⟩ := effect.constants
  exact ⟨coherent_move traced.coherent move, inboxTraced_step traced.inbox effect,
    outboxTraced_step traced.coherent.coupled traced.inbox traced.outbox effect,
    peers.trans traced.peers, boot.trans traced.boot⟩

end EspNowNet
