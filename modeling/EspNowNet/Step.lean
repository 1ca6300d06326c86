import EspNowNet.ControlEffect
import EspNowNet.Library.GuardedInvariant
import EspNowNet.Loop
import EspNowNet.SenderInvariant

/- Every operation of the endpoint as a sequence of small steps. A step says exactly which
   fields change and in which state it is taken, so an invariant is proved once per step and
   then holds after every operation, whatever a callback calls in the middle of it. -/
namespace EspNowNet
open EspNowNetProtocolComponent Relation

/-- The events no statement about the transmission, the slots or the runtime depends on. -/
def EndpointEvent.Incidental : EndpointEvent → Prop
  | .commandDeclared _ | .commandAccepted _ _ | .commandVerified _ _ | .commandAnswered _ _ _
  | .resultStaged _ _ | .resultTaken _ _
  | .resultRouted _ _ | .unsolicitedDelivered _ _ => True
  | _ => False

/-- A RESULT only goes to a slot that waits for it, and past the slots only when it is not of
    the last command that ended. -/
structure Routed (e : EspNowNetProtocolComponent) (route : ResultRoute)
    (inbound : EspNowInboundApplicationMessage) : Prop where
  client : ∀ slot, route = .client slot → (e.clients slot).state = .waitingForResult ∧
    inbound.peerIndex = (e.clients slot).peer ∧
    inbound.message.envelope.transactionId = (e.clients slot).command.transactionId
  past : route = .unsolicited ∨ route = .mailbox → e.lastTerminalTransactionId ≠ 0 →
    inbound.peerIndex = e.lastTerminalPeer →
    inbound.message.envelope.transactionId ≠ e.lastTerminalTransactionId

/-- Since a result was offered these observers, latest first, have been given it, and after
    each of them only calls were made. -/
inductive Offered (offer : EndpointEvent) (given : Nat → EndpointEvent) :
    List Nat → List EndpointEvent → Prop
  | first (older : List EndpointEvent) : Offered offer given [] (offer :: older)
  | next {observers : List Nat} {history events : List EndpointEvent} (observer : Nat)
      (before : Offered offer given observers history)
      (called : ∀ event ∈ events, event.Called) :
      Offered offer given (observer :: observers) (events ++ given observer :: history)

/-- It is this observer's turn. -/
def Turn (offer : EndpointEvent) (given : Nat → EndpointEvent) (observers : List Nat)
    (observer : Nat) (history : List EndpointEvent) : Prop :=
  ∃ done rest, Offered offer given done history ∧ observers = done.reverse ++ observer :: rest

/-- Since the lane was given the command nothing has happened but the report of its source. -/
def JustAccepted (lane : InboundLane) (inbound : EspNowInboundApplicationMessage)
    (history : List EndpointEvent) : Prop :=
  ∃ verified older, history = verified ++ .commandAccepted lane inbound :: older ∧
    ∀ event ∈ verified, ∃ command, event = .commandVerified inbound.peerIndex command

/-- The changes that leave the radio, the runtime, the sender and the client slots alone. -/
inductive Bookkeeping (e : EspNowNetProtocolComponent) : EspNowNetProtocolComponent → Prop
  | heartbeat (heartbeat : ApplicationHeartbeat) : Bookkeeping e { e with heartbeat }
  | declarativeId : Bookkeeping e ({ e with
      nextDeclarativeTransactionId := nextDeclarativeId e.nextDeclarativeTransactionId }.record
        (.commandDeclared (0xE000000000000000 ||| e.nextDeclarativeTransactionId)))
  | completionTaken (ready : e.background.completionReady = true) :
      Bookkeeping e { e with background := {} }
  | mailboxTaken : Bookkeeping e { e with resultMessage := none }
  | mailboxFilled (inbound : EspNowInboundApplicationMessage) :
      Bookkeeping e { e with resultMessage := some inbound }
  | commandVerified {lane : InboundLane} {inbound : EspNowInboundApplicationMessage}
      {command : NetCommand} (accepted : .commandAccepted lane inbound ∈ e.history)
      (decodes : InboundCommandDispatcher.decodeCommand inbound = .ok command)
      (verifies : e.Verifies inbound.peerIndex command) :
      Bookkeeping e (e.record (.commandVerified inbound.peerIndex command))
  | commandAnswered {lane : InboundLane} {inbound : EspNowInboundApplicationMessage}
      (status : NetCommandHandlerStartStatus) (accepted : JustAccepted lane inbound e.history)
      (active : status = .started → (e.lanes lane).state = .active) :
      Bookkeeping e (e.record (.commandAnswered inbound.peerIndex
        inbound.message.envelope.transactionId status))
  | laneLooped (lane : InboundLane) (answers : NetCommandHandlerAnswers) (nowMs : UInt32) :
      Bookkeeping e (e.loopLane lane answers nowMs)
  | resultTaken {lane : InboundLane} {pending : PendingNetResult}
      {dispatcher : InboundCommandDispatcher}
      (taken : (e.lanes lane).takeResult = (some pending, dispatcher)) :
      Bookkeeping e ({ e with lanes := Function.update e.lanes lane dispatcher }.record
        (.resultTaken lane pending))
  | unsolicitedDelivered {observer : Nat} {inbound : EspNowInboundApplicationMessage}
      (turn : Turn (.resultRouted .unsolicited inbound) (.unsolicitedDelivered · inbound)
        e.unsolicitedResultObservers.observers observer e.history) :
      Bookkeeping e (e.record (.unsolicitedDelivered observer inbound))

theorem loopLane_eq (e : EspNowNetProtocolComponent) (lane : InboundLane)
    (answers : NetCommandHandlerAnswers) (nowMs : UInt32) :
    ∃ events, (∀ event ∈ events, ∃ handedOn, event = .resultStaged lane handedOn) ∧
      e.loopLane lane answers nowMs = { e with
        lanes := Function.update e.lanes lane ((e.lanes lane).loop answers nowMs)
        history := events ++ e.history } := by
  unfold loopLane
  simp only
  split
  · exact ⟨[_], fun event member => ⟨_, List.mem_singleton.mp member⟩, rfl⟩
  · exact ⟨[], by simp, rfl⟩

theorem Bookkeeping.eq {e e' : EspNowNetProtocolComponent} (kept : Bookkeeping e e') :
    ∃ heartbeat lanes background resultMessage id events,
      (∀ event ∈ events, EndpointEvent.Incidental event) ∧ e' = { e with
        heartbeat, lanes, background, resultMessage
        nextDeclarativeTransactionId := id, history := events ++ e.history } := by
  cases kept with
  | heartbeat | completionTaken | mailboxTaken | mailboxFilled =>
    exact ⟨_, _, _, _, _, [], by simp, rfl⟩
  | laneLooped lane answers nowMs =>
    obtain ⟨events, noted, same⟩ := loopLane_eq e lane answers nowMs
    refine ⟨_, _, _, _, _, events, fun event member => ?_, same⟩
    obtain ⟨handedOn, rfl⟩ := noted event member
    trivial
  | declarativeId | commandVerified | commandAnswered | resultTaken | unsolicitedDelivered =>
    exact ⟨_, _, _, _, _, [_], by simp [EndpointEvent.Incidental], rfl⟩

/-- What is done with a message that was taken from the runtime. -/
inductive Consumption (e : EspNowNetProtocolComponent) (inbound : EspNowInboundApplicationMessage) :
    EspNowNetProtocolComponent → Prop
  | commandAccepted {lane : InboundLane} (answers : NetCommandHandlerAnswers) (nowMs : UInt32)
      (accepts : (e.lanes lane).Accepts inbound) :
      Consumption e inbound ({ e with
        lanes := Function.update e.lanes lane ((e.lanes lane).accept inbound answers nowMs).2 }.record
          (.commandAccepted lane inbound))
  | resultRouted {route : ResultRoute} (result : inbound.message.envelope.kind = .result)
      (routed : Routed e route inbound) :
      Consumption e inbound (e.record (.resultRouted route inbound))
  | dropped : Consumption e inbound e

theorem Consumption.eq {e e' : EspNowNetProtocolComponent}
    {inbound : EspNowInboundApplicationMessage} (consumption : Consumption e inbound e') :
    ∃ lanes events, (∀ event ∈ events, EndpointEvent.Incidental event) ∧
      e' = { e with lanes, history := events ++ e.history } := by
  cases consumption with
  | commandAccepted | resultRouted => exact ⟨_, [_], by simp [EndpointEvent.Incidental], rfl⟩
  | dropped => exact ⟨_, [], by simp, rfl⟩

/-- The client made the result up itself, or a RESULT for one of its slots says it. -/
def ResultOrigin (history : List EndpointEvent) (peer : PeerIndex) (result : NetResult) : Prop :=
  result.transportFailure = true ∨ ∃ slot inbound latencyMs,
    .resultRouted (.client slot) inbound ∈ history ∧ inbound.peerIndex = peer ∧
      EspNowResultCodec.decode inbound.message.envelope.transactionId inbound.message.data.bytes
        latencyMs = .ok result

/-- Who starts a message, what it says, and what its start leaves in the background slot. -/
inductive SenderClaim (e : EspNowNetProtocolComponent) : ReliableMessageOwner → PeerIndex →
    EspNowFrameKind → TransactionId → Option (List UInt8) → BackgroundResult → Prop
  | apiCaller (peer : PeerIndex) (kind : EspNowFrameKind) (transactionId : TransactionId)
      (data : Option (List UInt8)) :
      SenderClaim e .apiCaller peer kind transactionId data e.background
  | backgroundResult (peer : PeerIndex) {result : NetResult} {encoded : BoundedBytes 640}
      (clear : e.background.completionReady = false)
      (encodes : EspNowResultCodec.encode result = .ok encoded) :
      SenderClaim e .backgroundResult peer .result result.transactionId (some encoded.bytes)
        { e.background with transactionId := result.transactionId }
  | dispatcherResult {lane : InboundLane} {pending : PendingNetResult}
      (taken : ∃ older, e.history = .resultTaken lane pending :: older) :
      SenderClaim e .dispatcherResult pending.peerIndex .result pending.transactionId
        (some pending.payload.bytes) e.background

theorem SenderClaim.owner_ne {e : EspNowNetProtocolComponent} {owner : ReliableMessageOwner}
    {peer : PeerIndex} {kind : EspNowFrameKind} {transactionId : TransactionId}
    {data : Option (List UInt8)} {background : BackgroundResult}
    (claim : SenderClaim e owner peer kind transactionId data background) :
    owner ≠ .commandClient ∧ owner ≠ .none := by
  cases claim <;> exact ⟨by decide, by decide⟩

/-- Who gives the sender back after a delivery has ended, other than the command client. -/
inductive SenderRelease (e : EspNowNetProtocolComponent) : BackgroundResult → Prop
  | dispatcherResult (owned : e.reliableMessageOwner = .dispatcherResult) :
      SenderRelease e e.background
  | backgroundResult (owned : e.reliableMessageOwner = .backgroundResult) (succeeded : Bool) :
      SenderRelease e { e.background with succeeded, completionReady := true }

theorem SenderRelease.owner_ne {e : EspNowNetProtocolComponent} {background : BackgroundResult}
    (release : SenderRelease e background) : e.reliableMessageOwner ≠ .commandClient := by
  cases release with
  | dispatcherResult owned | backgroundResult owned => simp [owned]

inductive EndpointStep : EspNowNetProtocolComponent → EspNowNetProtocolComponent → Prop
  | bookkeeping {e e' : EspNowNetProtocolComponent} (kept : Bookkeeping e e') : EndpointStep e e'
  -- the control API
  | startRefused (e : EspNowNetProtocolComponent) {sender : ReliableMessageSender}
      {peer : PeerIndex} {kind : EspNowFrameKind} {transactionId : TransactionId}
      {data : Option (List UInt8)}
      (run : e.sender.start peer kind transactionId data = (false, sender)) :
      EndpointStep e { e with sender }
  | started (e : EspNowNetProtocolComponent) {owner : ReliableMessageOwner}
      {sender : ReliableMessageSender} {peer : PeerIndex} {kind : EspNowFrameKind}
      {transactionId : TransactionId} {data : Option (List UInt8)} {background : BackgroundResult}
      (claim : SenderClaim e owner peer kind transactionId data background)
      (free : e.reliableMessageOwner = .none)
      (run : e.sender.start peer kind transactionId data = (true, sender)) :
      EndpointStep e ({ e with sender, background, reliableMessageOwner := owner }.record
        (.messageStarted peer sender.envelope sender.message.bytes))
  | commandStarted (e : EspNowNetProtocolComponent) {sender : ReliableMessageSender}
      {peer : PeerIndex} {command : NetCommand} {encoded : BoundedBytes 511} (nowMs : UInt32)
      (enabled : e.runtimeEnabled = true) (free : e.reliableMessageOwner = .none)
      (idle : (e.clients e.nextSlot).state = .idle) (valid : command.Valid)
      (encodes : EspNowCommandCodec.encode command = .ok encoded)
      (run : e.sender.start peer .command command.transactionId (some encoded.bytes) =
        (true, sender)) :
      EndpointStep e (({ e with
        sender, commandSenderSlot := e.nextSlot, reliableMessageOwner := .commandClient
        clients := Function.update e.clients e.nextSlot
          { command, peer, startedMs := nowMs, state := .waitingForDeliveryAck } }.record
        (.messageStarted peer sender.envelope sender.message.bytes)).record
        (.commandStarted e.nextSlot peer command.transactionId))
  | cancelled (e : EspNowNetProtocolComponent) (slot : Fin 2)
      (busy : (e.clients slot).state ≠ .idle) : EndpointStep e (e.cancelSlot slot)
  | disabled (e : EspNowNetProtocolComponent) (enabled : e.runtimeEnabled = true) :
      EndpointStep e e.disableRuntime
  | enabled (e : EspNowNetProtocolComponent) : EndpointStep e { e with runtimeEnabled := true }
  | senderReset (e : EspNowNetProtocolComponent) : EndpointStep e e.resetSender
  | externalDeadline (e : EspNowNetProtocolComponent) (slot : Fin 2)
      (busy : (e.clients slot).state ≠ .idle) :
      EndpointStep e ((e.setClient slot { e.clients slot with externalDeadline := true }).record
        (.externalDeadlineSet slot))
  -- the radio
  | radioPolled (e : EspNowNetProtocolComponent) (env : EndpointEnvironment) :
      EndpointStep e (e.radioLoop env)
  | recoveryRequested (e : EspNowNetProtocolComponent) (env : EndpointEnvironment) :
      EndpointStep e (e.requestRecovery env)
  | discarded (e : EspNowNetProtocolComponent) (off : e.runtimeEnabled = false) :
      EndpointStep e e.discardRadioEvents
  | driver (e : EspNowNetProtocolComponent) (event : DriverEvent) :
      EndpointStep e (e.driverEvent event)
  | completionIgnored (e : EspNowNetProtocolComponent) {completion : EspNowSendCompletion}
      {radio : EspIdfEspNowEncryptedRadio}
      (taken : e.radio.takeSendCompletion = (some completion, radio))
      (foreign : e.transmission.owner = .none ∨ completion.peerIndex ≠ e.transmission.peer) :
      EndpointStep e { e with radio }
  | completionReleases (e : EspNowNetProtocolComponent) {completion : EspNowSendCompletion}
      {radio : EspIdfEspNowEncryptedRadio}
      (taken : e.radio.takeSendCompletion = (some completion, radio))
      (owned : e.transmission.owner ≠ .none) (own : completion.peerIndex = e.transmission.peer)
      (silent : ¬ (e.transmission.owner = .sender ∧ e.sender.frameInFlight = true)) :
      EndpointStep e ({ e with radio, transmission := { frame := e.transmission.frame } }.record
        (.transmissionReleased completion.frame e.transmission.frame))
  | completionDelivered (e : EspNowNetProtocolComponent) {completion : EspNowSendCompletion}
      {radio : EspIdfEspNowEncryptedRadio} (nowMs : UInt32)
      (taken : e.radio.takeSendCompletion = (some completion, radio))
      (owned : e.transmission.owner = .sender) (own : completion.peerIndex = e.transmission.peer)
      (flying : e.sender.frameInFlight = true) :
      EndpointStep e (({ e with
        radio
        sender := (e.sender.completeFrame completion.succeeded nowMs).2
        transmission := { frame := e.transmission.frame } }.record
          (.frameCompleted completion.frame e.senderFrame)).record
          (.transmissionReleased completion.frame e.transmission.frame))
  -- received frames
  | heartbeatReceived (e : EspNowNetProtocolComponent) {received : EspNowReceivedFrame}
      {radio : EspIdfEspNowEncryptedRadio} (heartbeat : ApplicationHeartbeat)
      (taken : e.radio.takeReceivedFrame = (some received, radio)) :
      EndpointStep e { e with radio, heartbeat }
  | frameAccepted (e : EspNowNetProtocolComponent) {received : EspNowReceivedFrame}
      {radio : EspIdfEspNowEncryptedRadio} {result : EspNowProtocolAcceptResult}
      {runtime : EspNowProtocolRuntime}
      (taken : e.radio.takeReceivedFrame = (some received, radio))
      (run : e.runtime.accept received = (result, runtime))
      (noAck : result ≠ .deliveryAckReady)
      (notReady : result = .applicationMessageReady → runtime.peekApplicationMessage = none) :
      EndpointStep e { e with radio, runtime }
  | messageReady (e : EspNowNetProtocolComponent) {received : EspNowReceivedFrame}
      {radio : EspIdfEspNowEncryptedRadio} {runtime : EspNowProtocolRuntime}
      {inbound : EspNowInboundApplicationMessage}
      (taken : e.radio.takeReceivedFrame = (some received, radio))
      (run : e.runtime.accept received = (.applicationMessageReady, runtime))
      (peeked : runtime.peekApplicationMessage = some inbound) :
      EndpointStep e ({ e with radio, runtime }.record (.messageReady inbound))
  | ackReceived (e : EspNowNetProtocolComponent) {received : EspNowReceivedFrame}
      {radio : EspIdfEspNowEncryptedRadio} {runtime : EspNowProtocolRuntime}
      {ack : EspNowAckPayload}
      (taken : e.radio.takeReceivedFrame = (some received, radio))
      (run : e.runtime.accept received = (.deliveryAckReady, runtime))
      (handed : runtime.deliveryAck = some ack) :
      EndpointStep e ({ e with radio, runtime := { runtime with deliveryAck := none } }.acceptDeliveryAck
        received.peerIndex ack)
  | messageTaken {e e' : EspNowNetProtocolComponent} {inbound : EspNowInboundApplicationMessage}
      {runtime : EspNowProtocolRuntime}
      (taken : e.runtime.takeApplicationMessage = (some inbound, runtime))
      (consumption : Consumption { e with runtime } inbound e') : EndpointStep e e'
  -- the command client
  | progressQueued (e : EspNowNetProtocolComponent) (peer : PeerIndex) {result : NetResult}
      (progress : result.status = .inProgress) {slot : Fin 2}
      (waiting : (e.clients slot).state = .waitingForResult) (own : peer = (e.clients slot).peer)
      (transaction : result.transactionId = (e.clients slot).command.transactionId)
      (origin : ResultOrigin e.history peer result) :
      EndpointStep e (e.queueCommandResultNotification peer result)
  | finished (e : EspNowNetProtocolComponent) (slot : Fin 2) {result : NetResult}
      (waiting : (e.clients slot).state = .waitingForResult) (terminal : result.Terminal)
      (transaction : result.transactionId = (e.clients slot).command.transactionId)
      (origin : ResultOrigin e.history (e.clients slot).peer result)
      (own : result.transportFailure = true → result.execution.started = true) :
      EndpointStep e (e.finishCommandClient result slot)
  | deliveryFailed (e : EspNowNetProtocolComponent) {code : NetErrorCode} (message : String)
      (nowMs : UInt32) (owned : e.reliableMessageOwner = .commandClient)
      (ended : e.sender.state = .rejected ∧ code = .remoteRejected ∨
        e.sender.state = .timedOut ∧ code = .timedOut) :
      EndpointStep e (e.releaseSender.failCommandClient code message nowMs e.commandSenderSlot)
  | delivered (e : EspNowNetProtocolComponent) (owned : e.reliableMessageOwner = .commandClient)
      (acknowledged : e.sender.state = .acknowledged) :
      EndpointStep e (e.releaseSender.setClient e.commandSenderSlot
        { e.clients e.commandSenderSlot with state := .waitingForResult })
  -- the sender and its transmissions
  | senderLooped (e : EspNowNetProtocolComponent) (nowMs : UInt32) :
      EndpointStep e (e.senderLoop nowMs)
  | senderReleased (e : EspNowNetProtocolComponent) {background : BackgroundResult}
      (release : SenderRelease e background) : EndpointStep e { e with background }.releaseSender
  | ackDropped (e : EspNowNetProtocolComponent) {pending : EspNowPendingApplicationAck}
      (ackSequence : UInt32) (ready : e.runtime.applicationAck = some pending) :
      EndpointStep e { e with runtime := { e.runtime with applicationAck := none }, ackSequence }
  | ackSent (e : EspNowNetProtocolComponent) {pending : EspNowPendingApplicationAck}
      {radio : EspIdfEspNowEncryptedRadio} {frame : EspNowRadioFrame} {accepted : Bool}
      (free : e.transmission.owner = .none) (ready : e.runtime.applicationAck = some pending)
      (valid : pending.payload.acknowledged.Valid)
      (encodes : EspNowFrameCodec.encodeFragment
        { kind := .ack, sourceBootId := e.localBootId
          transactionId := pending.payload.acknowledged.transactionId
          sequence := nextSequence e.ackSequence }
        (EspNowAckCodec.encodedBytes pending.payload) 0 = .ok frame)
      (run : e.radio.sendFrame pending.peerIndex frame.bytes accepted = (true, radio)) :
      EndpointStep e ({ e with
        runtime := { e.runtime with applicationAck := none }
        ackSequence := nextSequence e.ackSequence
        radio
        transmission := ⟨.ack, pending.peerIndex, e.radio.transmitted⟩ }.record
          (.frameSent pending.peerIndex frame.bytes))
  | frameRefused (e : EspNowNetProtocolComponent) {peer : PeerIndex} {frame : EspNowRadioFrame}
      {sender : ReliableMessageSender} (nowMs : UInt32) (free : e.transmission.owner = .none)
      (taken : e.sender.takeFrame = (some (peer, frame), sender)) :
      EndpointStep e { e with sender := (sender.completeFrame false nowMs).2 }
  | frameSent (e : EspNowNetProtocolComponent) {peer : PeerIndex} {frame : EspNowRadioFrame}
      {sender : ReliableMessageSender} {radio : EspIdfEspNowEncryptedRadio} {accepted : Bool}
      (free : e.transmission.owner = .none)
      (taken : e.sender.takeFrame = (some (peer, frame), sender))
      (run : e.radio.sendFrame peer frame.bytes accepted = (true, radio)) :
      EndpointStep e ({ e with
        sender, radio
        transmission := ⟨.sender, peer, e.radio.transmitted⟩
        senderFrame := e.radio.transmitted }.record (.frameSent peer frame.bytes))
  | heartbeatSent (e : EspNowNetProtocolComponent) (packet : HeartbeatPacket)
      (heartbeat : ApplicationHeartbeat) {radio : EspIdfEspNowEncryptedRadio} {accepted : Bool}
      (free : e.transmission.owner = .none)
      (run : e.radio.sendFrame e.heartbeat.peer packet.encode accepted = (true, radio)) :
      EndpointStep e ({ e with
        heartbeat, radio
        transmission := ⟨.heartbeat, e.heartbeat.peer, e.radio.transmitted⟩ }.record
          (.frameSent e.heartbeat.peer packet.encode))

/-- Any number of steps. -/
abbrev EndpointSteps := ReflTransGen EndpointStep

namespace EspNowNetProtocolComponent

theorem startReliableMessage_steps (e : EspNowNetProtocolComponent) (peer : PeerIndex)
    (kind : EspNowFrameKind) (transactionId : TransactionId) (data : Option (List UInt8)) :
    EndpointSteps e (e.startReliableMessage peer kind transactionId data).2 := by
  unfold startReliableMessage
  split
  · exact .refl
  · rename_i free
    simp only [ne_eq, Decidable.not_not] at free
    obtain ⟨sender, ⟨run, start⟩ | ⟨run, start⟩⟩ := startSender_cases e peer kind transactionId data
    · rw [start]
      exact .single (.startRefused e run)
    · rw [start]
      exact .single (.started e (.apiCaller _ _ _ _) free run)

theorem nextSlot_idle {e : EspNowNetProtocolComponent} (can : e.canStartCommand = true) :
    (e.clients e.nextSlot).state = .idle := by
  simp only [canStartCommand, Bool.and_eq_true, Bool.or_eq_true, decide_eq_true_eq] at can
  unfold nextSlot
  split
  · rename_i second
    rcases can.1.1.2 with first | ⟨_, idle⟩
    · exact absurd first second.2
    · exact idle
  · rename_i first
    rcases can.1.1.2 with idle | ⟨dual, _⟩
    · exact idle
    · simpa [dual] using first

theorem startCommand_steps (e : EspNowNetProtocolComponent) (peer : PeerIndex)
    (command : NetCommand) (nowMs : UInt32) :
    EndpointSteps e (e.startCommand peer command nowMs).2 := by
  unfold startCommand
  split
  · exact .refl
  · rename_i accepted
    simp only [not_or, Decidable.not_not] at accepted
    obtain ⟨can, _, valid⟩ := accepted
    split
    · exact .refl
    · rename_i encoded encodes
      have state := can
      simp only [canStartCommand, Bool.and_eq_true, decide_eq_true_eq] at state
      obtain ⟨sender, ⟨run, start⟩ | ⟨run, start⟩⟩ :=
        startSender_cases e peer .command command.transactionId (some encoded.bytes)
      · rw [start]
        exact .single (.startRefused e run)
      · rw [start]
        exact .single (.commandStarted e nowMs state.1.1.1 state.1.2 (nextSlot_idle can) valid
          encodes run)

theorem sendCommand_steps (e : EspNowNetProtocolComponent)
    (peerId deviceId resource name payload : List UInt8) (timeoutMs nowMs : UInt32) :
    EndpointSteps e (e.sendCommand peerId deviceId resource name payload timeoutMs nowMs).2 := by
  unfold sendCommand
  simp only
  split
  · exact .refl
  · refine .head (.bookkeeping .declarativeId) ?_
    split
    · exact .refl
    · exact startCommand_steps _ _ _ _

theorem startBackgroundResult_steps (e : EspNowNetProtocolComponent) (peer : PeerIndex)
    (result : NetResult) : EndpointSteps e (e.startBackgroundResult peer result).2 := by
  unfold startBackgroundResult
  split
  · exact .refl
  · rename_i accepted
    simp only [not_or, Decidable.not_not, ne_eq] at accepted
    split
    · exact .refl
    · rename_i encoded encodes
      obtain ⟨sender, ⟨run, start⟩ | ⟨run, start⟩⟩ :=
        startSender_cases e peer .result result.transactionId (some encoded.bytes)
      · rw [start]
        exact .single (.startRefused e run)
      · rw [start]
        have claim := SenderClaim.backgroundResult peer (Bool.not_eq_true _ ▸ accepted.2.2.2.2.1)
          encodes
        exact .single (.started e claim accepted.2.2.1 run)

theorem cancelCommand_steps (e : EspNowNetProtocolComponent) (transactionId : TransactionId) :
    EndpointSteps e (e.cancelCommand transactionId).2 := by
  unfold cancelCommand
  split
  · exact .refl
  · split
    · exact .refl
    · rename_i slot found
      exact .single (.cancelled e slot (slotOf_busy found).1)

theorem useExternalResultDeadline_steps (e : EspNowNetProtocolComponent)
    (transactionId : TransactionId) :
    EndpointSteps e (e.useExternalResultDeadline transactionId).2 := by
  unfold useExternalResultDeadline
  split
  · exact .refl
  · split
    · exact .refl
    · rename_i slot found
      exact .single (.externalDeadline e slot (slotOf_busy found).1)

theorem setRuntimeEnabled_steps (e : EspNowNetProtocolComponent) (enabled : Bool) :
    EndpointSteps e (e.setRuntimeEnabled enabled) := by
  unfold setRuntimeEnabled
  split
  · exact .refl
  · rename_i changed
    cases enabled
    · exact .single (.disabled e (by simpa using changed))
    · exact .single (.enabled e)

theorem takeBackgroundResultCompletion_steps (e : EspNowNetProtocolComponent) :
    EndpointSteps e e.takeBackgroundResultCompletion.2 := by
  unfold takeBackgroundResultCompletion
  split
  · exact .refl
  · rename_i ready
    exact .single (.bookkeeping (.completionTaken (by simpa using ready)))

theorem control_steps (e : EspNowNetProtocolComponent) (call : ControlCall) :
    EndpointSteps e (call.apply e) := by
  cases call with
  | setRuntimeEnabled enabled => exact setRuntimeEnabled_steps e enabled
  | sendCommand => exact sendCommand_steps e _ _ _ _ _ _ _
  | startCommand => exact startCommand_steps e _ _ _
  | startBackgroundResult => exact startBackgroundResult_steps e _ _
  | cancelCommand => exact cancelCommand_steps e _
  | startReliableMessage => exact startReliableMessage_steps e _ _ _ _
  | takeBackgroundResultCompletion => exact takeBackgroundResultCompletion_steps e
  | resetSender => exact .single (.senderReset e)
  | takeApplicationMessage => exact .single (.bookkeeping .mailboxTaken)
  | useExternalResultDeadline => exact useExternalResultDeadline_steps e _

theorem calls_steps (e : EspNowNetProtocolComponent) (script : List ControlCall) :
    EndpointSteps e (e.calls script) := by
  induction script generalizing e with
  | nil => exact .refl
  | cons call script ih => exact (control_steps e call).trans (ih _)

theorem driverEvents_steps (e : EspNowNetProtocolComponent) (events : List DriverEvent) :
    EndpointSteps e (e.driverEvents events) := by
  induction events generalizing e with
  | nil => exact .refl
  | cons event events ih => exact .head (.driver e event) (ih _)

/- The phases of an iteration -/

theorem processSendCompletion_steps (e : EspNowNetProtocolComponent) (nowMs : UInt32) :
    EndpointSteps e (e.processSendCompletion nowMs) := by
  unfold processSendCompletion
  cases taken : e.radio.takeSendCompletion with
  | mk completion radio =>
    cases completion with
    | none =>
      have same : radio = e.radio := by
        simp only [EspIdfEspNowEncryptedRadio.takeSendCompletion, Prod.mk.injEq] at taken
        have popped : e.radio.sendCompletions.pop = (none, e.radio.sendCompletions.pop.2) :=
          Prod.ext taken.1 rfl
        rw [← taken.2, (EspNowSpscQueue.pop_none popped).1]
      subst same
      exact .refl
    | some completion =>
      simp only
      split
      · rename_i foreign
        exact .single (.completionIgnored e taken foreign)
      · rename_i matching
        simp only [not_or, Decidable.not_not, ne_eq] at matching
        split
        · rename_i flying
          exact .single (.completionDelivered e nowMs taken flying.1 matching.2 flying.2)
        · rename_i silent
          exact .single (.completionReleases e taken matching.1 matching.2 silent)

theorem acceptProtocolFrame_steps (e : EspNowNetProtocolComponent)
    {received : EspNowReceivedFrame} {radio : EspIdfEspNowEncryptedRadio}
    (taken : e.radio.takeReceivedFrame = (some received, radio)) :
    EndpointSteps e ({ e with radio }.acceptProtocolFrame received) := by
  unfold acceptProtocolFrame
  simp only
  split
  · rename_i runtime run
    obtain ⟨ack, handed⟩ := EspNowProtocolRuntime.accept_deliveryAck run
    simp only [EspNowProtocolRuntime.takeDeliveryAck, handed]
    exact .single (.ackReceived e taken run handed)
  · rename_i runtime run
    split
    · rename_i inbound peeked
      exact .single (.messageReady e taken run peeked)
    · rename_i missing
      exact .single (.frameAccepted e taken run (by decide) fun _ => missing)
  · rename_i result runtime noAck notReady run
    exact .single (.frameAccepted e taken run noAck fun ready => absurd ready notReady)

theorem processReceivedFrame_steps (e : EspNowNetProtocolComponent) (receivedMs : UInt32) :
    EndpointSteps e (e.processReceivedFrame receivedMs) := by
  unfold processReceivedFrame
  cases taken : e.radio.takeReceivedFrame with
  | mk received radio =>
    cases received with
    | none =>
      have same : radio = e.radio := by
        simp only [EspIdfEspNowEncryptedRadio.takeReceivedFrame, Prod.mk.injEq] at taken
        have popped : e.radio.receivedFrames.pop = (none, e.radio.receivedFrames.pop.2) :=
          Prod.ext taken.1 rfl
        rw [← taken.2, (EspNowSpscQueue.pop_none popped).1]
      subst same
      exact .refl
    | some received =>
      simp only
      split
      · split
        · rename_i heartbeat _
          exact .single (.heartbeatReceived e heartbeat taken)
        · exact acceptProtocolFrame_steps e taken
      · exact acceptProtocolFrame_steps e taken

theorem commandLane_accepts {e : EspNowNetProtocolComponent}
    {inbound : EspNowInboundApplicationMessage} {lane : InboundLane}
    (found : e.commandLane inbound = some lane) : (e.lanes lane).Accepts inbound := by
  unfold commandLane at found
  split at found
  · rename_i interrupt
    exact Option.some.inj found ▸ interrupt.2.2
  · split at found
    · rename_i command
      exact Option.some.inj found ▸ command
    · split at found
      · rename_i parallel
        exact Option.some.inj found ▸ parallel.2
      · simp at found

theorem onCommandIdentity_steps {e : EspNowNetProtocolComponent} {lane : InboundLane}
    {inbound : EspNowInboundApplicationMessage} {command : NetCommand}
    (accepted : .commandAccepted lane inbound ∈ e.history)
    (decodes : InboundCommandDispatcher.decodeCommand inbound = .ok command) :
    EndpointSteps e (e.onCommandIdentity inbound.peerIndex command) := by
  unfold onCommandIdentity
  split
  · rename_i verifies
    exact .single (.bookkeeping (.commandVerified accepted decodes verifies))
  · exact .refl

theorem onCommandIdentity_lanes (e : EspNowNetProtocolComponent) (peer : PeerIndex)
    (command : NetCommand) : (e.onCommandIdentity peer command).lanes = e.lanes := by
  unfold onCommandIdentity
  split <;> rfl

theorem onCommandIdentity_justAccepted (e : EspNowNetProtocolComponent) (lane : InboundLane)
    (inbound : EspNowInboundApplicationMessage) (command : NetCommand) :
    JustAccepted lane inbound ((e.record (.commandAccepted lane inbound)).onCommandIdentity
      inbound.peerIndex command).history := by
  unfold onCommandIdentity
  split
  · exact ⟨[_], e.history, rfl, fun event member => ⟨command, List.mem_singleton.mp member⟩⟩
  · exact ⟨[], e.history, rfl, by simp⟩

theorem acceptCommand_steps (e : EspNowNetProtocolComponent) (env : EndpointEnvironment)
    {inbound : EspNowInboundApplicationMessage} {runtime : EspNowProtocolRuntime}
    (taken : e.runtime.takeApplicationMessage = (some inbound, runtime)) (lane : InboundLane)
    (accepts : (e.lanes lane).Accepts inbound) :
    EndpointSteps e ({ e with runtime }.acceptCommand env inbound lane) := by
  unfold acceptCommand
  have lanes := EndpointStep.messageTaken taken
    (.commandAccepted (e := { e with runtime }) (env.lanes lane).answers env.nowMs accepts)
  simp only
  split
  · exact .single lanes
  · rename_i command shown
    have decodes := InboundCommandDispatcher.decodes_of_acceptedCommand shown
    have accepted : .commandAccepted lane inbound ∈ ({ e with
        runtime
        lanes := Function.update e.lanes lane
          ((e.lanes lane).accept inbound (env.lanes lane).answers env.nowMs).2 }.record
        (.commandAccepted lane inbound)).history := List.mem_cons_self
    have verified := onCommandIdentity_steps accepted decodes
    split
    · rename_i installed
      have answered := EndpointStep.bookkeeping (.commandAnswered (env.lanes lane).answers.start
        (onCommandIdentity_justAccepted ({ e with
          runtime
          lanes := Function.update e.lanes lane
            ((e.lanes lane).accept inbound (env.lanes lane).answers env.nowMs).2 }) lane inbound
          command) (fun started => by
            rw [onCommandIdentity_lanes]
            simpa [record] using InboundCommandDispatcher.accept_active shown installed started
              env.nowMs))
      rw [← EspNowCommandCodec.decode_transaction decodes] at answered
      exact .head lanes (verified.trans (.head answered (calls_steps _ _)))
    · exact .head lanes (verified.trans (calls_steps _ _))

theorem deliverUnsolicited_steps {e : EspNowNetProtocolComponent} (env : EndpointEnvironment)
    (inbound : EspNowInboundApplicationMessage) (done : List Nat) {rest : List Nat}
    (offered : Offered (.resultRouted .unsolicited inbound) (.unsolicitedDelivered · inbound) done
      e.history) (whole : e.unsolicitedResultObservers.observers = done.reverse ++ rest) :
    EndpointSteps e (rest.foldl (deliverUnsolicited env inbound) e) := by
  induction rest generalizing e done with
  | nil => exact .refl
  | cons observer rest ih =>
    have turn : EndpointStep e (e.record (.unsolicitedDelivered observer inbound)) :=
      .bookkeeping (.unsolicitedDelivered ⟨done, rest, offered, whole⟩)
    have effect := calls_effect (e.record (.unsolicitedDelivered observer inbound))
      (env.unsolicitedObserver observer)
    obtain ⟨events, history, called⟩ := effect.events
    refine .head turn ((calls_steps _ _).trans (ih (observer :: done) ?_ ?_))
    · simp only [history]
      exact .next observer offered called
    · simp only [effect.unsolicited]
      simp [record, whole]

theorem dispatchUnsolicitedResult_steps (e : EspNowNetProtocolComponent)
    (env : EndpointEnvironment) (inbound : EspNowInboundApplicationMessage) :
    EndpointSteps (e.record (.resultRouted .unsolicited inbound))
      ((e.record (.resultRouted .unsolicited inbound)).dispatchUnsolicitedResult env inbound) := by
  unfold dispatchUnsolicitedResult
  split
  · exact .refl
  · exact deliverUnsolicited_steps env inbound [] (.first e.history) rfl

theorem failureResult_terminal (client : CommandClient) (code : NetErrorCode) (message : String)
    (nowMs : UInt32) : (failureResult client code message nowMs).Terminal := by
  simp [failureResult, NetResult.Terminal]

theorem failureResult_started {client : CommandClient} (waiting : client.state = .waitingForResult)
    (code : NetErrorCode) (message : String) (nowMs : UInt32) :
    (failureResult client code message nowMs).execution.started = true := by
  simp [failureResult, waiting]

theorem processCommandClientResult_steps (e : EspNowNetProtocolComponent)
    (inbound : EspNowInboundApplicationMessage) (nowMs : UInt32) (slot : Fin 2)
    (waiting : (e.clients slot).state = .waitingForResult)
    (peer : inbound.peerIndex = (e.clients slot).peer)
    (transaction : inbound.message.envelope.transactionId = (e.clients slot).command.transactionId)
    (routed : .resultRouted (.client slot) inbound ∈ e.history) :
    EndpointSteps e (e.processCommandClientResult inbound nowMs slot) := by
  unfold processCommandClientResult
  simp only
  split
  · exact .single (.finished e slot waiting (failureResult_terminal _ _ _ _) rfl (Or.inl rfl)
      (fun _ => failureResult_started waiting _ _ _))
  · rename_i result decoded
    rw [← transaction] at decoded
    have own := (EspNowResultCodec.decode_transaction decoded).trans transaction
    have origin : ResultOrigin e.history (e.clients slot).peer result :=
      Or.inr ⟨slot, inbound, _, routed, peer, decoded⟩
    split
    · rename_i progress
      exact .single (.progressQueued e _ progress waiting rfl own origin)
    · rename_i terminal
      exact .single (.finished e slot waiting terminal own origin fun failed =>
        absurd failed (by simp [EspNowResultCodec.decode_transportFailure decoded]))

theorem matchingCommandClient_waiting {e : EspNowNetProtocolComponent} {slot : Fin 2}
    (found : e.matchingCommandClient = some slot) :
    (e.clients slot).state = .waitingForResult ∧ e.matchesClient slot = true := by
  unfold matchingCommandClient at found
  have waiting (slot : Fin 2) (found : e.matchesClient slot = true) :
      (e.clients slot).state = .waitingForResult := by
    simp only [matchesClient, Bool.and_eq_true, decide_eq_true_eq] at found
    exact found.1.1
  split at found
  · simp at found
  · split at found
    · rename_i first
      obtain rfl := Option.some.inj found
      exact ⟨waiting _ first, first⟩
    · split at found
      · rename_i second
        obtain rfl := Option.some.inj found
        exact ⟨waiting _ second.2, second.2⟩
      · simp at found

theorem resultRoute_client {e : EspNowNetProtocolComponent} {slot : Fin 2}
    (route : e.resultRoute = .client slot) : e.matchingCommandClient = some slot := by
  unfold resultRoute at route
  split at route
  · rename_i found
    simp only [ResultRoute.client.injEq] at route
    rw [found, route]
  · split at route
    · simp at route
    · split at route <;> simp at route

theorem resultRoute_past {e : EspNowNetProtocolComponent}
    (route : e.resultRoute = .unsolicited ∨ e.resultRoute = .mailbox) :
    e.inboundMatchesLastTerminal = false := by
  unfold resultRoute at route
  split at route
  · simp at route
  · split at route
    · simp at route
    · rename_i past
      simpa using past

theorem resultRoute_routed {e : EspNowNetProtocolComponent}
    {inbound : EspNowInboundApplicationMessage}
    {runtime : EspNowProtocolRuntime}
    (taken : e.runtime.takeApplicationMessage = (some inbound, runtime))
    (result : inbound.message.envelope.kind = .result) : Routed e e.resultRoute inbound := by
  obtain ⟨_, kind, peer, transaction⟩ := EspNowProtocolRuntime.takeApplicationMessage_some taken
  constructor
  · intro slot route
    obtain ⟨waiting, matched⟩ := matchingCommandClient_waiting (resultRoute_client route)
    simp only [matchesClient, Bool.and_eq_true, decide_eq_true_eq, peer, transaction] at matched
    exact ⟨waiting, matched.1.2, matched.2⟩
  · intro past identified samePeer sameTransaction
    have unmatched := resultRoute_past past
    simp [inboundMatchesLastTerminal, identified, kind, result, peer, transaction, samePeer,
      sameTransaction] at unmatched

/-- What happens once the route stands in the history. -/
theorem routedResult_steps (e : EspNowNetProtocolComponent) (env : EndpointEnvironment)
    (inbound : EspNowInboundApplicationMessage) (route : ResultRoute)
    (routed : Routed e route inbound) :
    EndpointSteps (e.record (.resultRouted route inbound)) (e.routeResult env inbound route) := by
  unfold routeResult
  cases route with
  | client slot =>
    obtain ⟨waiting, peer, transaction⟩ := routed.client slot rfl
    exact processCommandClientResult_steps _ _ _ _ waiting peer transaction List.mem_cons_self
  | late => exact .refl
  | unsolicited => exact dispatchUnsolicitedResult_steps _ _ _
  | mailbox =>
    exact .single (.bookkeeping (.mailboxFilled inbound))

theorem processApplicationMessage_steps (e : EspNowNetProtocolComponent)
    (env : EndpointEnvironment) : EndpointSteps e (e.processApplicationMessage env) := by
  unfold processApplicationMessage
  split
  · exact .refl
  · split
    · exact .refl
    · rename_i inbound runtime taken
      simp only
      split
      · split
        · rename_i found
          exact acceptCommand_steps e env taken _ (commandLane_accepts found)
        · exact .single (.messageTaken taken .dropped)
      · rename_i result
        have held := resultRoute_routed taken result
        have routed : Routed { e with runtime } e.resultRoute inbound := ⟨held.client, held.past⟩
        exact .head (.messageTaken taken (.resultRouted result routed))
          (routedResult_steps { e with runtime } env inbound e.resultRoute routed)
      · exact .single (.messageTaken taken .dropped)

theorem checkResultDeadline_steps (e : EspNowNetProtocolComponent) (nowMs : UInt32)
    (slot : Fin 2) : EndpointSteps e (e.checkResultDeadline nowMs slot) := by
  unfold checkResultDeadline
  split
  · rename_i overdue
    exact .single (.finished e slot overdue.1 (failureResult_terminal _ _ _ _) rfl (Or.inl rfl)
      (fun _ => failureResult_started overdue.1 _ _ _))
  · exact .refl

theorem dispatcherLoop_steps (e : EspNowNetProtocolComponent) (env : EndpointEnvironment)
    (lane : InboundLane) : EndpointSteps e (e.dispatcherLoop env lane) := by
  unfold dispatcherLoop
  split
  · exact .refl
  · have lanes := EndpointStep.bookkeeping
      (.laneLooped (e := e) lane (env.lanes lane).answers env.nowMs)
    simp only
    split
    · exact .head lanes (calls_steps _ _)
    · exact .single lanes

theorem processOwnedSenderCompletion_steps (e : EspNowNetProtocolComponent)
    (env : EndpointEnvironment) : EndpointSteps e (e.processOwnedSenderCompletion env) := by
  unfold processOwnedSenderCompletion
  split
  · rename_i owned
    simp only
    split
    · rename_i ended
      exact .single (.delivered e owned ended)
    · rename_i ended
      exact .single (.deliveryFailed e _ env.failureMs owned (Or.inl ⟨ended, rfl⟩))
    · rename_i ended
      exact .head (.recoveryRequested e env)
        (.single (.deliveryFailed _ _ env.failureMs owned (Or.inr ⟨ended, rfl⟩)))
    · exact .refl
  · rename_i owned
    simp only
    split
    · exact .single (.senderReleased e (.backgroundResult owned true))
    · exact .single (.senderReleased e (.backgroundResult owned false))
    · exact .head (.recoveryRequested e env)
        (.single (.senderReleased _ (.backgroundResult (e := e.requestRecovery env) owned false)))
    · exact .refl
  · rename_i owned
    split
    · exact .single (.senderReleased e (.dispatcherResult owned))
    · exact .single (.senderReleased e (.dispatcherResult owned))
    · exact .head (.recoveryRequested e env)
        (.single (.senderReleased _ (.dispatcherResult (e := e.requestRecovery env) owned)))
    · exact .refl
  · exact .refl
  · exact .refl

theorem processDispatcher_steps (e : EspNowNetProtocolComponent) :
    EndpointSteps e e.processDispatcher := by
  unfold processDispatcher
  split
  · exact .refl
  · rename_i free
    simp only [not_or, Decidable.not_not, ne_eq] at free
    simp only
    split
    · exact .refl
    · rename_i pending dispatcher taken
      refine .head (.bookkeeping (.resultTaken taken)) ?_
      obtain ⟨sender, ⟨run, start⟩ | ⟨run, start⟩⟩ := startSender_cases
        ({ e with lanes := Function.update e.lanes e.resultLane dispatcher }.record
          (.resultTaken e.resultLane pending)) pending.peerIndex .result
        pending.transactionId (some pending.payload.bytes)
      · rw [start]
        exact .single (.startRefused _ run)
      · rw [start]
        exact .single (.started _ (.dispatcherResult ⟨_, rfl⟩) free.1 run)

theorem sendFrame_false {r r' : EspIdfEspNowEncryptedRadio} {index : PeerIndex}
    {data : List UInt8} {accepted : Bool} (run : r.sendFrame index data accepted = (false, r')) :
    r' = r := by
  unfold EspIdfEspNowEncryptedRadio.sendFrame at run
  split at run
  · simpa using run.symm
  · split at run
    · simpa using run.symm
    · simp at run

theorem transmit_cases (e : EspNowNetProtocolComponent) (owner : RadioTransmissionOwner)
    (peer : PeerIndex) (data : List UInt8) (accepted : Bool) :
    e.transmit owner peer data accepted = (false, e) ∨
      ∃ radio, e.radio.sendFrame peer data accepted = (true, radio) ∧
        e.transmit owner peer data accepted = (true, { e with
          radio, transmission := ⟨owner, peer, e.radio.transmitted⟩ }.record
            (.frameSent peer data)) := by
  unfold transmit
  cases run : e.radio.sendFrame peer data accepted with
  | mk sent radio =>
    cases sent
    · rw [sendFrame_false run]
      exact Or.inl rfl
    · exact Or.inr ⟨radio, rfl, rfl⟩

theorem encode_eq_some {payload : EspNowAckPayload} {bytes : List UInt8}
    (encodes : EspNowAckCodec.encode payload = some bytes) :
    payload.acknowledged.Valid ∧ bytes = EspNowAckCodec.encodedBytes payload := by
  unfold EspNowAckCodec.encode at encodes
  split at encodes
  · rename_i valid
    exact ⟨valid, by simpa using encodes.symm⟩
  · simp at encodes

theorem dispatchApplicationAck_steps (e : EspNowNetProtocolComponent) (accepted : Bool) :
    EndpointSteps e (e.dispatchApplicationAck accepted) := by
  unfold dispatchApplicationAck
  split
  · exact .refl
  · rename_i free
    simp only [ne_eq, Decidable.not_not] at free
    simp only [EspNowProtocolRuntime.takeApplicationAck]
    cases ready : e.runtime.applicationAck with
    | none => exact .refl
    | some pending =>
      simp only
      split
      · exact .single (.ackDropped e e.ackSequence ready)
      · rename_i payload encodes
        obtain ⟨valid, rfl⟩ := encode_eq_some encodes
        split
        · exact .single (.ackDropped e (nextSequence e.ackSequence) ready)
        · rename_i frame fragment
          rcases transmit_cases
            { e with
              runtime := { e.runtime with applicationAck := none }
              ackSequence := nextSequence e.ackSequence }
            .ack pending.peerIndex frame.bytes accepted with refused | ⟨radio, run, sent⟩
          · rw [refused]
            exact .single (.ackDropped e (nextSequence e.ackSequence) ready)
          · rw [sent]
            exact .single (.ackSent e free ready valid fragment run)

theorem dispatchSenderFrame_steps (e : EspNowNetProtocolComponent) (nowMs : UInt32)
    (accepted : Bool) : EndpointSteps e (e.dispatchSenderFrame nowMs accepted) := by
  unfold dispatchSenderFrame
  split
  · exact .refl
  · rename_i free
    simp only [ne_eq, Decidable.not_not] at free
    cases taken : e.sender.takeFrame with
    | mk handed sender =>
      cases handed with
      | none =>
        have same : sender = e.sender := by
          unfold ReliableMessageSender.takeFrame at taken
          split at taken
          · simpa using taken.symm
          · split at taken <;> simp_all
        subst same
        exact .refl
      | some handed =>
        obtain ⟨peer, frame⟩ := handed
        simp only
        rcases transmit_cases { e with sender } .sender peer frame.bytes accepted with
          refused | ⟨radio, run, sent⟩
        · rw [refused]
          exact .single (.frameRefused e nowMs free taken)
        · rw [sent]
          exact .single (.frameSent e free taken run)

theorem dispatchHeartbeat_steps (e : EspNowNetProtocolComponent) (nowMs : UInt32)
    (accepted : Bool) : EndpointSteps e (e.dispatchHeartbeat nowMs accepted) := by
  unfold dispatchHeartbeat
  have kept (heartbeat : ApplicationHeartbeat) : EndpointStep e { e with heartbeat } :=
    .bookkeeping (.heartbeat heartbeat)
  split
  · exact .refl
  · rename_i permitted
    simp only [not_or, Decidable.not_not, ne_eq] at permitted
    split
    · exact .single (kept _)
    · rename_i packet heartbeat prepared
      rcases transmit_cases { e with heartbeat } .heartbeat e.heartbeat.peer packet.encode accepted with
        refused | ⟨radio, run, sent⟩
      · rw [refused]
        exact .single (kept _)
      · rw [sent]
        exact .single (.heartbeatSent e packet _ permitted.2.2.1 run)

end EspNowNetProtocolComponent

/-- What the notification phase adds between the callbacks it makes. -/
inductive NotificationStep : EspNowNetProtocolComponent → EspNowNetProtocolComponent → Prop
  | taken (e : EspNowNetProtocolComponent) (ready : e.notification.ready = true) :
      NotificationStep e ({ e with notification := { e.notification with ready := false } }.record
        (.resultOffered e.notification.peer e.notification.result))
  | delivered (e : EspNowNetProtocolComponent) {observer : Nat} {peer : PeerIndex}
      {result : NetResult} (turn : Turn (.resultOffered peer result)
        (.resultDelivered · peer result) e.commandResultObservers.observers observer e.history) :
      NotificationStep e (e.record (.resultDelivered observer peer result))
  | cleared (e : EspNowNetProtocolComponent) (idle : e.notification.ready = false) :
      NotificationStep e { e with notification := { ready := e.notification.ready } }

inductive EndpointMove (e e' : EspNowNetProtocolComponent) : Prop
  | step (step : EndpointStep e e')
  | notification (step : NotificationStep e e')

abbrev EndpointMoves := ReflTransGen EndpointMove

theorem EndpointSteps.moves {e e' : EspNowNetProtocolComponent} (steps : EndpointSteps e e') :
    EndpointMoves e e' :=
  steps.lift id fun _ _ => EndpointMove.step

namespace EspNowNetProtocolComponent

theorem deliverResult_moves (env : EndpointEnvironment) (notification : CommandResultNotification)
    {e : EspNowNetProtocolComponent} (done : List Nat) {rest : List Nat}
    (offered : Offered (.resultOffered notification.peer notification.result)
      (.resultDelivered · notification.peer notification.result) done e.history)
    (whole : e.commandResultObservers.observers = done.reverse ++ rest) :
    EndpointMoves e (rest.foldl (deliverResult env notification) e) := by
  induction rest generalizing e done with
  | nil => exact .refl
  | cons observer rest ih =>
    have turn : NotificationStep e
        (e.record (.resultDelivered observer notification.peer notification.result)) :=
      .delivered e ⟨done, rest, offered, whole⟩
    have effect := calls_effect
      (e.record (.resultDelivered observer notification.peer notification.result))
      (env.resultObserver observer)
    obtain ⟨events, history, called⟩ := effect.events
    refine .head (.notification turn) ((calls_steps _ _).moves.trans
      (ih (observer :: done) ?_ ?_))
    · simp only [history]
      exact .next observer offered called
    · simp only [effect.observers]
      simp [record, whole]

/-- No call of an observer queues a notification. -/
theorem deliverResult_idle (env : EndpointEnvironment) (notification : CommandResultNotification)
    {e : EspNowNetProtocolComponent} (observers : List Nat) (idle : e.notification.ready = false) :
    (observers.foldl (deliverResult env notification) e).notification.ready = false := by
  induction observers generalizing e with
  | nil => exact idle
  | cons observer rest hyp =>
    apply hyp
    have effect := calls_effect
      (e.record (.resultDelivered observer notification.peer notification.result))
      (env.resultObserver observer)
    rcases effect.notification with same | ⟨dropped, _⟩
    · exact (congrArg CommandResultNotification.ready same).trans idle
    · exact dropped

theorem dispatchCommandResultNotification_moves (e : EspNowNetProtocolComponent)
    (env : EndpointEnvironment) :
    EndpointMoves e (e.dispatchCommandResultNotification env) := by
  unfold dispatchCommandResultNotification
  split
  · exact .refl
  · rename_i ready
    exact .head (.notification (.taken e (by simpa using ready)))
      ((deliverResult_moves env e.notification [] (.first e.history) rfl).tail
        (.notification (.cleared _ (deliverResult_idle env e.notification _ rfl))))

/-- The phases after the notification. -/
theorem laterPhases_steps (env : EndpointEnvironment)
    (phase : EspNowNetProtocolComponent → EspNowNetProtocolComponent)
    (member : phase ∈ (phases env).tail) (e : EspNowNetProtocolComponent) :
    EndpointSteps e (phase e) := by
  simp only [phases, List.tail_cons, List.mem_cons, List.not_mem_nil, or_false] at member
  rcases member with rfl | rfl | rfl | rfl | rfl | rfl | rfl | rfl | rfl | rfl | rfl | rfl | rfl | rfl
  · exact processSendCompletion_steps e _
  · exact processReceivedFrame_steps e _
  · exact processApplicationMessage_steps e env
  · exact checkResultDeadline_steps e _ 0
  · simp only
    split
    · exact checkResultDeadline_steps e _ 1
    · exact .refl
  · exact dispatcherLoop_steps e env _
  · exact dispatcherLoop_steps e env _
  · exact dispatcherLoop_steps e env _
  · exact .single (.senderLooped e _)
  · exact processOwnedSenderCompletion_steps e env
  · exact processDispatcher_steps e
  · exact dispatchApplicationAck_steps e _
  · exact dispatchSenderFrame_steps e _ _
  · exact dispatchHeartbeat_steps e _ _

theorem runPhases_steps (env : EndpointEnvironment)
    (rest : List (EspNowNetProtocolComponent → EspNowNetProtocolComponent))
    (each : ∀ phase ∈ rest, ∀ e, EndpointSteps e (phase e)) (e : EspNowNetProtocolComponent) :
    EndpointSteps e (runPhases env e rest) := by
  induction rest generalizing e with
  | nil => exact .refl
  | cons phase rest ih =>
    exact (driverEvents_steps e _).trans ((each phase List.mem_cons_self _).trans
      (ih (fun later member => each later (List.mem_cons_of_mem _ member)) _))

/-- The state in which the notification phase of an enabled iteration runs. -/
def entered (e : EspNowNetProtocolComponent) (env : EndpointEnvironment) :
    EspNowNetProtocolComponent :=
  (e.polled env).driverEvents (env.driver 14)

theorem polled_steps (e : EspNowNetProtocolComponent) (env : EndpointEnvironment) :
    EndpointSteps e (e.polled env) := by
  refine .head (.radioPolled e env) ?_
  simp only [polled, heartbeatTick]
  split
  · exact .single (.bookkeeping (.heartbeat _))
  · exact .refl

/-- An iteration goes on to its phases. -/
def Proceeds (e : EspNowNetProtocolComponent) (env : EndpointEnvironment) : Prop :=
  (e.polled env).radio.initialized = true ∧ e.failed = false ∧ e.runtimeEnabled = true

instance decidableProceeds (e : EspNowNetProtocolComponent) (env : EndpointEnvironment) :
    Decidable (e.Proceeds env) :=
  inferInstanceAs (Decidable (_ ∧ _))

theorem polled_runtimeEnabled (e : EspNowNetProtocolComponent) (env : EndpointEnvironment) :
    (e.polled env).runtimeEnabled = e.runtimeEnabled ∧ (e.polled env).failed = e.failed := by
  unfold polled heartbeatTick
  split <;> exact ⟨rfl, rfl⟩

/-- An iteration either consists of steps, or runs the notification phase between steps. -/
theorem loop_cases (e : EspNowNetProtocolComponent) (env : EndpointEnvironment) :
    (¬ e.Proceeds env ∧ EndpointSteps e (e.loop env)) ∨
      (e.Proceeds env ∧ EndpointSteps e (e.entered env) ∧
        EndpointSteps ((e.entered env).dispatchCommandResultNotification env) (e.loop env)) := by
  obtain ⟨enabled, failed⟩ := polled_runtimeEnabled e env
  have poll := polled_steps e env
  unfold loop Proceeds
  simp only [← enabled, ← failed]
  split
  · rename_i closed
    refine Or.inl ⟨?_, poll⟩
    rintro ⟨initialized, sound, _⟩
    rcases closed with off | broken
    · exact off initialized
    · simp [sound] at broken
  · rename_i opened
    simp only [not_or, Bool.not_eq_true, Bool.not_eq_false] at opened
    split
    · rename_i off
      exact Or.inl ⟨by simp_all, poll.tail (.discarded _ (by simpa using off))⟩
    · rename_i on
      refine Or.inr ⟨⟨opened.1, opened.2, by simpa using on⟩, poll.trans (driverEvents_steps _ _), ?_⟩
      exact runPhases_steps env (phases env).tail (laterPhases_steps env) _

theorem loop_moves (e : EspNowNetProtocolComponent) (env : EndpointEnvironment) :
    EndpointMoves e (e.loop env) := by
  rcases loop_cases e env with ⟨_, steps⟩ | ⟨_, before, after⟩
  · exact steps.moves
  · exact before.moves.trans
      ((dispatchCommandResultNotification_moves _ env).trans after.moves)

theorem operation_moves (e : EspNowNetProtocolComponent) (operation : EndpointOperation) :
    EndpointMoves e (operation.apply e) := by
  cases operation with
  | control call => exact (control_steps e call).moves
  | driver event => exact .single (.step (.driver e event))
  | loop env => exact loop_moves e env

theorem run_moves (e : EspNowNetProtocolComponent) (operations : List EndpointOperation) :
    EndpointMoves e (e.run operations) := by
  induction operations generalizing e with
  | nil => exact .refl
  | cons operation operations ih => exact (operation_moves e operation).trans (ih _)

end EspNowNetProtocolComponent

/- The history only grows -/

/-- An ACK is noted, and so is the end it brings to a delivery. -/
theorem acceptDeliveryAck_eq (e : EspNowNetProtocolComponent) (peer : PeerIndex)
    (ack : EspNowAckPayload) :
    ∃ outcome, (outcome = [] ∨
        outcome = [.messageAcknowledged e.sender.peerIndex e.sender.envelope e.sender.message.bytes] ∨
        outcome = [.messageRejected e.sender.peerIndex e.sender.envelope e.sender.message.bytes]) ∧
      e.acceptDeliveryAck peer ack = { e with
        sender := (e.sender.acceptAck ack).2
        history := outcome ++ .ackReceived peer ack (e.awaitedFrom ack) :: e.history } := by
  have same : (e.sender.acceptAck ack).2.peerIndex = e.sender.peerIndex ∧
      (e.sender.acceptAck ack).2.envelope = e.sender.envelope ∧
      (e.sender.acceptAck ack).2.message = e.sender.message := by
    rcases ReliableMessageSender.acceptAck_cases e.sender ack with kept | ⟨_, _, next⟩
    · rw [kept]
      exact ⟨rfl, rfl, rfl⟩
    · rw [next]
      exact ⟨rfl, rfl, rfl⟩
  obtain ⟨peerIndex, envelope, message⟩ := same
  unfold acceptDeliveryAck
  simp only [peerIndex, envelope, message]
  split
  · exact ⟨_, Or.inr (Or.inl rfl), rfl⟩
  · split
    · exact ⟨_, Or.inr (Or.inr rfl), rfl⟩
    · exact ⟨_, Or.inl rfl, rfl⟩

theorem queueCommandResultNotification_eq (e : EspNowNetProtocolComponent) (peer : PeerIndex)
    (result : NetResult) :
    ∃ notification, e.queueCommandResultNotification peer result = { e with notification } := by
  unfold queueCommandResultNotification
  split
  · exact ⟨e.notification, rfl⟩
  · exact ⟨_, rfl⟩

theorem finishCommandClient_eq (e : EspNowNetProtocolComponent) (result : NetResult)
    (slot : Fin 2) :
    ∃ notification, e.finishCommandClient result slot = { e with
      lastTerminalPeer := (e.clients slot).peer
      lastTerminalTransactionId := result.transactionId
      clients := Function.update e.clients slot
        { externalDeadline := (e.clients slot).externalDeadline }
      notification
      history := EndpointEvent.commandFinished slot (e.clients slot).peer result
        e.notification.ready :: e.history } := by
  unfold finishCommandClient
  obtain ⟨notification, same⟩ := queueCommandResultNotification_eq
    (({ e with
      lastTerminalPeer := (e.clients slot).peer
      lastTerminalTransactionId := result.transactionId }.record
        (.commandFinished slot (e.clients slot).peer result e.notification.ready)).clearCommandClient
      slot) (e.clients slot).peer result
  exact ⟨notification, same⟩

theorem driverEvent_eq (e : EspNowNetProtocolComponent) (event : DriverEvent) :
    ∃ radio history, e.history <:+ history ∧ e.driverEvent event = { e with radio, history } := by
  cases event with
  | sendCallback position succeeded => exact ⟨_, _, List.suffix_cons _ _, rfl⟩
  | receiveCallback address data => exact ⟨_, _, List.suffix_cons _ _, rfl⟩

theorem step_history {e e' : EspNowNetProtocolComponent} (step : EndpointStep e e') :
    e.history <:+ e'.history := by
  cases step with
  | bookkeeping kept =>
    obtain ⟨_, _, _, _, _, events, _, rfl⟩ := kept.eq
    exact List.suffix_append events e.history
  | messageTaken taken consumption =>
    obtain ⟨_, events, _, rfl⟩ := consumption.eq
    exact List.suffix_append events e.history
  | startRefused | enabled | radioPolled | recoveryRequested
    | completionIgnored | heartbeatReceived | frameAccepted | delivered | senderLooped
    | senderReleased | ackDropped | frameRefused => exact List.suffix_rfl
  | started | externalDeadline | senderReset | discarded | completionReleases | messageReady
    | ackSent | frameSent | heartbeatSent => exact List.suffix_cons _ _
  | commandStarted | completionDelivered => exact (List.suffix_cons _ _).trans (List.suffix_cons _ _)
  | cancelled slot busy =>
    rw [cancelSlot_eq e slot]
    exact List.suffix_cons _ _
  | disabled enabled =>
    obtain ⟨cancelled, ⟨cancels, same, _⟩, history⟩ := disableRuntime_history e
    rw [history, same]
    refine List.IsSuffix.trans ?_ (List.suffix_cons _ _)
    refine List.IsSuffix.trans ?_ (List.suffix_append _ _)
    exact (List.suffix_cons _ _).trans (List.suffix_append _ _)
  | driver event =>
    obtain ⟨radio, history, grown, same⟩ := driverEvent_eq e event
    rw [same]
    exact grown
  | @ackReceived received radio runtime ack taken run handed =>
    obtain ⟨outcome, _, same⟩ := acceptDeliveryAck_eq
      { e with radio, runtime := { runtime with deliveryAck := none } } received.peerIndex ack
    rw [same]
    exact (List.suffix_cons _ _).trans (List.suffix_append _ _)
  | @progressQueued peer result progress =>
    obtain ⟨notification, same⟩ := queueCommandResultNotification_eq e peer result
    exact same ▸ List.suffix_rfl
  | @finished slot result waiting terminal =>
    obtain ⟨notification, same⟩ := finishCommandClient_eq e result slot
    rw [same]
    exact List.suffix_cons _ _
  | deliveryFailed message nowMs owned ended =>
    unfold failCommandClient
    obtain ⟨notification, same⟩ := finishCommandClient_eq e.releaseSender _ e.commandSenderSlot
    rw [same]
    exact List.suffix_cons _ _

theorem step_extends :
    GuardedInvariant.Extends EspNowNetProtocolComponent.history EndpointStep :=
  fun _ _ step => step_history step

theorem move_extends :
    GuardedInvariant.Extends EspNowNetProtocolComponent.history EndpointMove := by
  intro e e' move
  cases move with
  | step step => exact step_history step
  | notification step =>
    cases step with
    | taken | delivered => exact List.suffix_cons _ _
    | cleared => exact List.suffix_rfl

end EspNowNet
