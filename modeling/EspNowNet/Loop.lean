import EspNowNet.Control

/- One `loop` iteration of the endpoint, phase by phase in the order of the source. The
   application's callbacks, the driver's callbacks between two phases and every answer from
   outside are part of the iteration's environment. -/
namespace EspNowNet

/-- What the driver's own task does to the radio at any time. -/
inductive DriverEvent where
  | sendCallback (position : Nat) (succeeded : Bool)
  | receiveCallback (address : Vector UInt8 6) (data : List UInt8)

/-- The handler's answers on one lane, and what it calls while it is being called. -/
structure LaneEnvironment where
  answers : NetCommandHandlerAnswers := {}
  startCalls : List ControlCall := []
  loopCalls : List ControlCall := []

/-- `millis()` is read again where a frame is received and where a delivery has ended. -/
structure EndpointEnvironment where
  nowMs : UInt32 := 0
  receivedMs : UInt32 := 0
  recoveryMs : UInt32 := 0
  failureMs : UInt32 := 0
  radio : RadioEnvironment := {}
  ackAccepted : Bool := true
  senderAccepted : Bool := true
  heartbeatAccepted : Bool := true
  resultObserver : Nat → List ControlCall := fun _ => []
  unsolicitedObserver : Nat → List ControlCall := fun _ => []
  verifiedCommandObserver : List ControlCall := []
  lanes : InboundLane → LaneEnvironment := fun _ => {}
  driver : Nat → List DriverEvent := fun _ => []

namespace EspNowNetProtocolComponent

def driverEvent (e : EspNowNetProtocolComponent) : DriverEvent → EspNowNetProtocolComponent
  | .sendCallback position succeeded =>
    let marked : Bool := e.transmission.owner ≠ .none ∧
      (e.radio.inAir[position]?.map (·.number)) = some e.transmission.frame
    let queueFull : Bool :=
      e.radio.sendCompletions.size = EspIdfEspNowEncryptedRadio.sendCompletionQueueCapacity
    { e with radio := e.radio.sendCallback position succeeded }.record (.sendReported marked queueFull)
  | .receiveCallback address data =>
    { e with radio := e.radio.receiveCallback address data }.record (.frameReceived address data)

def driverEvents (e : EspNowNetProtocolComponent) (events : List DriverEvent) :
    EspNowNetProtocolComponent :=
  events.foldl driverEvent e

def recoveryPermitted (e : EspNowNetProtocolComponent) : Bool :=
  e.transmission.owner = .none && e.reliableMessageOwner = .none && e.sender.state = .idle &&
    (e.clients 0).state = .idle && (!e.build.dualCommandClient || (e.clients 1).state = .idle)

def radioLoop (e : EspNowNetProtocolComponent) (env : EndpointEnvironment) :
    EspNowNetProtocolComponent :=
  { e with radio := (e.radio.setRecoveryPermitted e.recoveryPermitted).loop env.radio env.nowMs }

def heartbeatTick (e : EspNowNetProtocolComponent) (nowMs : UInt32) : EspNowNetProtocolComponent :=
  if e.build.applicationHeartbeat then { e with heartbeat := e.heartbeat.tick nowMs } else e

/- Ends of a command -/

def queueCommandResultNotification (e : EspNowNetProtocolComponent) (peer : PeerIndex)
    (result : NetResult) : EspNowNetProtocolComponent :=
  if e.commandResultObservers.observers.isEmpty ∨ e.notification.ready then e
  else { e with notification := { result, peer, ready := true } }

def finishCommandClient (e : EspNowNetProtocolComponent) (result : NetResult) (slot : Fin 2) :
    EspNowNetProtocolComponent :=
  let peer := (e.clients slot).peer
  ({ e with lastTerminalPeer := peer, lastTerminalTransactionId := result.transactionId }.record
    (.commandFinished slot peer result e.notification.ready)).clearCommandClient slot
    |>.queueCommandResultNotification peer result

def failureResult (client : CommandClient) (code : NetErrorCode) (message : String)
    (nowMs : UInt32) : NetResult :=
  { transactionId := client.command.transactionId
    transportFailure := true
    status := .failed
    latencyMs := nowMs - client.startedMs
    error :=
      { code, retryable := code = .timedOut || code = .connectionFailed
        message := errorMessage message }
    execution := { started := client.state = .waitingForResult } }

def failCommandClient (e : EspNowNetProtocolComponent) (code : NetErrorCode) (message : String)
    (nowMs : UInt32) (slot : Fin 2) : EspNowNetProtocolComponent :=
  e.finishCommandClient (failureResult (e.clients slot) code message nowMs) slot

/- Notification -/

def deliverResult (env : EndpointEnvironment) (notification : CommandResultNotification)
    (e : EspNowNetProtocolComponent) (observer : Nat) : EspNowNetProtocolComponent :=
  (e.record (.resultDelivered observer notification.peer notification.result)).calls
    (env.resultObserver observer)

def dispatchCommandResultNotification (e : EspNowNetProtocolComponent)
    (env : EndpointEnvironment) : EspNowNetProtocolComponent :=
  if ¬ e.notification.ready then e
  else
    let taken := { e with notification := { e.notification with ready := false } }.record
      (.resultOffered e.notification.peer e.notification.result)
    let notified := e.commandResultObservers.observers.foldl (deliverResult env e.notification) taken
    { notified with notification := { ready := notified.notification.ready } }

/- Radio events -/

def processSendCompletion (e : EspNowNetProtocolComponent) (nowMs : UInt32) :
    EspNowNetProtocolComponent :=
  match e.radio.takeSendCompletion with
  | (none, radio) => { e with radio }
  | (some completion, radio) =>
    let e := { e with radio }
    if e.transmission.owner = .none ∨ completion.peerIndex ≠ e.transmission.peer then e
    else
      let marked := e.transmission.frame
      let e :=
        if e.transmission.owner = .sender ∧ e.sender.frameInFlight then
          { e with sender := (e.sender.completeFrame completion.succeeded nowMs).2 }.record
            (.frameCompleted completion.frame e.senderFrame)
        else e
      { e with transmission := { frame := marked } }.record
        (.transmissionReleased completion.frame marked)

/-- The peer of the message that waits for just this ACK. -/
def awaitedFrom (e : EspNowNetProtocolComponent) (ack : EspNowAckPayload) : Option PeerIndex :=
  if e.sender.delivery.state = .waitingForAck ∧ ack.acknowledged = e.sender.delivery.key then
    some e.sender.peerIndex
  else none

/-- `sender_.accept_ack`; `peer`, where the ACK came from, is only noted. -/
def acceptDeliveryAck (e : EspNowNetProtocolComponent) (peer : PeerIndex)
    (ack : EspNowAckPayload) : EspNowNetProtocolComponent :=
  let sender := (e.sender.acceptAck ack).2
  let next := { e with sender }.record (.ackReceived peer ack (e.awaitedFrom ack))
  if sender.state = .acknowledged ∧ e.sender.state ≠ .acknowledged then
    next.record (.messageAcknowledged sender.peerIndex sender.envelope sender.message.bytes)
  else if sender.state = .rejected ∧ e.sender.state ≠ .rejected then
    next.record (.messageRejected sender.peerIndex sender.envelope sender.message.bytes)
  else next

def acceptProtocolFrame (e : EspNowNetProtocolComponent) (received : EspNowReceivedFrame) :
    EspNowNetProtocolComponent :=
  match e.runtime.accept received with
  | (.deliveryAckReady, runtime) =>
    match runtime.takeDeliveryAck with
    | (some ack, runtime) => { e with runtime }.acceptDeliveryAck received.peerIndex ack
    | (none, runtime) => { e with runtime }
  | (.applicationMessageReady, runtime) =>
    let e := { e with runtime }
    match runtime.peekApplicationMessage with
    | some inbound => e.record (.messageReady inbound)
    | none => e
  | (_, runtime) => { e with runtime }

def processReceivedFrame (e : EspNowNetProtocolComponent) (receivedMs : UInt32) :
    EspNowNetProtocolComponent :=
  match e.radio.takeReceivedFrame with
  | (none, radio) => { e with radio }
  | (some received, radio) =>
    let e := { e with radio }
    if e.build.applicationHeartbeat then
      match e.heartbeat.receive received e.localBootId receivedMs with
      | (true, heartbeat) => { e with heartbeat }
      | (false, _) => e.acceptProtocolFrame received
    else e.acceptProtocolFrame received

/- Application messages -/

def parallelActive (e : EspNowNetProtocolComponent) : Bool :=
  e.build.parallelInbound && e.parallelInbound

def interruptActive (e : EspNowNetProtocolComponent) : Bool :=
  e.build.interruptibleInbound && e.interruptibleInbound

def interruptLaneAvailable (e : EspNowNetProtocolComponent) : Bool :=
  e.interruptActive &&
    ((e.lanes .command).state = .active ||
      e.parallelActive && (e.lanes .parallel).state = .active) &&
    (e.lanes .interrupt).state = .idle

def parallelLaneAvailable (e : EspNowNetProtocolComponent) : Bool :=
  e.parallelActive && (e.lanes .parallel).state = .idle

def matchesClient (e : EspNowNetProtocolComponent) (slot : Fin 2) : Bool :=
  (e.clients slot).state = .waitingForResult &&
    e.runtime.applicationMessagePeerIndex = (e.clients slot).peer &&
    e.runtime.applicationMessageTransactionId = (e.clients slot).command.transactionId

def matchingCommandClient (e : EspNowNetProtocolComponent) : Option (Fin 2) :=
  if e.runtime.applicationMessageKind ≠ .result then none
  else if e.matchesClient 0 then some 0
  else if e.build.dualCommandClient ∧ e.matchesClient 1 then some 1
  else none

def inboundMatchesLastTerminal (e : EspNowNetProtocolComponent) : Bool :=
  e.lastTerminalTransactionId ≠ 0 && e.runtime.applicationMessageKind = .result &&
    e.runtime.applicationMessagePeerIndex = e.lastTerminalPeer &&
    e.runtime.applicationMessageTransactionId = e.lastTerminalTransactionId

def hasUnsolicitedResultObserver (e : EspNowNetProtocolComponent) : Bool :=
  !e.unsolicitedResultObservers.observers.isEmpty

/-- The message stays in the reassembler until its bounded consumer is ready. -/
def HoldsApplicationMessage (e : EspNowNetProtocolComponent) : Prop :=
  (e.runtime.applicationMessageKind = .command ∧ (e.lanes .command).state ≠ .idle ∧
      e.interruptLaneAvailable = false ∧ e.parallelLaneAvailable = false) ∨
    (e.runtime.applicationMessageKind = .result ∧ e.resultMessage.isSome ∧
      e.hasUnsolicitedResultObserver = false ∧ e.matchingCommandClient = none ∧
      e.inboundMatchesLastTerminal = false) ∨
    (e.runtime.applicationMessageKind = .result ∧ e.matchingCommandClient.isSome ∧
      e.notification.ready)

instance decidableHoldsApplicationMessage (e : EspNowNetProtocolComponent) :
    Decidable e.HoldsApplicationMessage :=
  inferInstanceAs (Decidable (_ ∨ _))

def validInterrupt (e : EspNowNetProtocolComponent) (inbound : EspNowInboundApplicationMessage) :
    Bool :=
  e.interruptLaneAvailable &&
    ((e.lanes .interrupt).canAcceptInterrupt inbound (e.lanes .command) ||
      e.parallelActive && (e.lanes .interrupt).canAcceptInterrupt inbound (e.lanes .parallel))

/-- An ordinary command does not use the lane that is kept for interrupts. -/
def WithholdsCommand (e : EspNowNetProtocolComponent) : Prop :=
  e.build.interruptibleInbound = true ∧ e.runtime.applicationMessageKind = .command ∧
    (e.lanes .command).state ≠ .idle ∧ e.parallelLaneAvailable = false ∧
    (e.runtime.peekApplicationMessage.any e.validInterrupt) = false

instance decidableWithholdsCommand (e : EspNowNetProtocolComponent) :
    Decidable e.WithholdsCommand :=
  inferInstanceAs (Decidable (_ ∧ _))

/-- The lane whose `accept` returns true, in the order the source tries them. -/
def commandLane (e : EspNowNetProtocolComponent) (inbound : EspNowInboundApplicationMessage) :
    Option InboundLane :=
  if e.interruptActive ∧
      ((e.lanes .interrupt).canAcceptInterrupt inbound (e.lanes .command) ∨
        e.parallelActive ∧ (e.lanes .interrupt).canAcceptInterrupt inbound (e.lanes .parallel)) ∧
      (e.lanes .interrupt).Accepts inbound then some .interrupt
  else if (e.lanes .command).Accepts inbound then some .command
  else if e.parallelActive ∧ (e.lanes .parallel).Accepts inbound then some .parallel
  else none

/-- `on_command_identity` only reaches an observer of the application when the source
    matches the one configured for the peer. -/
def Verifies (e : EspNowNetProtocolComponent) (peer : PeerIndex) (command : NetCommand) : Prop :=
  e.observeApplicationIdentity = true ∧ e.build.identityObservation = true ∧
    e.verifiedCommandObserver = true ∧
    e.peerApplicationIdentity.check peer command.sourceDeviceId command.sourceBootId = .matched

instance decidableVerifies (e : EspNowNetProtocolComponent) (peer : PeerIndex)
    (command : NetCommand) : Decidable (e.Verifies peer command) :=
  inferInstanceAs (Decidable (_ ∧ _))

def identityCalls (e : EspNowNetProtocolComponent) (env : EndpointEnvironment) (peer : PeerIndex)
    (command : NetCommand) : List ControlCall :=
  if e.Verifies peer command then env.verifiedCommandObserver else []

def onCommandIdentity (e : EspNowNetProtocolComponent) (peer : PeerIndex) (command : NetCommand) :
    EspNowNetProtocolComponent :=
  if e.Verifies peer command then e.record (.commandVerified peer command) else e

/-- `accept` on one lane. Nothing the callbacks can call reads or writes a dispatcher, so
    they run after it. -/
def acceptCommand (e : EspNowNetProtocolComponent) (env : EndpointEnvironment)
    (inbound : EspNowInboundApplicationMessage) (lane : InboundLane) : EspNowNetProtocolComponent :=
  let dispatcher := e.lanes lane
  let answers := (env.lanes lane).answers
  let next := { e with
    lanes := Function.update e.lanes lane (dispatcher.accept inbound answers env.nowMs).2 }.record
      (.commandAccepted lane inbound)
  match dispatcher.acceptedCommand inbound with
  | none => next
  | some command =>
    let identity := e.identityCalls env inbound.peerIndex command
    let next := next.onCommandIdentity inbound.peerIndex command
    if dispatcher.handlerInstalled then
      (next.record (.commandAnswered inbound.peerIndex command.transactionId answers.start)).calls
        (identity ++ (env.lanes lane).startCalls)
    else next.calls identity

def deliverUnsolicited (env : EndpointEnvironment) (inbound : EspNowInboundApplicationMessage)
    (e : EspNowNetProtocolComponent) (observer : Nat) : EspNowNetProtocolComponent :=
  (e.record (.unsolicitedDelivered observer inbound)).calls (env.unsolicitedObserver observer)

def dispatchUnsolicitedResult (e : EspNowNetProtocolComponent) (env : EndpointEnvironment)
    (inbound : EspNowInboundApplicationMessage) : EspNowNetProtocolComponent :=
  match EspNowResultCodec.decode inbound.message.envelope.transactionId inbound.message.data.bytes 0 with
  | .error _ => e
  | .ok _ =>
    e.unsolicitedResultObservers.observers.foldl (deliverUnsolicited env inbound) e

def processCommandClientResult (e : EspNowNetProtocolComponent)
    (inbound : EspNowInboundApplicationMessage) (nowMs : UInt32) (slot : Fin 2) :
    EspNowNetProtocolComponent :=
  let client := e.clients slot
  match EspNowResultCodec.decode client.command.transactionId inbound.message.data.bytes
      (nowMs - client.startedMs) with
  | .error _ => e.failCommandClient .protocolError "invalid functional result" nowMs slot
  | .ok result =>
    if result.status = .inProgress then e.queueCommandResultNotification client.peer result
    else e.finishCommandClient result slot

def resultRoute (e : EspNowNetProtocolComponent) : ResultRoute :=
  match e.matchingCommandClient with
  | some slot => .client slot
  | none =>
    if e.inboundMatchesLastTerminal then .late
    else if e.hasUnsolicitedResultObserver then .unsolicited
    else .mailbox

def routeResult (e : EspNowNetProtocolComponent) (env : EndpointEnvironment)
    (inbound : EspNowInboundApplicationMessage) (route : ResultRoute) :
    EspNowNetProtocolComponent :=
  let e := e.record (.resultRouted route inbound)
  match route with
  | .client slot => e.processCommandClientResult inbound env.nowMs slot
  | .late => e
  | .unsolicited => e.dispatchUnsolicitedResult env inbound
  | .mailbox => { e with resultMessage := some inbound }

def processApplicationMessage (e : EspNowNetProtocolComponent) (env : EndpointEnvironment) :
    EspNowNetProtocolComponent :=
  if ¬ e.runtime.applicationMessageReady ∨ e.HoldsApplicationMessage ∨ e.WithholdsCommand then e
  else
    match e.runtime.takeApplicationMessage with
    | (none, _) => e
    | (some inbound, runtime) =>
      let taken := { e with runtime }
      match inbound.message.envelope.kind with
      | .command =>
        match e.commandLane inbound with
        | some lane => taken.acceptCommand env inbound lane
        | none => taken
      | .result => taken.routeResult env inbound e.resultRoute
      | .ack => taken

/- Deadlines, dispatchers and the sender -/

def ResultOverdue (e : EspNowNetProtocolComponent) (nowMs : UInt32) (slot : Fin 2) : Prop :=
  (e.clients slot).state = .waitingForResult ∧ (e.clients slot).externalDeadline = false ∧
    nowMs - (e.clients slot).startedMs ≥ (e.clients slot).command.timeoutMs

instance decidableResultOverdue (e : EspNowNetProtocolComponent) (nowMs : UInt32) (slot : Fin 2) :
    Decidable (e.ResultOverdue nowMs slot) :=
  inferInstanceAs (Decidable (_ ∧ _))

def checkResultDeadline (e : EspNowNetProtocolComponent) (nowMs : UInt32) (slot : Fin 2) :
    EspNowNetProtocolComponent :=
  if e.ResultOverdue nowMs slot then
    e.failCommandClient .timedOut "functional result timed out" nowMs slot
  else e

def laneActive (e : EspNowNetProtocolComponent) : InboundLane → Bool
  | .command => true
  | .parallel => e.parallelActive
  | .interrupt => e.interruptActive

/-- `loop` on one lane. An active lane that gets a result notes whose it is. -/
def loopLane (e : EspNowNetProtocolComponent) (lane : InboundLane)
    (answers : NetCommandHandlerAnswers) (nowMs : UInt32) : EspNowNetProtocolComponent :=
  let dispatcher := e.lanes lane
  let looped := dispatcher.loop answers nowMs
  let next := { e with lanes := Function.update e.lanes lane looped }
  if dispatcher.state = .active ∧ looped.state = .resultReady then
    next.record (.resultStaged lane (dispatcher.handedOn answers nowMs))
  else next

/-- The handler is called, and may itself call the endpoint, only while its lane is active. -/
def dispatcherLoop (e : EspNowNetProtocolComponent) (env : EndpointEnvironment)
    (lane : InboundLane) : EspNowNetProtocolComponent :=
  if ¬ e.laneActive lane then e
  else
    let next := e.loopLane lane (env.lanes lane).answers env.nowMs
    if (e.lanes lane).state = .active then next.calls (env.lanes lane).loopCalls else next

def senderLoop (e : EspNowNetProtocolComponent) (nowMs : UInt32) : EspNowNetProtocolComponent :=
  { e with sender := e.sender.loop nowMs }

def releaseSender (e : EspNowNetProtocolComponent) : EspNowNetProtocolComponent :=
  { e with sender := e.sender.reset, reliableMessageOwner := .none }

/-- A timed-out delivery asks the radio to renew the peer and to restart. -/
def requestRecovery (e : EspNowNetProtocolComponent) (env : EndpointEnvironment) :
    EspNowNetProtocolComponent :=
  { e with
    radio := (e.radio.requestPeerRefresh e.sender.peerIndex).requestRadioRecovery env.radio
      env.recoveryMs }

def processOwnedSenderCompletion (e : EspNowNetProtocolComponent) (env : EndpointEnvironment) :
    EspNowNetProtocolComponent :=
  match e.reliableMessageOwner with
  | .commandClient =>
    let slot := e.commandSenderSlot
    match e.sender.state with
    | .acknowledged =>
      e.releaseSender.setClient slot { e.clients slot with state := .waitingForResult }
    | .rejected =>
      e.releaseSender.failCommandClient .remoteRejected "delivery rejected" env.failureMs slot
    | .timedOut =>
      (e.requestRecovery env).releaseSender.failCommandClient .timedOut
        "delivery acknowledgement timed out" env.failureMs slot
    | _ => e
  | .backgroundResult =>
    let completed (succeeded : Bool) (e : EspNowNetProtocolComponent) :=
      { e with background := { e.background with succeeded, completionReady := true } }.releaseSender
    match e.sender.state with
    | .acknowledged => completed true e
    | .rejected => completed false e
    | .timedOut => completed false (e.requestRecovery env)
    | _ => e
  | .dispatcherResult =>
    match e.sender.state with
    | .acknowledged | .rejected => e.releaseSender
    | .timedOut => (e.requestRecovery env).releaseSender
    | _ => e
  | .apiCaller | .none => e

/-- The interrupt lane's result goes first, then the command lane's. -/
def resultLane (e : EspNowNetProtocolComponent) : InboundLane :=
  if e.interruptActive ∧ (e.lanes .interrupt).hasResult then .interrupt
  else if e.parallelActive ∧ ¬ (e.lanes .command).hasResult ∧ (e.lanes .parallel).hasResult then
    .parallel
  else .command

def processDispatcher (e : EspNowNetProtocolComponent) : EspNowNetProtocolComponent :=
  if e.reliableMessageOwner ≠ .none ∨ e.sender.state ≠ .idle then e
  else
    let lane := e.resultLane
    match (e.lanes lane).takeResult with
    | (none, _) => e
    | (some pending, dispatcher) =>
      let e := { e with lanes := Function.update e.lanes lane dispatcher }.record
        (.resultTaken lane pending)
      match e.startSender pending.peerIndex .result pending.transactionId
          (some pending.payload.bytes) with
      | (false, e) => e
      | (true, e) => { e with reliableMessageOwner := .dispatcherResult }

/- Transmission -/

/-- `radio_.send_frame`, and the mark when the driver takes the frame. -/
def transmit (e : EspNowNetProtocolComponent) (owner : RadioTransmissionOwner) (peer : PeerIndex)
    (data : List UInt8) (accepted : Bool) : Bool × EspNowNetProtocolComponent :=
  match e.radio.sendFrame peer data accepted with
  | (false, radio) => (false, { e with radio })
  | (true, radio) =>
    (true, { e with
      radio, transmission := ⟨owner, peer, e.radio.transmitted⟩ }.record (.frameSent peer data))

def dispatchApplicationAck (e : EspNowNetProtocolComponent) (accepted : Bool) :
    EspNowNetProtocolComponent :=
  if e.transmission.owner ≠ .none then e
  else
    match e.runtime.takeApplicationAck with
    | (none, _) => e
    | (some pending, runtime) =>
      let e := { e with runtime }
      match EspNowAckCodec.encode pending.payload with
      | none => e
      | some payload =>
        let e := { e with ackSequence := nextSequence e.ackSequence }
        let envelope : EspNowFrameEnvelope :=
          { kind := .ack, sourceBootId := e.localBootId
            transactionId := pending.payload.acknowledged.transactionId
            sequence := e.ackSequence }
        match EspNowFrameCodec.encodeFragment envelope payload 0 with
        | .error _ => e
        | .ok frame => (e.transmit .ack pending.peerIndex frame.bytes accepted).2

def dispatchSenderFrame (e : EspNowNetProtocolComponent) (nowMs : UInt32) (accepted : Bool) :
    EspNowNetProtocolComponent :=
  if e.transmission.owner ≠ .none then e
  else
    match e.sender.takeFrame with
    | (none, sender) => { e with sender }
    | (some (peer, frame), sender) =>
      match { e with sender }.transmit .sender peer frame.bytes accepted with
      | (true, e) => { e with senderFrame := e.transmission.frame }
      | (false, e) => { e with sender := (e.sender.completeFrame false nowMs).2 }

def dispatchHeartbeat (e : EspNowNetProtocolComponent) (nowMs : UInt32) (accepted : Bool) :
    EspNowNetProtocolComponent :=
  if ¬ e.build.applicationHeartbeat ∨ e.heartbeat.peer = invalidPeerIndex ∨
      e.transmission.owner ≠ .none ∨ e.reliableMessageOwner ≠ .none ∨ e.sender.state ≠ .idle then e
  else
    match e.heartbeat.prepare e.localBootId nowMs with
    | (none, heartbeat) => { e with heartbeat }
    | (some packet, heartbeat) =>
      let (sent, e) := { e with heartbeat }.transmit .heartbeat e.heartbeat.peer packet.encode accepted
      { e with heartbeat := heartbeat.transmitted packet sent nowMs }

/- The iteration -/

/-- The phases of an enabled iteration, each preceded by what the driver does meanwhile. -/
def phases (env : EndpointEnvironment) :
    List (EspNowNetProtocolComponent → EspNowNetProtocolComponent) :=
  [(·.dispatchCommandResultNotification env),
    (·.processSendCompletion env.nowMs),
    (·.processReceivedFrame env.receivedMs),
    (·.processApplicationMessage env),
    (·.checkResultDeadline env.nowMs 0),
    fun e => if e.build.dualCommandClient then e.checkResultDeadline env.nowMs 1 else e,
    (·.dispatcherLoop env .command),
    (·.dispatcherLoop env .parallel),
    (·.dispatcherLoop env .interrupt),
    (·.senderLoop env.nowMs),
    (·.processOwnedSenderCompletion env),
    (·.processDispatcher),
    (·.dispatchApplicationAck env.ackAccepted),
    (·.dispatchSenderFrame env.nowMs env.senderAccepted),
    (·.dispatchHeartbeat env.nowMs env.heartbeatAccepted)]

def runPhases (env : EndpointEnvironment) (e : EspNowNetProtocolComponent) :
    List (EspNowNetProtocolComponent → EspNowNetProtocolComponent) → EspNowNetProtocolComponent
  | [] => e
  | phase :: rest => runPhases env (phase (e.driverEvents (env.driver rest.length))) rest

/-- The part of an iteration that also runs while the radio or the runtime is off. -/
def polled (e : EspNowNetProtocolComponent) (env : EndpointEnvironment) :
    EspNowNetProtocolComponent :=
  (e.radioLoop env).heartbeatTick env.nowMs

def loop (e : EspNowNetProtocolComponent) (env : EndpointEnvironment) :
    EspNowNetProtocolComponent :=
  let e := e.polled env
  if ¬ e.radio.initialized ∨ e.failed then e
  else if ¬ e.runtimeEnabled then e.discardRadioEvents
  else runPhases env e (phases env)

end EspNowNetProtocolComponent

/-- What happens to an endpoint between two moments in which it is observed. -/
inductive EndpointOperation where
  | control (call : ControlCall)
  | driver (event : DriverEvent)
  | loop (env : EndpointEnvironment)

def EndpointOperation.apply (e : EspNowNetProtocolComponent) :
    EndpointOperation → EspNowNetProtocolComponent
  | .control call => call.apply e
  | .driver event => e.driverEvent event
  | .loop env => e.loop env

def EspNowNetProtocolComponent.run (e : EspNowNetProtocolComponent)
    (operations : List EndpointOperation) : EspNowNetProtocolComponent :=
  operations.foldl EndpointOperation.apply e

end EspNowNet
