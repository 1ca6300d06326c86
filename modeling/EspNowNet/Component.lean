import EspNowNet.CommandDispatcher
import EspNowNet.Heartbeat
import EspNowNet.Radio
import EspNowNet.ReliableSender

/- The state of one protocol endpoint. The two command-client slots and the three inbound
   lanes are functions of their index, so one statement covers every build. -/
namespace EspNowNet

/-- The compile-time switches of the component. -/
structure EndpointBuild where
  dualCommandClient : Bool := false
  parallelInbound : Bool := false
  interruptibleInbound : Bool := false
  applicationHeartbeat : Bool := false
  identityObservation : Bool := false
  deriving DecidableEq

inductive CommandClientState where
  | idle
  | waitingForDeliveryAck
  | waitingForResult
  deriving DecidableEq

/-- One client slot: 0, and 1 in a dual-client build. -/
structure CommandClient where
  command : NetCommand := {}
  peer : PeerIndex := invalidPeerIndex
  startedMs : UInt32 := 0
  state : CommandClientState := .idle
  externalDeadline : Bool := false
  deriving DecidableEq

inductive InboundLane where
  | command
  | parallel
  | interrupt
  deriving DecidableEq

inductive ReliableMessageOwner where
  | none
  | apiCaller
  | dispatcherResult
  | commandClient
  | backgroundResult
  deriving DecidableEq

inductive RadioTransmissionOwner where
  | none
  | sender
  | ack
  | heartbeat
  deriving DecidableEq

/-- The mark of the frame that is being transmitted. `frame` is a history variable, the
    number the driver gave that frame. -/
structure RadioTransmission where
  owner : RadioTransmissionOwner := .none
  peer : PeerIndex := invalidPeerIndex
  frame : Nat := 0
  deriving DecidableEq

structure CommandResultNotification where
  result : NetResult := {}
  peer : PeerIndex := invalidPeerIndex
  ready : Bool := false
  deriving DecidableEq

structure BackgroundResult where
  transactionId : TransactionId := 0
  completionReady : Bool := false
  succeeded : Bool := false
  deriving DecidableEq

inductive PeerApplicationIdentityMatch where
  | matched
  | unconfigured
  | legacy
  | mismatch
  deriving DecidableEq

/-- The application source expected behind each peer. -/
structure PeerApplicationIdentity where
  expected : PeerIndex → Option (List UInt8) := fun _ => none

def PeerApplicationIdentity.check (identities : PeerApplicationIdentity) (peer : PeerIndex)
    (sourceId : BoundedText 63) (bootId : UInt64) : PeerApplicationIdentityMatch :=
  match identities.expected peer with
  | none => .unconfigured
  | some expected =>
    if peer ≥ 16 then .unconfigured
    else if sourceId.isEmpty ∨ bootId = 0 then .legacy
    else if cString expected = sourceId.chars then .matched
    else .mismatch

/-- An array of two observer pointers, filled from the front without repetition. -/
structure ObserverSlots where
  observers : List Nat
  distinct : observers.Nodup
  fits : observers.length ≤ 2
  deriving DecidableEq

namespace ObserverSlots

def empty : ObserverSlots := ⟨[], by simp, by simp⟩

theorem distinct_registered (s : ObserverSlots) {observer : Nat}
    (accepted : ¬ (observer ∈ s.observers ∨ s.observers.length ≥ 2)) :
    (s.observers ++ [observer]).Nodup := by
  refine List.nodup_append.mpr ⟨s.distinct, by simp, ?_⟩
  intro old member new single same
  exact accepted (.inl (List.mem_singleton.mp single ▸ same ▸ member))

theorem fits_registered (s : ObserverSlots) {observer : Nat}
    (accepted : ¬ (observer ∈ s.observers ∨ s.observers.length ≥ 2)) :
    (s.observers ++ [observer]).length ≤ 2 := by
  have room : s.observers.length < 2 := not_le.mp fun full => accepted (.inr full)
  simp only [List.length_append, List.length_singleton]
  omega

def register (s : ObserverSlots) (observer : Nat) : ObserverSlots :=
  if rejected : observer ∈ s.observers ∨ s.observers.length ≥ 2 then s
  else
    { observers := s.observers ++ [observer]
      distinct := s.distinct_registered rejected
      fits := s.fits_registered rejected }

end ObserverSlots

/-- A command client has two slots. -/
instance twoSlots : NeZero 2 := ⟨by decide⟩

/-- Where a consumed RESULT message goes. -/
inductive ResultRoute where
  | client (slot : Fin 2)
  | late
  | unsolicited
  | mailbox
  deriving DecidableEq

/-- What becomes visible outside the component, or what a later statement needs to know
    about the state in which something happened. -/
inductive EndpointEvent where
  | messageStarted (peer : PeerIndex) (envelope : EspNowFrameEnvelope) (data : List UInt8)
  | messageAcknowledged (peer : PeerIndex) (envelope : EspNowFrameEnvelope) (data : List UInt8)
  | messageRejected (peer : PeerIndex) (envelope : EspNowFrameEnvelope) (data : List UInt8)
  | ackReceived (peer : PeerIndex) (ack : EspNowAckPayload) (awaitedFrom : Option PeerIndex)
  | messageReady (inbound : EspNowInboundApplicationMessage)
  | frameSent (peer : PeerIndex) (data : List UInt8)
  | frameReceived (address : Vector UInt8 6) (data : List UInt8)
  | frameCompleted (reported inFlight : Nat)
  | transmissionReleased (reported marked : Nat)
  | transmissionAbandoned
  | radioEventsDiscarded (markedQueued : Bool)
  | sendReported (marked queueFull : Bool)
  | commandDeclared (transactionId : TransactionId)
  | commandStarted (slot : Fin 2) (peer : PeerIndex) (transactionId : TransactionId)
  | commandCancelled (slot : Fin 2) (peer : PeerIndex) (transactionId : TransactionId)
      (resultExpected : Bool)
  | externalDeadlineSet (slot : Fin 2)
  | commandAccepted (lane : InboundLane) (inbound : EspNowInboundApplicationMessage)
  | commandVerified (peer : PeerIndex) (command : NetCommand)
  | commandAnswered (peer : PeerIndex) (transactionId : TransactionId)
      (status : NetCommandHandlerStartStatus)
  | resultStaged (lane : InboundLane) (handedOn : Option NetResult)
  | resultTaken (lane : InboundLane) (pending : PendingNetResult)
  | resultRouted (route : ResultRoute) (inbound : EspNowInboundApplicationMessage)
  | commandFinished (slot : Fin 2) (peer : PeerIndex) (result : NetResult) (pending : Bool)
  | resultOffered (peer : PeerIndex) (result : NetResult)
  | resultDelivered (observer : Nat) (peer : PeerIndex) (result : NetResult)
  | unsolicitedDelivered (observer : Nat) (inbound : EspNowInboundApplicationMessage)
  | senderReset (owner : ReliableMessageOwner)
  | runtimeDisabled
  deriving DecidableEq

/-- `senderFrame` and `history` (newest first) are history variables: no function reads them. -/
structure EspNowNetProtocolComponent where
  build : EndpointBuild := {}
  parallelInbound : Bool := false
  interruptibleInbound : Bool := false
  observeApplicationIdentity : Bool := false
  verifiedCommandObserver : Bool := false
  peerApplicationIdentity : PeerApplicationIdentity := {}
  heartbeat : ApplicationHeartbeat := {}
  radio : EspIdfEspNowEncryptedRadio := {}
  runtime : EspNowProtocolRuntime := {}
  sender : ReliableMessageSender := {}
  lanes : InboundLane → InboundCommandDispatcher := fun _ => {}
  resultMessage : Option EspNowInboundApplicationMessage := none
  reliableMessageOwner : ReliableMessageOwner := .none
  background : BackgroundResult := {}
  clients : Fin 2 → CommandClient := fun _ => {}
  commandSenderSlot : Fin 2 := 0
  commandResultObservers : ObserverSlots := .empty
  unsolicitedResultObservers : ObserverSlots := .empty
  notification : CommandResultNotification := {}
  nextDeclarativeTransactionId : UInt64 := 1
  lastTerminalPeer : PeerIndex := invalidPeerIndex
  lastTerminalTransactionId : TransactionId := 0
  localBootId : UInt64 := 0
  ackSequence : UInt32 := 0
  transmission : RadioTransmission := {}
  runtimeEnabled : Bool := true
  failed : Bool := false
  senderFrame : Nat := 0
  history : List EndpointEvent := []

namespace EspNowNetProtocolComponent

def record (e : EspNowNetProtocolComponent) (event : EndpointEvent) :
    EspNowNetProtocolComponent :=
  { e with history := event :: e.history }

def setClient (e : EspNowNetProtocolComponent) (slot : Fin 2) (client : CommandClient) :
    EspNowNetProtocolComponent :=
  { e with clients := Function.update e.clients slot client }

/-- What the generated code configures before `setup`. -/
structure Configuration where
  build : EndpointBuild := {}
  parallelInbound : Bool := false
  interruptibleInbound : Bool := false
  observeApplicationIdentity : Bool := false
  verifiedCommandObserver : Bool := false
  peerApplicationIdentity : PeerApplicationIdentity := {}
  heartbeat : ApplicationHeartbeat := {}
  peers : PeerRegistry := .empty
  expectedChannel : UInt8 := 1
  handlerInstalled : Bool := false
  commandResultObservers : ObserverSlots := .empty
  unsolicitedResultObservers : ObserverSlots := .empty
  retryPolicy : EspNowRetryPolicy := {}

/-- `setup`, with the 64 random bits the boot id is drawn from. -/
def setup (config : Configuration) (random : UInt64) : EspNowNetProtocolComponent :=
  let localBootId := if random = 0 then 1 else random
  let runtime := ({} : EspNowProtocolRuntime).configure localBootId
  let sender := ({} : ReliableMessageSender).configure localBootId config.retryPolicy
  { build := config.build
    parallelInbound := config.parallelInbound
    interruptibleInbound := config.interruptibleInbound
    observeApplicationIdentity := config.observeApplicationIdentity
    verifiedCommandObserver := config.verifiedCommandObserver
    peerApplicationIdentity := config.peerApplicationIdentity
    heartbeat := config.heartbeat
    radio := { peers := config.peers, expectedChannel := config.expectedChannel, configured := true }
    runtime := runtime.2
    sender := sender.2
    lanes := fun _ => { handlerInstalled := config.handlerInstalled }
    commandResultObservers := config.commandResultObservers
    unsolicitedResultObservers := config.unsolicitedResultObservers
    localBootId
    failed :=
      (config.build.applicationHeartbeat && config.heartbeat.peer = invalidPeerIndex) ||
        !(runtime.1 && sender.1) }

end EspNowNetProtocolComponent

end EspNowNet
