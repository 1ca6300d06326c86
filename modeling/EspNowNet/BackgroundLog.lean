import EspNowNet.Loop

/- A background result is started, its delivery ends, and its completion is taken. A log names
   these as they happen in a run, also where a callback makes the call. -/
namespace EspNowNet

inductive BackgroundAction where
  | started (transactionId : TransactionId)
  | ended (transactionId : TransactionId) (state : ReliableSenderState)
  | taken (transactionId : TransactionId) (succeeded : Bool)
  deriving DecidableEq

namespace EspNowNetProtocolComponent

/- The actions of an operation, latest first -/

/-- Only a start that returns true and a take that returns a completion are actions. -/
def callActions (e : EspNowNetProtocolComponent) : ControlCall → List BackgroundAction
  | .startBackgroundResult peer result =>
    if (e.startBackgroundResult peer result).1 then [.started result.transactionId] else []
  | .takeBackgroundResultCompletion =>
    match e.takeBackgroundResultCompletion.1 with
    | some (transactionId, succeeded) => [.taken transactionId succeeded]
    | none => []
  | _ => []

def callsActions (e : EspNowNetProtocolComponent) : List ControlCall → List BackgroundAction
  | [] => []
  | call :: script => (call.apply e).callsActions script ++ e.callActions call

/-- The observers are visited in turn. -/
def visitActions (visit : EspNowNetProtocolComponent → Nat → EspNowNetProtocolComponent)
    (actions : EspNowNetProtocolComponent → Nat → List BackgroundAction)
    (e : EspNowNetProtocolComponent) : List Nat → List BackgroundAction
  | [] => []
  | observer :: rest => visitActions visit actions (visit e observer) rest ++ actions e observer

def notificationActions (e : EspNowNetProtocolComponent) (env : EndpointEnvironment) :
    List BackgroundAction :=
  if ¬ e.notification.ready then []
  else
    let notification := e.notification
    let taken := { e with notification := { notification with ready := false } }.record
      (.resultOffered notification.peer notification.result)
    visitActions (deliverResult env notification)
      (fun e observer =>
        (e.record (.resultDelivered observer notification.peer notification.result)).callsActions
          (env.resultObserver observer))
      taken e.commandResultObservers.observers

def acceptActions (e : EspNowNetProtocolComponent) (env : EndpointEnvironment)
    (inbound : EspNowInboundApplicationMessage) (lane : InboundLane) : List BackgroundAction :=
  let dispatcher := e.lanes lane
  let answers := (env.lanes lane).answers
  let next := { e with
    lanes := Function.update e.lanes lane (dispatcher.accept inbound answers env.nowMs).2 }.record
      (.commandAccepted lane inbound)
  match dispatcher.acceptedCommand inbound with
  | none => []
  | some command =>
    let identity := e.identityCalls env inbound.peerIndex command
    let next := next.onCommandIdentity inbound.peerIndex command
    if dispatcher.handlerInstalled then
      (next.record (.commandAnswered inbound.peerIndex command.transactionId
        answers.start)).callsActions (identity ++ (env.lanes lane).startCalls)
    else next.callsActions identity

def unsolicitedActions (e : EspNowNetProtocolComponent) (env : EndpointEnvironment)
    (inbound : EspNowInboundApplicationMessage) : List BackgroundAction :=
  match EspNowResultCodec.decode inbound.message.envelope.transactionId
      inbound.message.data.bytes 0 with
  | .error _ => []
  | .ok _ =>
    visitActions (deliverUnsolicited env inbound)
      (fun e observer => (e.record (.unsolicitedDelivered observer inbound)).callsActions
        (env.unsolicitedObserver observer))
      e e.unsolicitedResultObservers.observers

def applicationMessageActions (e : EspNowNetProtocolComponent) (env : EndpointEnvironment) :
    List BackgroundAction :=
  if ¬ e.runtime.applicationMessageReady ∨ e.HoldsApplicationMessage ∨ e.WithholdsCommand then []
  else
    match e.runtime.takeApplicationMessage with
    | (none, _) => []
    | (some inbound, runtime) =>
      let taken := { e with runtime }
      match inbound.message.envelope.kind with
      | .command =>
        match e.commandLane inbound with
        | some lane => taken.acceptActions env inbound lane
        | none => []
      | .result =>
        match e.resultRoute with
        | .unsolicited =>
          (taken.record (.resultRouted .unsolicited inbound)).unsolicitedActions env inbound
        | .client _ | .late | .mailbox => []
      | .ack => []

def dispatcherActions (e : EspNowNetProtocolComponent) (env : EndpointEnvironment)
    (lane : InboundLane) : List BackgroundAction :=
  if ¬ e.laneActive lane then []
  else if (e.lanes lane).state = .active then
    (e.loopLane lane (env.lanes lane).answers env.nowMs).callsActions (env.lanes lane).loopCalls
  else []

/-- The delivery of a background result ends in the state the sender is then in. -/
def completionActions (e : EspNowNetProtocolComponent) : List BackgroundAction :=
  match e.reliableMessageOwner with
  | .backgroundResult =>
    match e.sender.state with
    | .acknowledged | .rejected | .timedOut =>
      [.ended e.sender.envelope.transactionId e.sender.state]
    | .idle | .ready | .frameInFlight | .waitingForAck => []
  | .none | .apiCaller | .dispatcherResult | .commandClient => []

/-- Each phase with its actions. -/
def loggedPhases (env : EndpointEnvironment) :
    List ((EspNowNetProtocolComponent → EspNowNetProtocolComponent) ×
      (EspNowNetProtocolComponent → List BackgroundAction)) :=
  (phases env).zip
    [(·.notificationActions env),
      fun _ => [],
      fun _ => [],
      (·.applicationMessageActions env),
      fun _ => [],
      fun _ => [],
      (·.dispatcherActions env .command),
      (·.dispatcherActions env .parallel),
      (·.dispatcherActions env .interrupt),
      fun _ => [],
      (·.completionActions),
      fun _ => [],
      fun _ => [],
      fun _ => [],
      fun _ => []]

def phasesActions (env : EndpointEnvironment) (e : EspNowNetProtocolComponent) :
    List ((EspNowNetProtocolComponent → EspNowNetProtocolComponent) ×
      (EspNowNetProtocolComponent → List BackgroundAction)) → List BackgroundAction
  | [] => []
  | (phase, actions) :: rest =>
    let e := e.driverEvents (env.driver rest.length)
    phasesActions env (phase e) rest ++ actions e

def loopActions (e : EspNowNetProtocolComponent) (env : EndpointEnvironment) :
    List BackgroundAction :=
  let e := e.polled env
  if ¬ e.radio.initialized ∨ e.failed then []
  else if ¬ e.runtimeEnabled then []
  else phasesActions env e (loggedPhases env)

def operationActions (e : EspNowNetProtocolComponent) : EndpointOperation → List BackgroundAction
  | .control call => e.callActions call
  | .driver _ => []
  | .loop env => e.loopActions env

def runActions (e : EspNowNetProtocolComponent) : List EndpointOperation → List BackgroundAction
  | [] => []
  | operation :: rest => (operation.apply e).runActions rest ++ e.operationActions operation

end EspNowNetProtocolComponent

end EspNowNet
