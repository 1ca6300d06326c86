import EspNowNet.CommandCodec
import EspNowNet.ProtocolRuntime
import EspNowNet.ResultCodec

/- Inbound command dispatcher. The command handler belongs to the application: what it
   answers when it is called is an argument of the call that consults it, so a statement
   over all answers covers every handler. -/
namespace EspNowNet

inductive NetCommandHandlerStartStatus where
  | started
  | busy
  | invalidCommand
  | rejected
  deriving DecidableEq

/-- The handler's answers during one call: to `start`, to `has_result` and to
    `take_result`. -/
structure NetCommandHandlerAnswers where
  start : NetCommandHandlerStartStatus := .rejected
  hasResult : Bool := false
  takeResult : Option NetResult := none

inductive InboundCommandDispatcherState where
  | idle
  | active
  | resultReady
  deriving DecidableEq

structure PendingNetResult where
  peerIndex : PeerIndex := invalidPeerIndex
  transactionId : TransactionId := 0
  payload : BoundedBytes 640 := .clear
  terminal : Bool := true
  deriving DecidableEq

structure InboundCommandDispatcher where
  handlerInstalled : Bool := false
  command : NetCommand := {}
  pending : PendingNetResult := {}
  peerIndex : PeerIndex := invalidPeerIndex
  transactionId : TransactionId := 0
  startedMs : UInt32 := 0
  state : InboundCommandDispatcherState := .idle
  deriving DecidableEq

namespace InboundCommandDispatcher

def reset (d : InboundCommandDispatcher) : InboundCommandDispatcher :=
  { d with
    command := {}, pending := {}, peerIndex := invalidPeerIndex, transactionId := 0
    startedMs := 0, state := .idle }

def stageResult (d : InboundCommandDispatcher) (result : NetResult) :
    Bool × InboundCommandDispatcher :=
  match EspNowResultCodec.encode result with
  | .error _ => (false, d)
  | .ok payload =>
    (true, { d with
      pending := ⟨d.peerIndex, d.transactionId, payload, decide result.Terminal⟩
      state := .resultReady })

def completeResult (d : InboundCommandDispatcher) (result : NetResult) :
    InboundCommandDispatcher :=
  match d.stageResult result with
  | (true, d) => d
  | (false, d) =>
    let fallback : NetResult :=
      { transactionId := d.transactionId, status := .failed, latencyMs := result.latencyMs
        error := { code := .internalError, message := errorMessage "failed to encode command result" } }
    match d.stageResult fallback with
    | (true, d) => d
    | (false, d) => d.reset

def completeFailure (d : InboundCommandDispatcher) (code : NetErrorCode) (message : String)
    (retryable : Bool) (nowMs : UInt32) : InboundCommandDispatcher :=
  d.completeResult
    { transactionId := d.transactionId, status := .failed, latencyMs := nowMs - d.startedMs
      error := { code, retryable, message := errorMessage message } }

def Accepts (d : InboundCommandDispatcher) (inbound : EspNowInboundApplicationMessage) : Prop :=
  d.state = .idle ∧ inbound.peerIndex ≠ invalidPeerIndex ∧
    inbound.message.envelope.kind = .command ∧ inbound.message.envelope.transactionId ≠ 0

instance decidableAccepts (d : InboundCommandDispatcher)
    (inbound : EspNowInboundApplicationMessage) : Decidable (d.Accepts inbound) :=
  inferInstanceAs (Decidable (_ ∧ _))

def decodeCommand (inbound : EspNowInboundApplicationMessage) :
    Except EspNowCommandCodecError NetCommand :=
  EspNowCommandCodec.decode inbound.message.envelope.transactionId inbound.message.data.bytes

/-- The command `accept` shows to the identity observer and starts on the handler. -/
def acceptedCommand (d : InboundCommandDispatcher) (inbound : EspNowInboundApplicationMessage) :
    Option NetCommand :=
  if d.Accepts inbound then (decodeCommand inbound).toOption else none

theorem decodes_of_acceptedCommand {d : InboundCommandDispatcher}
    {inbound : EspNowInboundApplicationMessage} {command : NetCommand}
    (shown : d.acceptedCommand inbound = some command) : decodeCommand inbound = .ok command := by
  unfold acceptedCommand at shown
  split at shown
  · cases decoded : decodeCommand inbound with
    | error _ => simp [decoded, Except.toOption] at shown
    | ok found =>
      rw [decoded] at shown
      exact congrArg Except.ok (Option.some.inj shown)
  · cases shown

def accept (d : InboundCommandDispatcher) (inbound : EspNowInboundApplicationMessage)
    (answers : NetCommandHandlerAnswers) (nowMs : UInt32) : Bool × InboundCommandDispatcher :=
  if ¬ d.Accepts inbound then (false, d)
  else
    let d := { d with
      peerIndex := inbound.peerIndex
      transactionId := inbound.message.envelope.transactionId
      startedMs := nowMs
      command := {} }
    match decodeCommand inbound with
    | .error _ =>
      (true, d.completeFailure .invalidRequest "invalid ESP-NOW command payload" false nowMs)
    | .ok command =>
      let d := { d with command }
      if ¬ d.handlerInstalled then
        (true, d.completeFailure .targetUnavailable "no command handler registered" true nowMs)
      else
        match answers.start with
        | .started => (true, { d with state := .active })
        | .invalidCommand =>
          (true, d.completeFailure .invalidRequest "command handler rejected invalid command" false
            nowMs)
        | .busy => (true, d.completeFailure .targetUnavailable "command handler busy" true nowMs)
        | .rejected =>
          (true, d.completeFailure .remoteRejected "command handler rejected command" false nowMs)

theorem accept_active {d : InboundCommandDispatcher} {inbound : EspNowInboundApplicationMessage}
    {answers : NetCommandHandlerAnswers} {command : NetCommand}
    (shown : d.acceptedCommand inbound = some command) (installed : d.handlerInstalled = true)
    (started : answers.start = .started) (nowMs : UInt32) :
    (d.accept inbound answers nowMs).2.state = .active := by
  have accepts : d.Accepts inbound := by
    by_contra refused
    rw [acceptedCommand, if_neg refused] at shown
    cases shown
  have decodes := decodes_of_acceptedCommand shown
  simp [accept, accepts, decodes, installed, started]

/-- An interrupt is the `stop` of the operation another dispatcher is running. -/
def canAcceptInterrupt (d : InboundCommandDispatcher) (inbound : EspNowInboundApplicationMessage)
    (operation : InboundCommandDispatcher) : Bool :=
  if d.state ≠ .idle ∨ operation.state ≠ .active ∨ inbound.peerIndex ≠ operation.peerIndex then
    false
  else
    match decodeCommand inbound with
    | .error _ => false
    | .ok incoming =>
      incoming.name.chars = [115, 116, 111, 112] ∧  -- "stop"
        incoming.deviceId = operation.command.deviceId ∧
        incoming.resource = operation.command.resource ∧
        incoming.sourceDeviceId = operation.command.sourceDeviceId ∧
        incoming.sourceBootId = operation.command.sourceBootId

def acceptInterrupt (d : InboundCommandDispatcher) (inbound : EspNowInboundApplicationMessage)
    (operation : InboundCommandDispatcher) (answers : NetCommandHandlerAnswers) (nowMs : UInt32) :
    Bool × InboundCommandDispatcher :=
  if d.canAcceptInterrupt inbound operation then d.accept inbound answers nowMs else (false, d)

/-- Only an active dispatcher calls its handler: `cancel` after the command's timeout,
    otherwise `loop`, `has_result` and `take_result`. -/
def loop (d : InboundCommandDispatcher) (answers : NetCommandHandlerAnswers) (nowMs : UInt32) :
    InboundCommandDispatcher :=
  if d.state ≠ .active then d
  else if nowMs - d.startedMs ≥ d.command.timeoutMs then
    d.completeFailure .timedOut "remote command execution timed out" false nowMs
  else if ¬ answers.hasResult then d
  else
    match answers.takeResult with
    | none => d.completeFailure .internalError "command handler returned invalid result" false nowMs
    | some result =>
      if result.transactionId ≠ d.transactionId ∨ result.consistent = false then
        d.completeFailure .internalError "command handler returned invalid result" false nowMs
      else d.completeResult result

/-- What `loop` hands on of the handler's answer. A failure it makes up itself is none of it. -/
def handedOn (d : InboundCommandDispatcher) (answers : NetCommandHandlerAnswers) (nowMs : UInt32) :
    Option NetResult :=
  if nowMs - d.startedMs ≥ d.command.timeoutMs then none
  else answers.takeResult.filter fun result =>
    result.transactionId = d.transactionId ∧ (EspNowResultCodec.encode result).isOk

def hasResult (d : InboundCommandDispatcher) : Bool := d.state = .resultReady

def takeResult (d : InboundCommandDispatcher) :
    Option PendingNetResult × InboundCommandDispatcher :=
  if ¬ d.hasResult then (none, d)
  else if d.pending.terminal then (some d.pending, d.reset)
  else (some d.pending, { d with pending := {}, state := .active })

end InboundCommandDispatcher

end EspNowNet
