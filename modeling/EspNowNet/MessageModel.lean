import EspNowNet.BoundedValue

/- The neutral command and result records, with the consistency rules the codecs and
   the dispatchers rely on. -/
namespace EspNowNet

inductive NetResultStatus where
  | succeeded
  | inProgress
  | rejected
  | failed
  deriving DecidableEq

inductive NetStateCompleteness where
  | notProvided
  | partialState
  | complete
  deriving DecidableEq

inductive NetErrorCode where
  | none
  | invalidRequest
  | targetUnavailable
  | transportUnavailable
  | connectionFailed
  | authenticationFailed
  | timedOut
  | protocolError
  | remoteRejected
  | internalError
  | interrupted
  deriving DecidableEq

structure NetCommand where
  transactionId : TransactionId := 0
  deviceId : BoundedText 63 := .clear
  resource : BoundedText 63 := .clear
  name : BoundedText 47 := .clear
  payload : BoundedBytes 256 := .clear
  sourceDeviceId : BoundedText 63 := .clear
  sourceBootId : UInt64 := 0
  timeoutMs : UInt32 := 0
  deriving DecidableEq

def NetCommand.Valid (command : NetCommand) : Prop :=
  command.transactionId ≠ 0 ∧ command.deviceId.isEmpty = false ∧ command.name.isEmpty = false ∧
    command.timeoutMs ≠ 0 ∧ (command.sourceDeviceId.isEmpty = true ↔ command.sourceBootId = 0)

instance NetCommand.decidableValid (command : NetCommand) : Decidable command.Valid :=
  inferInstanceAs (Decidable (_ ∧ _ ∧ _ ∧ _ ∧ (_ ↔ _)))

structure NetStateSnapshot where
  completeness : NetStateCompleteness := .notProvided
  schema : BoundedText 31 := .clear
  data : BoundedBytes 256 := .clear
  deriving DecidableEq

def NetStateSnapshot.consistent (snapshot : NetStateSnapshot) : Bool :=
  if snapshot.completeness = .notProvided then snapshot.schema.isEmpty && snapshot.data.isEmpty
  else !snapshot.schema.isEmpty && !snapshot.data.isEmpty

structure NetExecutionContext where
  started : Bool := false
  hasEstimatedCompletion : Bool := false
  estimatedCompletionMs : UInt32 := 0
  hasProgress : Bool := false
  progressPercent : UInt8 := 0
  hasExpectedFinalState : Bool := false
  expectedFinalState : NetStateSnapshot := {}
  deriving DecidableEq

def NetExecutionContext.consistent (execution : NetExecutionContext) : Bool :=
  if execution.hasEstimatedCompletion && (!execution.started || execution.estimatedCompletionMs == 0) then
    false
  else if execution.hasProgress && (!execution.started || execution.progressPercent > 100) then
    false
  else if execution.hasExpectedFinalState then
    execution.started && execution.expectedFinalState.consistent &&
      execution.expectedFinalState.completeness != .notProvided
  else
    execution.expectedFinalState.consistent &&
      execution.expectedFinalState.completeness == .notProvided

structure NetError where
  code : NetErrorCode := .none
  retryable : Bool := false
  message : BoundedText 95 := .clear
  deriving DecidableEq

def NetError.consistent (error : NetError) : Bool :=
  if error.code = .none then !error.retryable && error.message.isEmpty else !error.message.isEmpty

/-- `transportFailure` is local metadata: a delivery timeout is not an authoritative
    failure of the remote execution. It never goes on the wire. -/
structure NetResult where
  transportFailure : Bool := false
  transactionId : TransactionId := 0
  status : NetResultStatus := .failed
  execution : NetExecutionContext := {}
  remoteState : NetStateSnapshot := {}
  error : NetError := {}
  latencyMs : UInt32 := 0
  deriving DecidableEq

def NetResult.consistent (result : NetResult) : Bool :=
  if result.transactionId = 0 || !result.execution.consistent || !result.remoteState.consistent ||
      !result.error.consistent then false
  else
    match result.status with
    | .inProgress =>
      result.execution.started && result.execution.hasEstimatedCompletion &&
        result.error.code == .none
    | .succeeded => result.execution.started && result.error.code == .none
    | .rejected | .failed => result.error.code != .none

def NetResult.Terminal (result : NetResult) : Prop := result.status ≠ .inProgress

instance NetResult.decidableTerminal (result : NetResult) : Decidable result.Terminal :=
  inferInstanceAs (Decidable (_ ≠ _))

/-- A message text of the source as a bounded value. -/
def errorMessage (text : String) : BoundedText 95 :=
  (BoundedText.assign (text.toList.map fun c => UInt8.ofNat c.toNat)).2

end EspNowNet
