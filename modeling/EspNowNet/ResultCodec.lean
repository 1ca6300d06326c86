import EspNowNet.Frame
import EspNowNet.MessageModel
import EspNowNet.Reassembler

/- Wire form of a result: a 20-byte header with flags and lengths, then the texts and
   snapshots that are present. -/
namespace EspNowNet

inductive EspNowResultCodecError where
  | invalidResult
  | payloadTooLarge
  | invalidPayload
  | unsupportedVersion
  deriving DecidableEq

def NetResultStatus.toByte : NetResultStatus → UInt8
  | .succeeded => 0
  | .inProgress => 1
  | .rejected => 2
  | .failed => 3

def NetResultStatus.ofByte? (byte : UInt8) : Option NetResultStatus :=
  [.succeeded, .inProgress, .rejected, .failed].find? (·.toByte = byte)

def NetStateCompleteness.toByte : NetStateCompleteness → UInt8
  | .notProvided => 0
  | .partialState => 1
  | .complete => 2

def NetStateCompleteness.ofByte? (byte : UInt8) : Option NetStateCompleteness :=
  [.notProvided, .partialState, .complete].find? (·.toByte = byte)

def NetErrorCode.toByte : NetErrorCode → UInt8
  | .none => 0
  | .invalidRequest => 1
  | .targetUnavailable => 2
  | .transportUnavailable => 3
  | .connectionFailed => 4
  | .authenticationFailed => 5
  | .timedOut => 6
  | .protocolError => 7
  | .remoteRejected => 8
  | .internalError => 9
  | .interrupted => 10

def NetErrorCode.ofByte? (byte : UInt8) : Option NetErrorCode :=
  [.none, .invalidRequest, .targetUnavailable, .transportUnavailable, .connectionFailed,
    .authenticationFailed, .timedOut, .protocolError, .remoteRejected, .internalError,
    .interrupted].find? (·.toByte = byte)

namespace EspNowResultCodec

def version : UInt8 := 1
def headerSize : Nat := 20
def flagStarted : UInt8 := 0x01
def flagEstimated : UInt8 := 0x02
def flagProgress : UInt8 := 0x04
def flagExpectedState : UInt8 := 0x08
def flagRemoteState : UInt8 := 0x10
def flagError : UInt8 := 0x20

def flag (condition : Bool) (value : UInt8) : UInt8 := if condition then value else 0

def flagsOf (result : NetResult) : UInt8 :=
  flag result.execution.started flagStarted |||
    flag result.execution.hasEstimatedCompletion flagEstimated |||
    flag result.execution.hasProgress flagProgress |||
    flag result.execution.hasExpectedFinalState flagExpectedState |||
    flag (result.remoteState.completeness ≠ .notProvided) flagRemoteState |||
    flag (result.error.code ≠ .none) flagError

def headerBytes (result : NetResult)
    (expectedSchema expectedData remoteSchema remoteData errorSize : Nat) : List UInt8 :=
  [version, result.status.toByte, flagsOf result,
    result.execution.expectedFinalState.completeness.toByte,
    result.remoteState.completeness.toByte, result.error.code.toByte,
    if result.error.retryable then 1 else 0, result.execution.progressPercent] ++
    BigEndian.write 4 result.execution.estimatedCompletionMs.toNat ++
    [UInt8.ofNat expectedSchema] ++ BigEndian.write 2 expectedData ++
    [UInt8.ofNat remoteSchema] ++ BigEndian.write 2 remoteData ++
    [UInt8.ofNat errorSize, 0]

def encode (result : NetResult) : Except EspNowResultCodecError (BoundedBytes 640) :=
  if result.consistent = false then .error .invalidResult
  else
    let expected := result.execution.expectedFinalState
    let remote := result.remoteState
    let hasExpected := result.execution.hasExpectedFinalState
    let expectedSchema := if hasExpected then expected.schema.chars else []
    let expectedData := if hasExpected then expected.data.bytes else []
    let hasRemote : Bool := remote.completeness ≠ .notProvided
    let remoteSchema := if hasRemote then remote.schema.chars else []
    let remoteData := if hasRemote then remote.data.bytes else []
    let hasError : Bool := result.error.code ≠ .none
    let errorText := if hasError then result.error.message.chars else []
    let total := headerSize + expectedSchema.length + expectedData.length +
      remoteSchema.length + remoteData.length + errorText.length
    if total > maxMessageSize then .error .payloadTooLarge
    else
      match BoundedBytes.assign
        (headerBytes result expectedSchema.length expectedData.length remoteSchema.length
            remoteData.length errorText.length ++
          expectedSchema ++ expectedData ++ remoteSchema ++ remoteData ++ errorText) with
      | (true, payload) => .ok payload
      | (false, _) => .error .payloadTooLarge

def flagSet (flags value : UInt8) : Bool := flags &&& value != 0

def flagsConsistent (flags : UInt8)
    (expectedSchema expectedData remoteSchema remoteData errorSize : Nat) : Bool :=
  (flagSet flags flagExpectedState == (expectedSchema != 0 && expectedData != 0)) &&
    (flagSet flags flagRemoteState == (remoteSchema != 0 && remoteData != 0)) &&
    (flagSet flags flagError == (errorSize != 0))

/-- One snapshot, with the offset after it. -/
def decodeState (data : List UInt8) (offset schemaSize dataSize : Nat)
    (completeness : NetStateCompleteness) : Option (NetStateSnapshot × Nat) :=
  if schemaSize = 0 ∧ dataSize = 0 then
    if completeness = .notProvided then some ({}, offset) else none
  else if schemaSize = 0 ∨ dataSize = 0 ∨ completeness = .notProvided then none
  else
    let schema := BoundedText.assign ((data.drop offset).take schemaSize)
    let body := BoundedBytes.assign ((data.drop (offset + schemaSize)).take dataSize)
    let state : NetStateSnapshot := { completeness, schema := schema.2, data := body.2 }
    if schema.1 && body.1 && state.consistent then some (state, offset + schemaSize + dataSize)
    else none

def decodeError (data : List UInt8) (offset errorSize : Nat) (code : NetErrorCode)
    (flags : UInt8) : Option NetError :=
  if flagSet flags flagError then
    match BoundedText.assign ((data.drop offset).take errorSize) with
    | (true, message) => some { code, retryable := byteAt data 6 ≠ 0, message }
    | (false, _) => none
  else some {}

def decodeBody (transactionId : TransactionId) (data : List UInt8) (latencyMs : UInt32)
    (status : NetResultStatus) (expectedCompleteness remoteCompleteness : NetStateCompleteness)
    (errorCode : NetErrorCode) : Except EspNowResultCodecError NetResult :=
  let flags := byteAt data 2
  let expectedSchema := (byteAt data 12).toNat
  let expectedData := field data 13 2
  let remoteSchema := (byteAt data 15).toNat
  let remoteData := field data 16 2
  let errorSize := (byteAt data 18).toNat
  if headerSize + expectedSchema + expectedData + remoteSchema + remoteData + errorSize ≠ data.length ∨
      expectedSchema > 31 ∨ remoteSchema > 31 ∨ expectedData > 256 ∨ remoteData > 256 ∨
      errorSize > 95 then .error .invalidPayload
  else
    match decodeState data headerSize expectedSchema expectedData expectedCompleteness with
    | none => .error .invalidPayload
    | some (expectedFinalState, offset) =>
      match decodeState data offset remoteSchema remoteData remoteCompleteness with
      | none => .error .invalidPayload
      | some (remoteState, offset) =>
        match decodeError data offset errorSize errorCode flags with
        | none => .error .invalidPayload
        | some error =>
          let result : NetResult :=
            { transactionId, status, remoteState, error, latencyMs
              execution :=
                { started := flagSet flags flagStarted
                  hasEstimatedCompletion := flagSet flags flagEstimated
                  hasProgress := flagSet flags flagProgress
                  hasExpectedFinalState := flagSet flags flagExpectedState
                  estimatedCompletionMs := UInt32.ofNat (field data 8 4)
                  progressPercent := byteAt data 7
                  expectedFinalState } }
          if offset + errorSize = data.length ∧
              flagsConsistent flags expectedSchema expectedData remoteSchema remoteData errorSize ∧
              result.consistent then .ok result
          else .error .invalidPayload

def decode (transactionId : TransactionId) (data : List UInt8) (latencyMs : UInt32) :
    Except EspNowResultCodecError NetResult :=
  if transactionId = 0 ∨ data.length < headerSize then .error .invalidPayload
  else if byteAt data 0 ≠ version then .error .unsupportedVersion
  else if byteAt data 2 &&& 0xC0 ≠ 0 then .error .invalidPayload
  else
    match NetResultStatus.ofByte? (byteAt data 1), NetStateCompleteness.ofByte? (byteAt data 3),
      NetStateCompleteness.ofByte? (byteAt data 4), NetErrorCode.ofByte? (byteAt data 5) with
    | some status, some expectedCompleteness, some remoteCompleteness, some errorCode =>
      decodeBody transactionId data latencyMs status expectedCompleteness remoteCompleteness errorCode
    | _, _, _, _ => .error .invalidPayload

/-- A decoded result is of the transaction the caller expects, and is no failure of the
    transport. -/
theorem decodeBody_relayed {transactionId : TransactionId} {data : List UInt8}
    {latencyMs : UInt32} {status : NetResultStatus}
    {expectedCompleteness remoteCompleteness : NetStateCompleteness} {errorCode : NetErrorCode}
    {result : NetResult} (decoded : decodeBody transactionId data latencyMs status
      expectedCompleteness remoteCompleteness errorCode = .ok result) :
    result.transactionId = transactionId ∧ result.transportFailure = false := by
  unfold decodeBody at decoded
  simp only at decoded
  split at decoded
  · simp at decoded
  · split at decoded
    · simp at decoded
    · split at decoded
      · simp at decoded
      · split at decoded
        · simp at decoded
        · split at decoded
          · exact Except.ok.inj decoded ▸ ⟨rfl, rfl⟩
          · simp at decoded

theorem decode_relayed {transactionId : TransactionId} {data : List UInt8}
    {latencyMs : UInt32} {result : NetResult}
    (decoded : decode transactionId data latencyMs = .ok result) :
    result.transactionId = transactionId ∧ result.transportFailure = false := by
  unfold decode at decoded
  split at decoded
  · simp at decoded
  · split at decoded
    · simp at decoded
    · split at decoded
      · simp at decoded
      · split at decoded
        · exact decodeBody_relayed decoded
        · simp at decoded

theorem decode_transaction {transactionId : TransactionId} {data : List UInt8}
    {latencyMs : UInt32} {result : NetResult}
    (decoded : decode transactionId data latencyMs = .ok result) :
    result.transactionId = transactionId :=
  (decode_relayed decoded).1

theorem decode_transportFailure {transactionId : TransactionId} {data : List UInt8}
    {latencyMs : UInt32} {result : NetResult}
    (decoded : decode transactionId data latencyMs = .ok result) :
    result.transportFailure = false :=
  (decode_relayed decoded).2

end EspNowResultCodec

end EspNowNet
