import EspNowNet.Frame
import EspNowNet.MessageModel
import EspNowNet.Reassembler

/- Wire form of a command. Version 2 appends the application identity, which version 1
   does not have. -/
namespace EspNowNet

inductive EspNowCommandCodecError where
  | invalidRequest
  | invalidPayload
  | unsupportedVersion
  deriving DecidableEq

namespace EspNowCommandCodec

def version : UInt8 := 1
def identityVersion : UInt8 := 2
def headerSize : Nat := 10
def maxSize : Nat := 511

def sourceBytes (request : NetCommand) : List UInt8 :=
  if request.sourceDeviceId.size = 0 then []
  else
    [UInt8.ofNat request.sourceDeviceId.size] ++
      BigEndian.write 8 request.sourceBootId.toNat ++ request.sourceDeviceId.chars

def encode (request : NetCommand) : Except EspNowCommandCodecError (BoundedBytes 511) :=
  if ¬ request.Valid then .error .invalidRequest
  else
    let deviceSize := request.deviceId.size
    let resourceSize := request.resource.size
    let commandSize := request.name.size
    let bodySize := request.payload.size
    let sourceSize := request.sourceDeviceId.size
    let total := headerSize + deviceSize + resourceSize + commandSize + bodySize +
      (if sourceSize = 0 then 0 else 9 + sourceSize)
    if deviceSize > 255 ∨ resourceSize > 255 ∨ commandSize > 255 ∨ bodySize > 65535 ∨
        total > maxSize then .error .invalidRequest
    else
      let bytes :=
        [if sourceSize = 0 then version else identityVersion, UInt8.ofNat deviceSize,
          UInt8.ofNat resourceSize, UInt8.ofNat commandSize] ++
          BigEndian.write 2 bodySize ++ BigEndian.write 4 request.timeoutMs.toNat ++
          request.deviceId.chars ++ request.resource.chars ++ request.name.chars ++
          request.payload.bytes ++ sourceBytes request
      match BoundedBytes.assign bytes with
      | (true, payload) => .ok payload
      | (false, _) => .error .invalidPayload

/-- The identity that follows the body of a version 2 payload: its size and boot id. -/
def decodeSource (data : List UInt8) (expected : Nat) : Option (Nat × UInt64) :=
  if byteAt data 0 ≠ identityVersion then some (0, 0)
  else if data.length < expected + 9 then none
  else
    let sourceSize := (byteAt data expected).toNat
    let sourceBootId := UInt64.ofNat (field data (expected + 1) 8)
    if sourceSize = 0 ∨ sourceSize > 63 ∨ sourceBootId = 0 ∨
        expected + 9 + sourceSize ≠ data.length then none
    else some (sourceSize, sourceBootId)

def slice (data : List UInt8) (offset size : Nat) : List UInt8 := (data.drop offset).take size

def decode (transactionId : TransactionId) (data : List UInt8) :
    Except EspNowCommandCodecError NetCommand :=
  if transactionId = 0 ∨ data.length < headerSize then .error .invalidPayload
  else if byteAt data 0 ≠ version ∧ byteAt data 0 ≠ identityVersion then .error .unsupportedVersion
  else
    let deviceSize := (byteAt data 1).toNat
    let resourceSize := (byteAt data 2).toNat
    let commandSize := (byteAt data 3).toNat
    let bodySize := field data 4 2
    let timeoutMs := UInt32.ofNat (field data 6 4)
    let expected := headerSize + deviceSize + resourceSize + commandSize + bodySize
    if deviceSize = 0 ∨ deviceSize > 63 ∨ resourceSize > 63 ∨ commandSize = 0 ∨
        commandSize > 47 ∨ bodySize > 256 ∨ timeoutMs = 0 ∨ expected > data.length ∨
        (byteAt data 0 = version ∧ expected ≠ data.length) then .error .invalidPayload
    else
      match decodeSource data expected with
      | none => .error .invalidPayload
      | some (sourceSize, sourceBootId) =>
        let source := slice data (expected + 9) sourceSize
        if source.contains 0 then .error .invalidPayload
        else
          let device := BoundedText.assign (slice data headerSize deviceSize)
          let resource := BoundedText.assign (slice data (headerSize + deviceSize) resourceSize)
          let name := BoundedText.assign
            (slice data (headerSize + deviceSize + resourceSize) commandSize)
          let payload := BoundedBytes.assign
            (slice data (headerSize + deviceSize + resourceSize + commandSize) bodySize)
          let sourceId := if sourceSize = 0 then (true, .clear) else BoundedText.assign source
          let request : NetCommand :=
            { transactionId, timeoutMs, sourceBootId, deviceId := device.2, resource := resource.2
              name := name.2, payload := payload.2, sourceDeviceId := sourceId.2 }
          if device.1 && resource.1 && name.1 && payload.1 && sourceId.1 && decide request.Valid then
            .ok request
          else .error .invalidPayload

theorem decode_transaction {transactionId : TransactionId} {data : List UInt8}
    {command : NetCommand} (decoded : decode transactionId data = .ok command) :
    command.transactionId = transactionId := by
  unfold decode at decoded
  split at decoded
  · cases decoded
  split at decoded
  · cases decoded
  dsimp only at decoded
  split at decoded
  · cases decoded
  split at decoded
  · cases decoded
  split at decoded
  · cases decoded
  -- with and without a source identity
  split at decoded <;> split at decoded
  · rw [← Except.ok.inj decoded]
  · cases decoded
  · rw [← Except.ok.inj decoded]
  · cases decoded

end EspNowCommandCodec

end EspNowNet
