import EspNowNet.BoundedValue
import EspNowNet.Library.BigEndian

/- Radio frame codec. One message of at most 640 bytes is cut into at most three
   fragments, and every fragment repeats the message's envelope, size and CRC. -/
namespace EspNowNet

inductive EspNowFrameKind where
  | command
  | result
  | ack
  deriving DecidableEq

def EspNowFrameKind.toByte : EspNowFrameKind → UInt8
  | .command => 1
  | .result => 2
  | .ack => 3

/-- Only the three named kinds pass the codec's kind check. -/
def EspNowFrameKind.ofByte? (byte : UInt8) : Option EspNowFrameKind :=
  if byte = 1 then some .command
  else if byte = 2 then some .result
  else if byte = 3 then some .ack
  else none

inductive EspNowFrameError where
  | none
  | invalidArgument
  | messageTooLarge
  | invalidMagic
  | unsupportedVersion
  | invalidKind
  | invalidFragment
  | correlationMismatch
  | checksumMismatch
  deriving DecidableEq

structure EspNowFrameEnvelope where
  kind : EspNowFrameKind := .command
  flags : UInt8 := 0
  sourceBootId : UInt64 := 0
  transactionId : TransactionId := 0
  sequence : UInt32 := 0
  deriving DecidableEq

def EspNowFrameEnvelope.identity (envelope : EspNowFrameEnvelope) : DeliveryIdentity :=
  ⟨envelope.sourceBootId, envelope.transactionId, envelope.sequence⟩

def maxFrameSize : Nat := 250
def maxMessageSize : Nat := 640

abbrev EspNowRadioFrame := BoundedBytes 250

structure EspNowReassembledMessage where
  envelope : EspNowFrameEnvelope := {}
  data : BoundedBytes 640 := .clear
  deriving DecidableEq

namespace EspNowFrameCodec

def magic : Nat := 0x5458
def version : UInt8 := 1
def headerSize : Nat := 36
def maxFragmentData : Nat := 214
def maxFragments : Nat := 3
def flagAckRequired : UInt8 := 0x01

def fragmentCount (messageSize : Nat) : Nat :=
  if messageSize = 0 ∨ messageSize > maxMessageSize then 0
  else (messageSize + maxFragmentData - 1) / maxFragmentData

def crc32Bit (crc : UInt32) : UInt32 :=
  (crc >>> 1) ^^^ (0xEDB88320 &&& (0 - (crc &&& 1)))

def crc32Byte (crc : UInt32) (byte : UInt8) : UInt32 :=
  Nat.repeat crc32Bit 8 (crc ^^^ byte.toUInt32)

def crc32 (data : List UInt8) : UInt32 := ~~~(data.foldl crc32Byte 0xFFFFFFFF)

/-- The bytes of the message that fragment `index` carries. -/
def fragmentData (message : List UInt8) (index : Nat) : List UInt8 :=
  (message.drop (index * maxFragmentData)).take maxFragmentData

def header (envelope : EspNowFrameEnvelope) (message : List UInt8) (index : Nat) : List UInt8 :=
  BigEndian.write 2 magic ++
    [version, envelope.kind.toByte, envelope.flags, UInt8.ofNat index,
      UInt8.ofNat (fragmentCount message.length), 0] ++
    BigEndian.write 8 envelope.sourceBootId.toNat ++
    BigEndian.write 8 envelope.transactionId.toNat ++
    BigEndian.write 4 envelope.sequence.toNat ++
    BigEndian.write 2 message.length ++
    BigEndian.write 2 (fragmentData message index).length ++
    BigEndian.write 4 (crc32 message).toNat

def encodeFragment (envelope : EspNowFrameEnvelope) (message : List UInt8)
    (index : Nat) : Except EspNowFrameError EspNowRadioFrame :=
  let count := fragmentCount message.length
  if envelope.sourceBootId = 0 ∨ envelope.transactionId = 0 ∨ envelope.sequence = 0 ∨ count = 0 then
    .error (if message.length > maxMessageSize then .messageTooLarge else .invalidArgument)
  else if index ≥ count then .error .invalidFragment
  else
    match BoundedBytes.assign (header envelope message index ++ fragmentData message index) with
    | (true, frame) => .ok frame
    | (false, _) => .error .invalidFragment

@[simp] theorem header_length (envelope : EspNowFrameEnvelope) (message : List UInt8)
    (index : Nat) : (header envelope message index).length = headerSize := by
  simp [header, headerSize]

theorem fragmentData_length (message : List UInt8) (index : Nat) :
    (fragmentData message index).length =
      min maxFragmentData (message.length - index * maxFragmentData) := by
  simp [fragmentData]

theorem fragmentCount_eq {size : Nat} (positive : 0 < size) (small : size ≤ maxMessageSize) :
    fragmentCount size = (size + maxFragmentData - 1) / maxFragmentData :=
  if_neg (by omega)

theorem fragmentCount_bounds {size : Nat} (positive : 0 < size) (small : size ≤ maxMessageSize) :
    0 < fragmentCount size ∧ fragmentCount size ≤ maxFragments := by
  unfold fragmentCount
  simp only [maxMessageSize] at small
  split <;> simp_all only [maxMessageSize, maxFragmentData, maxFragments] <;> omega

theorem fragmentCount_eq_zero_iff (size : Nat) :
    fragmentCount size = 0 ↔ size = 0 ∨ size > maxMessageSize := by
  unfold fragmentCount
  split
  · rename_i outside
    simp [outside]
  · rename_i inside
    simp only [maxFragmentData, inside, iff_false]
    omega

theorem fragmentCount_le (size : Nat) : fragmentCount size ≤ maxFragments := by
  unfold fragmentCount
  split <;> simp_all only [maxMessageSize, maxFragmentData, maxFragments] <;> omega

theorem fragmentCount_short {size : Nat} (short : size ≤ maxFragmentData) :
    fragmentCount size ≤ 1 := by
  unfold fragmentCount
  split
  · exact Nat.zero_le 1
  · simp only [maxFragmentData] at short ⊢
    omega

theorem frame_fits (envelope : EspNowFrameEnvelope) (message : List UInt8) (index : Nat) :
    (header envelope message index ++ fragmentData message index).length ≤ 250 := by
  simp only [List.length_append, header_length, fragmentData_length, headerSize, maxFragmentData]
  omega

/-- The fragment of a message as a frame, for an index the message has. -/
def fragmentFrame (envelope : EspNowFrameEnvelope) (message : List UInt8)
    (index : Nat) : EspNowRadioFrame :=
  ⟨header envelope message index ++ fragmentData message index, frame_fits envelope message index⟩

theorem encodeFragment_eq_ok {envelope : EspNowFrameEnvelope} {message : List UInt8}
    {index : Nat} (valid : envelope.identity.Valid) (inside : index < fragmentCount message.length) :
    encodeFragment envelope message index = .ok (fragmentFrame envelope message index) := by
  obtain ⟨boot, transaction, sequence⟩ := valid
  simp only [EspNowFrameEnvelope.identity] at boot transaction sequence
  have counted : fragmentCount message.length ≠ 0 := by omega
  simp only [encodeFragment, boot, transaction, sequence, counted, or_self, ↓reduceIte,
    ge_iff_le, Nat.not_le.mpr inside, BoundedBytes.assign_fits (frame_fits envelope message index)]
  rfl

theorem encodeFragment_ok_iff (envelope : EspNowFrameEnvelope) (message : List UInt8)
    (index : Nat) (frame : EspNowRadioFrame) :
    encodeFragment envelope message index = .ok frame ↔
      envelope.identity.Valid ∧ index < fragmentCount message.length ∧
        frame = fragmentFrame envelope message index := by
  constructor
  · intro run
    have inside : envelope.identity.Valid ∧ index < fragmentCount message.length := by
      unfold encodeFragment at run
      simp only at run
      split at run
      · simp at run
      · rename_i fields
        split at run
        · simp at run
        · simp only [not_or] at fields
          exact ⟨⟨fields.1, fields.2.1, fields.2.2.1⟩, by omega⟩
    rw [encodeFragment_eq_ok inside.1 inside.2] at run
    exact ⟨inside.1, inside.2, (Except.ok.inj run).symm⟩
  · rintro ⟨valid, inside, rfl⟩
    exact encodeFragment_eq_ok valid inside

end EspNowFrameCodec

end EspNowNet
