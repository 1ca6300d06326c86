import EspNowNet.Frame

/- Fragment reassembly into one 640-byte buffer. A frame first passes the codec's
   basic checks; only then is it compared with the assembly in progress. -/
namespace EspNowNet
open EspNowFrameCodec

/-- A fixed-size memory area. A copy never changes its size. -/
structure Buffer (size : Nat) where
  bytes : List UInt8
  sized : bytes.length = size
  deriving DecidableEq

namespace Buffer
variable {size : Nat}

def zero : Buffer size := ⟨List.replicate size 0, by simp⟩

def memcpy (buffer : Buffer size) (offset : Nat) (source : List UInt8) : Buffer size :=
  ⟨(buffer.bytes.take offset ++ source ++ buffer.bytes.drop (offset + source.length)).take size, by
    have := buffer.sized
    simp only [List.length_take, List.length_append, List.length_drop]
    omega⟩

def slice (buffer : Buffer size) (offset length : Nat) : List UInt8 :=
  (buffer.bytes.drop offset).take length

end Buffer

/-- What a frame says once it has passed every check that does not depend on the
    assembly in progress. -/
structure FragmentFrame where
  envelope : EspNowFrameEnvelope
  messageSize : Nat
  fragmentIndex : Nat
  fragmentCount : Nat
  checksum : UInt32
  data : List UInt8
  deriving DecidableEq

def byteAt (frame : List UInt8) (index : Nat) : UInt8 := frame.getD index 0

def field (frame : List UInt8) (offset width : Nat) : Nat :=
  BigEndian.read ((frame.drop offset).take width)

namespace EspNowFrameReassembler

def validateFields (frame : List UInt8) (kind : EspNowFrameKind) :
    Except EspNowFrameError FragmentFrame :=
  let fragmentIndex := (byteAt frame 5).toNat
  let count := (byteAt frame 6).toNat
  let messageSize := field frame 28 2
  let fragmentSize := field frame 30 2
  if messageSize = 0 ∨ messageSize > maxMessageSize ∨ count = 0 ∨ count > maxFragments ∨
      count ≠ fragmentCount messageSize ∨ fragmentIndex ≥ count ∨
      fragmentSize > maxFragmentData ∨ frame.length ≠ headerSize + fragmentSize then
    .error .invalidFragment
  else if fragmentSize ≠ min maxFragmentData (messageSize - fragmentIndex * maxFragmentData) then
    .error .invalidFragment
  else
    let envelope : EspNowFrameEnvelope :=
      { kind, flags := byteAt frame 4
        sourceBootId := UInt64.ofNat (field frame 8 8)
        transactionId := UInt64.ofNat (field frame 16 8)
        sequence := UInt32.ofNat (field frame 24 4) }
    if envelope.sourceBootId = 0 ∨ envelope.transactionId = 0 ∨ envelope.sequence = 0 then
      .error .invalidFragment
    else
      .ok ⟨envelope, messageSize, fragmentIndex, count, UInt32.ofNat (field frame 32 4),
        frame.drop headerSize⟩

def validate (frame : List UInt8) : Except EspNowFrameError FragmentFrame :=
  if frame.length < headerSize ∨ frame.length > maxFrameSize then .error .invalidFragment
  else if field frame 0 2 ≠ magic then .error .invalidMagic
  else if byteAt frame 2 ≠ version then .error .unsupportedVersion
  else
    match EspNowFrameKind.ofByte? (byteAt frame 3) with
    | none => .error .invalidKind
    | some kind => validateFields frame kind

end EspNowFrameReassembler

structure EspNowFrameReassembler where
  envelope : EspNowFrameEnvelope := {}
  message : Buffer 640 := .zero
  messageSize : Nat := 0
  checksum : UInt32 := 0
  fragmentCount : Nat := 0
  receivedMask : Nat := 0
  lastError : EspNowFrameError := .none
  deriving DecidableEq

namespace EspNowFrameReassembler

def reset (r : EspNowFrameReassembler) : EspNowFrameReassembler :=
  { r with envelope := {}, messageSize := 0, checksum := 0, fragmentCount := 0, receivedMask := 0 }

def fail (r : EspNowFrameReassembler) (error : EspNowFrameError) : EspNowFrameReassembler :=
  { r with lastError := error }

def Matches (r : EspNowFrameReassembler) (f : FragmentFrame) : Prop :=
  f.envelope = r.envelope ∧ f.messageSize = r.messageSize ∧
    f.fragmentCount = r.fragmentCount ∧ f.checksum = r.checksum

instance decidableMatches (r : EspNowFrameReassembler) (f : FragmentFrame) :
    Decidable (r.Matches f) :=
  inferInstanceAs (Decidable (_ ∧ _))

def begin (r : EspNowFrameReassembler) (f : FragmentFrame) : EspNowFrameReassembler :=
  { r with
    envelope := f.envelope, messageSize := f.messageSize
    fragmentCount := f.fragmentCount, checksum := f.checksum }

def store (r : EspNowFrameReassembler) (f : FragmentFrame) : EspNowFrameReassembler :=
  { r with
    message := r.message.memcpy (f.fragmentIndex * maxFragmentData) f.data
    receivedMask := r.receivedMask ||| 1 <<< f.fragmentIndex
    lastError := .none }

def accept (r : EspNowFrameReassembler) (frame : List UInt8) : Bool × EspNowFrameReassembler :=
  match validate frame with
  | .error error => (false, r.fail error)
  | .ok f =>
    if r.receivedMask = 0 then (true, (r.begin f).store f)
    else if r.Matches f then (true, r.store f)
    else (false, r.fail .correlationMismatch)

def complete (r : EspNowFrameReassembler) : Bool :=
  r.fragmentCount ≠ 0 && r.receivedMask == 2 ^ r.fragmentCount - 1

def payload (r : EspNowFrameReassembler) : List UInt8 := r.message.bytes.take r.messageSize

def validateComplete (r : EspNowFrameReassembler) : Bool × EspNowFrameReassembler :=
  if r.complete then
    if crc32 r.payload = r.checksum then (true, r)
    else (false, r.reset.fail .checksumMismatch)
  else (false, r)

def completeEnvelope (r : EspNowFrameReassembler) : Option EspNowFrameEnvelope :=
  if r.complete then some r.envelope else none

def completeData (r : EspNowFrameReassembler) : List UInt8 :=
  if r.complete then r.payload else []

def releaseComplete (r : EspNowFrameReassembler) : EspNowFrameReassembler :=
  if r.complete then r.reset else r

def take (r : EspNowFrameReassembler) :
    Option EspNowReassembledMessage × EspNowFrameReassembler :=
  match r.validateComplete with
  | (false, r) => (none, r)
  | (true, r) =>
    match BoundedBytes.assign r.payload with
    | (true, data) => (some ⟨r.envelope, data⟩, r.reset.fail .none)
    | (false, _) => (none, r.reset.fail .invalidFragment)

end EspNowFrameReassembler

end EspNowNet
