import EspNowNet.RadioQueue
import EspNowNet.Reassembler
import EspNowNet.Reliability

/- The receiving side of an endpoint: reassembly per active peer, the mailbox of one
   application message, one delivery ACK to hand over and one application ACK to send. -/
namespace EspNowNet
open EspNowFrameCodec

inductive EspNowProtocolAcceptResult where
  | fragmentAccepted
  | applicationMessageReady
  | deliveryAckReady
  | duplicateAckReady
  | rejectedAckReady
  | invalidFrame
  deriving DecidableEq

structure EspNowInboundApplicationMessage where
  peerIndex : PeerIndex := 0
  message : EspNowReassembledMessage := {}
  deriving DecidableEq

structure EspNowPendingApplicationAck where
  peerIndex : PeerIndex := 0
  payload : EspNowAckPayload := {}
  deriving DecidableEq

/-- A slot of the source that pairs a value with a ready flag is an `Option` here. -/
structure EspNowProtocolRuntime where
  localBootId : UInt64 := 0
  reassembler : EspNowFrameReassembler := {}
  duplicates : EspNowDuplicateCache := {}
  deliveryAck : Option EspNowAckPayload := none
  applicationAck : Option EspNowPendingApplicationAck := none
  invalidFrameCount : UInt32 := 0
  duplicateCount : UInt32 := 0
  rejectedCount : UInt32 := 0
  activePeerIndex : PeerIndex := 0
  applicationPeerIndex : PeerIndex := 0
  applicationMessageReady : Bool := false
  assembling : Bool := false

namespace EspNowProtocolRuntime

def configure (r : EspNowProtocolRuntime) (localBootId : UInt64) :
    Bool × EspNowProtocolRuntime :=
  if localBootId = 0 ∨ r.localBootId ≠ 0 ∨ r.assembling ∨ r.applicationMessageReady ∨
      r.deliveryAck.isSome ∨ r.applicationAck.isSome then (false, r)
  else (true, { r with localBootId })

/-- The frame enters the reassembler. Another peer's frame drops a partial assembly, and
    so does a frame of another message, which is then tried once as a new start. -/
def collect (r : EspNowProtocolRuntime) (received : EspNowReceivedFrame) :
    Bool × EspNowProtocolRuntime :=
  let r :=
    if r.assembling ∧ received.peerIndex ≠ r.activePeerIndex then
      { r with reassembler := r.reassembler.reset, assembling := false }
    else r
  match r.reassembler.accept received.frame.bytes with
  | (true, reassembler) => (true, { r with reassembler })
  | (false, reassembler) =>
    if reassembler.lastError ≠ .correlationMismatch then (false, { r with reassembler })
    else
      let (accepted, reassembler) := reassembler.reset.accept received.frame.bytes
      (accepted, { r with reassembler, assembling := false })

def acceptDeliveryAck (r : EspNowProtocolRuntime) :
    EspNowProtocolAcceptResult × EspNowProtocolRuntime :=
  let released := r.reassembler.releaseComplete
  match EspNowAckCodec.decode r.reassembler.completeData with
  | none =>
    (.invalidFrame,
      { r with reassembler := released, invalidFrameCount := r.invalidFrameCount + 1 })
  | some decoded =>
    if r.deliveryAck.isSome then
      (.invalidFrame, { r with reassembler := released, rejectedCount := r.rejectedCount + 1 })
    else (.deliveryAckReady, { r with reassembler := released, deliveryAck := some decoded })

def acceptApplicationMessage (r : EspNowProtocolRuntime) (envelope : EspNowFrameEnvelope) :
    EspNowProtocolAcceptResult × EspNowProtocolRuntime :=
  let released := r.reassembler.releaseComplete
  if envelope.flags &&& flagAckRequired = 0 then
    (.invalidFrame,
      { r with reassembler := released, invalidFrameCount := r.invalidFrameCount + 1 })
  else
    let key := envelope.identity
    let answer (status : EspNowAckStatus) : Option EspNowPendingApplicationAck :=
      some ⟨r.activePeerIndex, ⟨key, status⟩⟩
    if r.duplicates.contains key then
      (.duplicateAckReady, { r with
        duplicateCount := r.duplicateCount + 1
        reassembler := released
        applicationAck := answer .duplicate })
    else if ¬ r.applicationMessageReady ∧ envelope.kind ≠ .ack then
      (.applicationMessageReady, { r with
        applicationPeerIndex := r.activePeerIndex
        applicationMessageReady := true
        duplicates := (r.duplicates.observe key).2
        applicationAck := answer .accepted })
    else
      (.rejectedAckReady, { r with
        rejectedCount := r.rejectedCount + 1
        reassembler := released
        applicationAck := answer .rejected })

/-- A complete message is checked and goes to one of the two ends. -/
def deliverComplete (r : EspNowProtocolRuntime) :
    EspNowProtocolAcceptResult × EspNowProtocolRuntime :=
  match r.reassembler.validateComplete with
  | (false, reassembler) =>
    (.invalidFrame, { r with reassembler, invalidFrameCount := r.invalidFrameCount + 1 })
  | (true, _) =>
    match r.reassembler.completeEnvelope with
    | none => (.invalidFrame, r)
    | some envelope =>
      if envelope.kind = .ack then r.acceptDeliveryAck else r.acceptApplicationMessage envelope

/-- The first fragment of an assembly makes its peer the active one. -/
def activate (r : EspNowProtocolRuntime) (peerIndex : PeerIndex) : EspNowProtocolRuntime :=
  if r.assembling then r else { r with activePeerIndex := peerIndex }

/-- The part of `accept` after the frame has entered the reassembler. -/
def assembled (r : EspNowProtocolRuntime) (peerIndex : PeerIndex) :
    EspNowProtocolAcceptResult × EspNowProtocolRuntime :=
  let r := r.activate peerIndex
  if ¬ r.reassembler.complete then (.fragmentAccepted, { r with assembling := true })
  else { r with assembling := false }.deliverComplete

def accept (r : EspNowProtocolRuntime) (received : EspNowReceivedFrame) :
    EspNowProtocolAcceptResult × EspNowProtocolRuntime :=
  if r.localBootId = 0 ∨ received.frame.isEmpty then (.invalidFrame, r)
  else if r.applicationMessageReady ∨ r.applicationAck.isSome then
    (.invalidFrame, { r with rejectedCount := r.rejectedCount + 1 })
  else
    match r.collect received with
    | (false, r) => (.invalidFrame, r)
    | (true, r) => r.assembled received.peerIndex

def peekApplicationMessage (r : EspNowProtocolRuntime) : Option EspNowInboundApplicationMessage :=
  if ¬ r.applicationMessageReady then none
  else
    match r.reassembler.completeEnvelope, BoundedBytes.assign r.reassembler.completeData with
    | some envelope, (true, data) => some ⟨r.applicationPeerIndex, ⟨envelope, data⟩⟩
    | _, _ => none

def takeApplicationMessage (r : EspNowProtocolRuntime) :
    Option EspNowInboundApplicationMessage × EspNowProtocolRuntime :=
  match r.peekApplicationMessage with
  | none => (none, r)
  | some message =>
    (some message, { r with
      reassembler := r.reassembler.releaseComplete, applicationMessageReady := false })

def applicationMessageKind (r : EspNowProtocolRuntime) : EspNowFrameKind :=
  if r.applicationMessageReady then (r.reassembler.completeEnvelope.map (·.kind)).getD .ack
  else .ack

def applicationMessageTransactionId (r : EspNowProtocolRuntime) : TransactionId :=
  if r.applicationMessageReady then
    (r.reassembler.completeEnvelope.map (·.transactionId)).getD 0
  else 0

def applicationMessagePeerIndex (r : EspNowProtocolRuntime) : PeerIndex :=
  if r.applicationMessageReady then r.applicationPeerIndex else invalidPeerIndex

def takeDeliveryAck (r : EspNowProtocolRuntime) :
    Option EspNowAckPayload × EspNowProtocolRuntime :=
  (r.deliveryAck, { r with deliveryAck := none })

def takeApplicationAck (r : EspNowProtocolRuntime) :
    Option EspNowPendingApplicationAck × EspNowProtocolRuntime :=
  (r.applicationAck, { r with applicationAck := none })

theorem acceptDeliveryAck_ready {r r' : EspNowProtocolRuntime}
    (run : r.acceptDeliveryAck = (.deliveryAckReady, r')) :
    ∃ decoded, EspNowAckCodec.decode r.reassembler.completeData = some decoded ∧
      r' = { r with
        reassembler := r.reassembler.releaseComplete, deliveryAck := some decoded } := by
  unfold acceptDeliveryAck at run
  cases decodes : EspNowAckCodec.decode r.reassembler.completeData with
  | none => simp [decodes] at run
  | some decoded =>
    simp only [decodes] at run
    split at run
    · simp at run
    · exact ⟨decoded, rfl, by simpa using run.symm⟩

theorem acceptApplicationMessage_ne_deliveryAck (r : EspNowProtocolRuntime)
    (envelope : EspNowFrameEnvelope) :
    (r.acceptApplicationMessage envelope).1 ≠ .deliveryAckReady := by
  unfold acceptApplicationMessage
  simp only
  repeat' split
  all_goals simp

/-- Only the two ends report an ACK or a message as ready. -/
theorem accept_cases {r r' : EspNowProtocolRuntime} {received : EspNowReceivedFrame}
    {result : EspNowProtocolAcceptResult} (run : r.accept received = (result, r')) :
    result = .invalidFrame ∨ result = .fragmentAccepted ∨
      ∃ collected, r.collect received = (true, collected) ∧
        { collected.activate received.peerIndex with assembling := false }.deliverComplete =
          (result, r') := by
  unfold accept at run
  split at run
  · exact Or.inl (by simpa using (congrArg Prod.fst run).symm)
  · split at run
    · exact Or.inl (by simpa using (congrArg Prod.fst run).symm)
    · split at run
      · exact Or.inl (by simpa using (congrArg Prod.fst run).symm)
      · rename_i collected gathered
        unfold assembled at run
        simp only at run
        split at run
        · exact Or.inr (Or.inl (by simpa using (congrArg Prod.fst run).symm))
        · exact Or.inr (Or.inr ⟨collected, gathered, run⟩)

theorem deliverComplete_cases (r : EspNowProtocolRuntime) :
    r.deliverComplete.1 = .invalidFrame ∨
      ∃ envelope, r.reassembler.validateComplete = (true, r.reassembler) ∧
        r.reassembler.completeEnvelope = some envelope ∧
        (envelope.kind = .ack ∧ r.deliverComplete = r.acceptDeliveryAck ∨
          envelope.kind ≠ .ack ∧ r.deliverComplete = r.acceptApplicationMessage envelope) := by
  unfold deliverComplete
  split
  · exact Or.inl rfl
  · rename_i reassembler valid
    have same : reassembler = r.reassembler := by
      unfold EspNowFrameReassembler.validateComplete at valid
      split at valid
      · split at valid <;> simp_all
      · simp at valid
    subst same
    split
    · exact Or.inl rfl
    · rename_i envelope found
      refine Or.inr ⟨envelope, valid, found, ?_⟩
      by_cases ack : envelope.kind = .ack
      · exact Or.inl ⟨ack, if_pos ack⟩
      · exact Or.inr ⟨ack, if_neg ack⟩

/-- A delivery ACK that is reported ready can be taken. -/
theorem accept_deliveryAck {r r' : EspNowProtocolRuntime} {received : EspNowReceivedFrame}
    (run : r.accept received = (.deliveryAckReady, r')) : ∃ ack, r'.deliveryAck = some ack := by
  rcases accept_cases run with invalid | fragment | ⟨collected, _, completed⟩
  · simp at invalid
  · simp at fragment
  · rcases deliverComplete_cases
      { collected.activate received.peerIndex with assembling := false } with
      invalid | ⟨envelope, _, _, ⟨_, same⟩ | ⟨_, same⟩⟩
    · simp [completed] at invalid
    · obtain ⟨decoded, _, rfl⟩ := acceptDeliveryAck_ready (same ▸ completed)
      exact ⟨decoded, rfl⟩
    · exact absurd (congrArg Prod.fst (same ▸ completed))
        (acceptApplicationMessage_ne_deliveryAck _ _)

/-- What a taken message says, the runtime has said before. -/
theorem takeApplicationMessage_some {r r' : EspNowProtocolRuntime}
    {inbound : EspNowInboundApplicationMessage}
    (taken : r.takeApplicationMessage = (some inbound, r')) :
    r.applicationMessageReady = true ∧
      r.applicationMessageKind = inbound.message.envelope.kind ∧
      r.applicationMessagePeerIndex = inbound.peerIndex ∧
      r.applicationMessageTransactionId = inbound.message.envelope.transactionId := by
  unfold takeApplicationMessage at taken
  split at taken
  · simp at taken
  · rename_i message peeked
    obtain ⟨same, _⟩ := Prod.mk.inj taken
    obtain rfl := Option.some.inj same
    unfold peekApplicationMessage at peeked
    split at peeked
    · simp at peeked
    · rename_i ready
      have on : r.applicationMessageReady = true := by simpa using ready
      split at peeked
      · rename_i envelope data found _
        obtain rfl := Option.some.inj peeked
        simp [applicationMessageKind, applicationMessagePeerIndex, applicationMessageTransactionId,
          on, found]
      · simp at peeked

end EspNowProtocolRuntime

end EspNowNet
