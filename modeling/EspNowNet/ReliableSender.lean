import EspNowNet.Reliability

/- Reliable message sender: one bounded message, its fragments in order, and the
   delivery machine that decides when the whole message is sent again. -/
namespace EspNowNet
open EspNowFrameCodec

inductive ReliableSenderState where
  | idle
  | ready
  | frameInFlight
  | waitingForAck
  | acknowledged
  | rejected
  | timedOut
  deriving DecidableEq

structure ReliableMessageSender where
  localBootId : UInt64 := 0
  sequence : UInt32 := 0
  peerIndex : PeerIndex := invalidPeerIndex
  delivery : EspNowReliableDelivery := {}
  envelope : EspNowFrameEnvelope := {}
  message : BoundedBytes 640 := .clear
  fragmentCount : Nat := 0
  fragmentIndex : Nat := 0
  frameInFlight : Bool := false
  state : ReliableSenderState := .idle
  deriving DecidableEq

namespace ReliableMessageSender

def configure (s : ReliableMessageSender) (localBootId : UInt64) (policy : EspNowRetryPolicy) :
    Bool × ReliableMessageSender :=
  if s.state ≠ .idle ∨ localBootId = 0 then (false, s)
  else
    match s.delivery.configure policy with
    | (false, _) => (false, s)
    | (true, delivery) => (true, { s with delivery, localBootId })

def reset (s : ReliableMessageSender) : ReliableMessageSender :=
  { s with
    delivery := s.delivery.reset, message := .clear, envelope := {}
    peerIndex := invalidPeerIndex, fragmentCount := 0, fragmentIndex := 0
    frameInFlight := false, state := .idle }

/-- The sender with a stored message, its new sequence and its fragment counters, before
    the delivery machine has accepted the key. -/
def load (s : ReliableMessageSender) (peerIndex : PeerIndex) (kind : EspNowFrameKind)
    (transactionId : TransactionId) (message : BoundedBytes 640) : ReliableMessageSender :=
  { s with
    message, peerIndex
    sequence := nextSequence s.sequence
    envelope := ⟨kind, flagAckRequired, s.localBootId, transactionId, nextSequence s.sequence⟩
    fragmentCount := EspNowFrameCodec.fragmentCount message.size
    fragmentIndex := 0
    frameInFlight := false }

def start (s : ReliableMessageSender) (peerIndex : PeerIndex) (kind : EspNowFrameKind)
    (transactionId : TransactionId) (message : Option (List UInt8)) :
    Bool × ReliableMessageSender :=
  if s.localBootId = 0 ∨ s.state ≠ .idle ∨ peerIndex = invalidPeerIndex ∨
      transactionId = 0 ∨ kind = .ack then (false, s)
  else
    match message with
    | none => (false, s)
    | some bytes =>
      match BoundedBytes.assign bytes with
      | (false, cleared) => (false, { s with message := cleared })
      | (true, stored) =>
        if EspNowFrameCodec.fragmentCount bytes.length = 0 then
          (false, { s with message := stored })
        else
          let loaded := s.load peerIndex kind transactionId stored
          match s.delivery.start loaded.envelope.identity with
          | (false, _) => (false, loaded.reset)
          | (true, delivery) => (true, { loaded with delivery, state := .ready })

def loop (s : ReliableMessageSender) (nowMs : UInt32) : ReliableMessageSender :=
  let s := { s with delivery := s.delivery.loop nowMs }
  match s.delivery.state with
  | .readyToSend =>
    if s.frameInFlight then s else { s with fragmentIndex := 0, state := .ready }
  | .waitingForAck => { s with state := .waitingForAck }
  | .acknowledged => { s with state := .acknowledged }
  | .rejected => { s with state := .rejected }
  | .timedOut => { s with state := .timedOut }
  | .idle => s

def takeFrame (s : ReliableMessageSender) :
    Option (PeerIndex × EspNowRadioFrame) × ReliableMessageSender :=
  if s.state ≠ .ready ∨ s.frameInFlight ∨ s.fragmentIndex ≥ s.fragmentCount then (none, s)
  else
    match encodeFragment s.envelope s.message.bytes s.fragmentIndex with
    | .error _ => (none, s)
    | .ok frame => (some (s.peerIndex, frame), { s with frameInFlight := true, state := .frameInFlight })

/-- The attempt is over: its ACK timer starts, unless every attempt is used up. -/
def markSent (s : ReliableMessageSender) (nowMs : UInt32) : Bool × ReliableMessageSender :=
  match s.delivery.markSent nowMs with
  | (false, _) => (false, s)
  | (true, delivery) => (true, { s with delivery, state := .waitingForAck })

def completeFrame (s : ReliableMessageSender) (succeeded : Bool) (nowMs : UInt32) :
    Bool × ReliableMessageSender :=
  if ¬ s.frameInFlight then (false, s)
  else
    let s := { s with frameInFlight := false }
    if ¬ succeeded then s.markSent nowMs
    else
      let s := { s with fragmentIndex := s.fragmentIndex + 1 }
      if s.fragmentIndex < s.fragmentCount then (true, { s with state := .ready })
      else s.markSent nowMs

def acceptAck (s : ReliableMessageSender) (ack : EspNowAckPayload) :
    Bool × ReliableMessageSender :=
  match s.delivery.acceptAck ack with
  | (false, _) => (false, s)
  | (true, delivery) =>
    (true, { s with
      delivery
      state := if delivery.state = .acknowledged then .acknowledged else .rejected })

end ReliableMessageSender

/-- The public operations of a sender. -/
inductive SenderCall where
  | configure (localBootId : UInt64) (policy : EspNowRetryPolicy)
  | start (peerIndex : PeerIndex) (kind : EspNowFrameKind) (transactionId : TransactionId)
      (message : Option (List UInt8))
  | loop (nowMs : UInt32)
  | takeFrame
  | completeFrame (succeeded : Bool) (nowMs : UInt32)
  | acceptAck (ack : EspNowAckPayload)
  | reset

def SenderCall.apply (s : ReliableMessageSender) : SenderCall → ReliableMessageSender
  | .configure localBootId policy => (s.configure localBootId policy).2
  | .start peerIndex kind transactionId message => (s.start peerIndex kind transactionId message).2
  | .loop nowMs => s.loop nowMs
  | .takeFrame => s.takeFrame.2
  | .completeFrame succeeded nowMs => (s.completeFrame succeeded nowMs).2
  | .acceptAck ack => (s.acceptAck ack).2
  | .reset => s.reset

namespace ReliableMessageSender

/-- A sender some sequence of public calls has produced from a fresh one. -/
def Reachable (s : ReliableMessageSender) : Prop :=
  ∃ calls : List SenderCall, s = calls.foldl SenderCall.apply {}

end ReliableMessageSender

end EspNowNet
