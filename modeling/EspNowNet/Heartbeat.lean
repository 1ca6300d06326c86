import EspNowNet.RadioQueue
import EspNowNet.Reassembler

/- Application heartbeat: PING and PONG packets that never enter command dispatch, one
   exchange waiting for its PONG and one reply waiting for the transmitter. -/
namespace EspNowNet

structure HeartbeatPacket where
  kind : UInt8 := 1
  requesterBoot : UInt64 := 0
  sequence : UInt32 := 0
  responderBoot : UInt64 := 0
  deriving DecidableEq

namespace HeartbeatPacket

def packetSize : Nat := 25

/-- "HB01" -/
def magic : List UInt8 := [72, 66, 48, 49]

def hasMagic (data : List UInt8) : Bool := data.length ≥ 4 ∧ data.take 4 = magic

def littleEndian (width value : Nat) : List UInt8 := (BigEndian.write width value).reverse

def encode (packet : HeartbeatPacket) : List UInt8 :=
  magic ++ [packet.kind] ++ littleEndian 8 packet.requesterBoot.toNat ++
    littleEndian 4 packet.sequence.toNat ++ littleEndian 8 packet.responderBoot.toNat

def littleField (data : List UInt8) (offset width : Nat) : Nat :=
  BigEndian.read ((data.drop offset).take width).reverse

def decode (data : List UInt8) : Option HeartbeatPacket :=
  if hasMagic data = false ∨ data.length ≠ packetSize ∨ (byteAt data 4 ≠ 1 ∧ byteAt data 4 ≠ 2) then
    none
  else
    let value : HeartbeatPacket :=
      { kind := byteAt data 4
        requesterBoot := UInt64.ofNat (littleField data 5 8)
        sequence := UInt32.ofNat (littleField data 13 4)
        responderBoot := UInt64.ofNat (littleField data 17 8) }
    if value.requesterBoot = 0 ∨ value.sequence = 0 ∨ (value.kind = 2 ∧ value.responderBoot = 0) then
      none
    else some value

end HeartbeatPacket

structure HeartbeatExchange where
  request : HeartbeatPacket := {}
  startedMs : UInt32 := 0
  timeoutMs : UInt32 := 0
  pending : Bool := false
  deriving DecidableEq

namespace HeartbeatExchange

def start (_ : HeartbeatExchange) (request : HeartbeatPacket) (nowMs timeoutMs : UInt32) :
    HeartbeatExchange :=
  { request, startedMs := nowMs, timeoutMs, pending := true }

def expired (x : HeartbeatExchange) (nowMs : UInt32) : Bool :=
  x.pending && nowMs - x.startedMs ≥ x.timeoutMs

def accept (x : HeartbeatExchange) (reply : HeartbeatPacket) (nowMs : UInt32) :
    Bool × HeartbeatExchange :=
  if ¬ x.pending ∨ x.expired nowMs ∨ reply.kind ≠ 2 ∨ reply.responderBoot = 0 ∨
      reply.requesterBoot ≠ x.request.requesterBoot ∨ reply.sequence ≠ x.request.sequence then
    (false, x)
  else (true, { x with pending := false })

def reset (x : HeartbeatExchange) : HeartbeatExchange := { x with pending := false }

end HeartbeatExchange

structure ApplicationHeartbeat where
  peer : PeerIndex := invalidPeerIndex
  intervalMs : UInt32 := 0
  timeoutMs : UInt32 := 1500
  exchange : HeartbeatExchange := {}
  reply : HeartbeatPacket := {}
  replyPending : Bool := false
  lastAttemptMs : UInt32 := 0
  replyReceivedMs : UInt32 := 0
  sequence : UInt32 := 0
  sent : UInt32 := 0
  ok : UInt32 := 0
  lost : UInt32 := 0
  sendErrors : UInt32 := 0
  deriving DecidableEq

namespace ApplicationHeartbeat

/-- `true` when the frame was a heartbeat frame, whatever became of it. -/
def receive (h : ApplicationHeartbeat) (received : EspNowReceivedFrame) (localBootId : UInt64)
    (nowMs : UInt32) : Bool × ApplicationHeartbeat :=
  if HeartbeatPacket.hasMagic received.frame.bytes = false then (false, h)
  else if received.peerIndex ≠ h.peer then (true, h)
  else
    match HeartbeatPacket.decode received.frame.bytes with
    | none => (true, h)
    | some packet =>
      if packet.kind = 1 then
        if h.replyPending then (true, h)
        else
          (true, { h with
            reply := { packet with kind := 2, responderBoot := localBootId }
            replyReceivedMs := nowMs
            replyPending := true })
      else
        match h.exchange.accept packet nowMs with
        | (true, exchange) => (true, { h with exchange, ok := h.ok + 1 })
        | (false, _) => (true, h)

def tick (h : ApplicationHeartbeat) (nowMs : UInt32) : ApplicationHeartbeat :=
  let h :=
    if h.exchange.expired nowMs then { h with exchange := h.exchange.reset, lost := h.lost + 1 }
    else h
  if h.replyPending ∧ nowMs - h.replyReceivedMs ≥ h.timeoutMs then { h with replyPending := false }
  else h

/-- The packet `dispatch_heartbeat_` sends next, a pending reply first. -/
def prepare (h : ApplicationHeartbeat) (localBootId : UInt64) (nowMs : UInt32) :
    Option HeartbeatPacket × ApplicationHeartbeat :=
  if h.replyPending then (some h.reply, { h with replyPending := false })
  else if h.intervalMs = 0 ∨ h.exchange.pending ∨ nowMs - h.lastAttemptMs < h.intervalMs then (none, h)
  else
    let sequence := nextSequence h.sequence
    (some { requesterBoot := localBootId, sequence },
      { h with lastAttemptMs := nowMs, sequence, sent := h.sent + 1 })

/-- What `dispatch_heartbeat_` records once the radio has answered; a PONG leaves no trace. -/
def transmitted (h : ApplicationHeartbeat) (packet : HeartbeatPacket) (accepted : Bool)
    (nowMs : UInt32) : ApplicationHeartbeat :=
  if packet.kind = 2 then h
  else if accepted then { h with exchange := h.exchange.start packet nowMs h.timeoutMs }
  else { h with sendErrors := h.sendErrors + 1 }

def disable (h : ApplicationHeartbeat) : ApplicationHeartbeat :=
  { h with exchange := h.exchange.reset, replyPending := false }

end ApplicationHeartbeat

end EspNowNet
