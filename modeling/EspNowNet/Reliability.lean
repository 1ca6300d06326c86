import EspNowNet.Frame
import EspNowNet.Library.RecentWindow

/- Delivery acknowledgement, retry and duplicate suppression. Time is the wrapping
   32-bit millisecond counter; a deadline has passed when the signed difference is
   not negative, which for a `UInt32` is a difference below 2^31. -/
namespace EspNowNet

inductive EspNowAckStatus where
  | accepted
  | duplicate
  | rejected
  deriving DecidableEq

def EspNowAckStatus.toByte : EspNowAckStatus → UInt8
  | .accepted => 1
  | .duplicate => 2
  | .rejected => 3

def EspNowAckStatus.ofByte? (byte : UInt8) : Option EspNowAckStatus :=
  if byte = 1 then some .accepted
  else if byte = 2 then some .duplicate
  else if byte = 3 then some .rejected
  else none

structure EspNowAckPayload where
  acknowledged : DeliveryIdentity := {}
  status : EspNowAckStatus := .rejected
  deriving DecidableEq

namespace EspNowAckCodec

def version : UInt8 := 1
def encodedSize : Nat := 22

def encodedBytes (payload : EspNowAckPayload) : List UInt8 :=
  [version, payload.status.toByte] ++
    BigEndian.write 8 payload.acknowledged.sourceBootId.toNat ++
    BigEndian.write 8 payload.acknowledged.transactionId.toNat ++
    BigEndian.write 4 payload.acknowledged.sequence.toNat

def encode (payload : EspNowAckPayload) : Option (List UInt8) :=
  if payload.acknowledged.Valid then some (encodedBytes payload) else none

def decode (data : List UInt8) : Option EspNowAckPayload :=
  if data.length ≠ encodedSize ∨ data.getD 0 0 ≠ version then none
  else
    match EspNowAckStatus.ofByte? (data.getD 1 0) with
    | none => none
    | some status =>
      let acknowledged : DeliveryIdentity :=
        { sourceBootId := UInt64.ofNat (BigEndian.read ((data.drop 2).take 8))
          transactionId := UInt64.ofNat (BigEndian.read ((data.drop 10).take 8))
          sequence := UInt32.ofNat (BigEndian.read ((data.drop 18).take 4)) }
      if acknowledged.Valid then some ⟨acknowledged, status⟩ else none

@[simp] theorem encodedBytes_length (payload : EspNowAckPayload) :
    (encodedBytes payload).length = encodedSize := by
  simp [encodedBytes, encodedSize]

theorem ofByte_toByte (status : EspNowAckStatus) :
    EspNowAckStatus.ofByte? status.toByte = some status := by
  cases status <;> decide

theorem decode_encodedBytes {payload : EspNowAckPayload} (valid : payload.acknowledged.Valid) :
    decode (encodedBytes payload) = some payload := by
  obtain ⟨⟨boot, transaction, sequence⟩, status⟩ := payload
  have bootField := BigEndian.read_at 2 8 [version, status.toByte]
    (BigEndian.write 8 transaction.toNat ++ BigEndian.write 4 sequence.toNat) rfl boot.toNat_lt
  have transactionField := BigEndian.read_at 10 8
    ([version, status.toByte] ++ BigEndian.write 8 boot.toNat)
    (BigEndian.write 4 sequence.toNat) (by simp) transaction.toNat_lt
  have sequenceField := BigEndian.read_at 18 4
    ([version, status.toByte] ++ BigEndian.write 8 boot.toNat ++
      BigEndian.write 8 transaction.toNat) [] (by simp) sequence.toNat_lt
  simp only [List.append_assoc, List.append_nil] at bootField transactionField sequenceField
  have versionField : (encodedBytes ⟨⟨boot, transaction, sequence⟩, status⟩).getD 0 0 =
      version := rfl
  have statusField : (encodedBytes ⟨⟨boot, transaction, sequence⟩, status⟩).getD 1 0 =
      status.toByte := rfl
  simp only [decode, encodedBytes_length, versionField, statusField, ofByte_toByte, ne_eq,
    not_true_eq_false, or_self, ↓reduceIte]
  simp only [encodedBytes, List.append_assoc, bootField, transactionField, sequenceField,
    UInt64.ofNat_toNat, UInt32.ofNat_toNat]
  exact if_pos valid

end EspNowAckCodec

inductive EspNowDeliveryState where
  | idle
  | readyToSend
  | waitingForAck
  | acknowledged
  | rejected
  | timedOut
  deriving DecidableEq

structure EspNowRetryPolicy where
  ackTimeoutMs : UInt32 := 250
  maxAttempts : UInt8 := 3
  deriving DecidableEq

def EspNowRetryPolicy.Valid (policy : EspNowRetryPolicy) : Prop :=
  policy.ackTimeoutMs ≠ 0 ∧ policy.maxAttempts ≠ 0

instance EspNowRetryPolicy.decidableValid (policy : EspNowRetryPolicy) : Decidable policy.Valid :=
  inferInstanceAs (Decidable (_ ∧ _))

/-- `static_cast<int32_t>(now - deadline) < 0` -/
def deadlinePending (now deadline : UInt32) : Bool := (now - deadline).toNat ≥ 2 ^ 31

structure EspNowReliableDelivery where
  policy : EspNowRetryPolicy := {}
  key : DeliveryIdentity := {}
  deadlineMs : UInt32 := 0
  attemptCount : UInt8 := 0
  state : EspNowDeliveryState := .idle
  deriving DecidableEq

namespace EspNowReliableDelivery

def Active (d : EspNowReliableDelivery) : Prop :=
  d.state = .readyToSend ∨ d.state = .waitingForAck

instance decidableActive (d : EspNowReliableDelivery) : Decidable d.Active :=
  inferInstanceAs (Decidable (_ ∨ _))

def configure (d : EspNowReliableDelivery) (policy : EspNowRetryPolicy) :
    Bool × EspNowReliableDelivery :=
  if d.state ≠ .idle ∨ ¬ policy.Valid then (false, d) else (true, { d with policy })

def start (d : EspNowReliableDelivery) (key : DeliveryIdentity) :
    Bool × EspNowReliableDelivery :=
  if ¬ key.Valid ∨ d.Active then (false, d)
  else (true, { d with key, attemptCount := 0, deadlineMs := 0, state := .readyToSend })

def markSent (d : EspNowReliableDelivery) (nowMs : UInt32) : Bool × EspNowReliableDelivery :=
  if d.state ≠ .readyToSend ∨ d.attemptCount ≥ d.policy.maxAttempts then (false, d)
  else
    (true, { d with
      attemptCount := d.attemptCount + 1
      deadlineMs := nowMs + d.policy.ackTimeoutMs
      state := .waitingForAck })

def loop (d : EspNowReliableDelivery) (nowMs : UInt32) : EspNowReliableDelivery :=
  if d.state ≠ .waitingForAck ∨ deadlinePending nowMs d.deadlineMs then d
  else
    { d with state := if d.attemptCount < d.policy.maxAttempts then .readyToSend else .timedOut }

def acceptAck (d : EspNowReliableDelivery) (ack : EspNowAckPayload) :
    Bool × EspNowReliableDelivery :=
  if d.state ≠ .waitingForAck ∨ ack.acknowledged ≠ d.key then (false, d)
  else
    (true, { d with state := if ack.status = .rejected then .rejected else .acknowledged })

def reset (d : EspNowReliableDelivery) : EspNowReliableDelivery :=
  { d with key := {}, attemptCount := 0, deadlineMs := 0, state := .idle }

end EspNowReliableDelivery

inductive EspNowDuplicateObservation where
  | newMessage
  | duplicate
  deriving DecidableEq

/-- The eight identities remembered by a receiver, shared by all its peers. -/
structure EspNowDuplicateCache where
  ring : RecentWindow.Ring DeliveryIdentity := ⟨List.replicate 8 {}, 0, 0⟩

namespace EspNowDuplicateCache

def capacity : Nat := 8

def contains (cache : EspNowDuplicateCache) (key : DeliveryIdentity) : Bool :=
  key.Valid && cache.ring.live.contains key

def observe (cache : EspNowDuplicateCache) (key : DeliveryIdentity) :
    EspNowDuplicateObservation × EspNowDuplicateCache :=
  if cache.contains key then (.duplicate, cache)
  else if ¬ key.Valid then (.duplicate, cache)
  else (.newMessage, { cache with ring := cache.ring.push capacity key })

theorem contains_iff {cache : EspNowDuplicateCache} {history : List DeliveryIdentity}
    (tracks : RecentWindow.Tracks capacity cache.ring history) (key : DeliveryIdentity) :
    cache.contains key = true ↔ key.Valid ∧ key ∈ history.take capacity := by
  simp [contains, RecentWindow.mem_live_iff (by decide) tracks]

/-- A key the cache does not contain is none of the newest reports, and is remembered. -/
theorem observe_tracks {cache : EspNowDuplicateCache} {history : List DeliveryIdentity}
    (tracks : RecentWindow.Tracks capacity cache.ring history)
    {key : DeliveryIdentity} (valid : key.Valid) (unknown : cache.contains key = false) :
    key ∉ history.take capacity ∧
      RecentWindow.Tracks capacity (cache.observe key).2.ring
        (key :: history) := by
  constructor
  · intro recent
    have := (contains_iff tracks key).mpr ⟨valid, recent⟩
    simp [unknown] at this
  · simpa [EspNowDuplicateCache.observe, unknown, valid] using
      RecentWindow.tracks_push (by decide) tracks key

end EspNowDuplicateCache

end EspNowNet
