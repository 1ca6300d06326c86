import EspNowNet.CommandCanonical
import EspNowNet.Heartbeat
import EspNowNet.Reliability
import EspNowNet.Library.ShiftLoops

/- The ACK payload and the heartbeat packet, with the loops and the output argument of the code.
   One is big endian, the other little endian; both decode just what they encode. -/
namespace EspNowNet
open EspNowCommandCodec (slice_append write_field field_lt byteAt_cons)

theorem getBig_field {data : List UInt8} {w offset width : Nat} (fits : 8 * width ≤ w)
    (inside : offset + width ≤ data.length) :
    (ShiftLoops.getBig w ((data.drop offset).take width)).toNat = field data offset width := by
  have long : ((data.drop offset).take width).length = width := by
    rw [List.length_take, List.length_drop]
    omega
  exact ShiftLoops.getBig_toNat (by omega)

namespace EspNowAckCodec

def putU32 (value : UInt32) : List UInt8 := ShiftLoops.putBig 4 value.toBitVec

def putU64 (value : UInt64) : List UInt8 := ShiftLoops.putBig 8 value.toBitVec

def getU32 (bytes : List UInt8) : UInt32 := .ofBitVec (ShiftLoops.getBig 32 (bytes.take 4))

def getU64 (bytes : List UInt8) : UInt64 := .ofBitVec (ShiftLoops.getBig 64 (bytes.take 8))

/-- `encode`, with the output it leaves. -/
def encodeTo (payload : EspNowAckPayload) : Bool × BoundedBytes encodedSize :=
  if ¬ payload.acknowledged.Valid then (false, .clear)
  else
    BoundedBytes.assign ([version, payload.status.toByte] ++ putU64 payload.acknowledged.sourceBootId ++
      putU64 payload.acknowledged.transactionId ++ putU32 payload.acknowledged.sequence)

/-- `decode`, with the payload it leaves. The data is `none` for a null pointer. -/
def decodeTo (data : Option (List UInt8)) (payload : EspNowAckPayload) :
    Bool × EspNowAckPayload :=
  match data with
  | none => (false, payload)
  | some data =>
    if data.length ≠ encodedSize ∨ byteAt data 0 ≠ version then (false, payload)
    else
      match EspNowAckStatus.ofByte? (byteAt data 1) with
      | none => (false, payload)
      | some status =>
        let decoded : EspNowAckPayload :=
          { status
            acknowledged :=
              { sourceBootId := getU64 (data.drop 2)
                transactionId := getU64 (data.drop 10)
                sequence := getU32 (data.drop 18) } }
        if ¬ decoded.acknowledged.Valid then (false, payload) else (true, decoded)

theorem getU64_eq {data : List UInt8} {offset : Nat} (inside : offset + 8 ≤ data.length) :
    getU64 (data.drop offset) = UInt64.ofNat (field data offset 8) := by
  apply UInt64.toNat_inj.mp
  rw [UInt64.toNat_ofNat_of_lt' (field_lt inside)]
  exact getBig_field (by decide) inside

theorem getU32_eq {data : List UInt8} {offset : Nat} (inside : offset + 4 ≤ data.length) :
    getU32 (data.drop offset) = UInt32.ofNat (field data offset 4) := by
  apply UInt32.toNat_inj.mp
  rw [UInt32.toNat_ofNat_of_lt' (field_lt inside)]
  exact getBig_field (by decide) inside

theorem encodeTo_valid {payload : EspNowAckPayload} (valid : payload.acknowledged.Valid) :
    encodeTo payload =
      (true, ⟨encodedBytes payload, Nat.le_of_eq (encodedBytes_length payload)⟩) := by
  have loops : [version, payload.status.toByte] ++ putU64 payload.acknowledged.sourceBootId ++
      putU64 payload.acknowledged.transactionId ++ putU32 payload.acknowledged.sequence =
      encodedBytes payload := by
    simp only [putU64, putU32, ShiftLoops.putBig_eq]
    rfl
  rw [encodeTo, if_neg (not_not.mpr valid), loops]
  exact BoundedBytes.assign_fits _

theorem decodeTo_eq (data : List UInt8) (payload : EspNowAckPayload) :
    decodeTo (some data) payload = ((decode data).isSome, (decode data).getD payload) := by
  unfold decodeTo decode byteAt
  simp only
  by_cases shape : data.length ≠ encodedSize ∨ data.getD 0 0 ≠ version
  · simp only [if_pos shape]
    rfl
  have long : data.length = 22 := by
    by_contra other
    exact shape (Or.inl other)
  rw [getU64_eq (by omega), getU64_eq (by omega), getU32_eq (by omega)]
  simp only [if_neg shape]
  unfold field
  cases EspNowAckStatus.ofByte? (data.getD 1 0) with
  | none => rfl
  | some status =>
    simp only [ite_not]
    split <;> rfl

theorem toByte_ofByte {byte : UInt8} {status : EspNowAckStatus}
    (known : EspNowAckStatus.ofByte? byte = some status) : status.toByte = byte := by
  unfold EspNowAckStatus.ofByte? at known
  split at known
  · rename_i same
    rw [← Option.some.inj known, same]
    rfl
  · split at known
    · rename_i same
      rw [← Option.some.inj known, same]
      rfl
    · split at known
      · rename_i same
        rw [← Option.some.inj known, same]
        rfl
      · cases known

/-- The decoder accepts nothing but what the encoder writes. -/
theorem encode_of_decode {data : List UInt8} {payload : EspNowAckPayload}
    (decoded : decode data = some payload) : encode payload = some data := by
  unfold decode at decoded
  split at decoded
  · cases decoded
  rename_i shape
  simp only [not_or, ne_eq, Decidable.not_not] at shape
  obtain ⟨long, versioned⟩ := shape
  simp only [encodedSize] at long
  split at decoded
  · cases decoded
  rename_i status known
  simp only at decoded
  split at decoded
  swap
  · cases decoded
  rename_i valid
  obtain rfl := Option.some.inj decoded
  have boot : (UInt64.ofNat (field data 2 8)).toNat = field data 2 8 :=
    UInt64.toNat_ofNat_of_lt' (field_lt (by omega))
  have transaction : (UInt64.ofNat (field data 10 8)).toNat = field data 10 8 :=
    UInt64.toNat_ofNat_of_lt' (field_lt (by omega))
  have sequence : (UInt32.ofNat (field data 18 4)).toNat = field data 18 4 :=
    UInt32.toNat_ofNat_of_lt' (field_lt (by omega))
  have bytes : encodedBytes ⟨⟨UInt64.ofNat (field data 2 8), UInt64.ofNat (field data 10 8),
      UInt32.ofNat (field data 18 4)⟩, status⟩ = data := by
    calc
      _ = byteAt data 0 :: byteAt data 1 :: (EspNowCommandCodec.slice data 2 8 ++
          (EspNowCommandCodec.slice data 10 8 ++ (EspNowCommandCodec.slice data 18 4 ++
            data.drop 22))) := by
        rw [encodedBytes, boot, transaction, sequence, write_field (by omega),
          write_field (by omega), write_field (by omega), toByte_ofByte known,
          List.drop_eq_nil_of_le (by omega), ← versioned]
        simp [byteAt]
      _ = data := by
        rw [slice_append, slice_append, slice_append, byteAt_cons (by omega),
          byteAt_cons (by omega), List.drop_zero]
  exact (if_pos valid).trans (congrArg some bytes)

end EspNowAckCodec

namespace HeartbeatPacket

/-- What the decoder asks of a packet. -/
structure Valid (packet : HeartbeatPacket) : Prop where
  kind : packet.kind = 1 ∨ packet.kind = 2
  requester : packet.requesterBoot ≠ 0
  sequence : packet.sequence ≠ 0
  responder : packet.kind = 2 → packet.responderBoot ≠ 0

/-- `encode`, with its loops. -/
def encodeTo (packet : HeartbeatPacket) : List UInt8 :=
  magic ++ [packet.kind] ++ ShiftLoops.putLittle 8 packet.requesterBoot.toBitVec ++
    ShiftLoops.putLittle 4 packet.sequence.toBitVec ++
    ShiftLoops.putLittle 8 packet.responderBoot.toBitVec

/-- `decode`, with the packet it leaves. The data is `none` for a null pointer. -/
def decodeTo (data : Option (List UInt8)) (out : HeartbeatPacket) : Bool × HeartbeatPacket :=
  match data with
  | none => (false, out)
  | some data =>
    if hasMagic data = false ∨ data.length ≠ packetSize ∨
        (byteAt data 4 ≠ 1 ∧ byteAt data 4 ≠ 2) then (false, out)
    else
      let value : HeartbeatPacket :=
        { kind := byteAt data 4
          requesterBoot := .ofBitVec (ShiftLoops.getLittle 64 8 (data.drop 5))
          sequence := .ofBitVec (ShiftLoops.getLittle 32 4 (data.drop 13))
          responderBoot := .ofBitVec (ShiftLoops.getLittle 64 8 (data.drop 17)) }
      if value.requesterBoot = 0 ∨ value.sequence = 0 ∨
          (value.kind = 2 ∧ value.responderBoot = 0) then (false, out)
      else (true, value)

theorem encodeTo_eq (packet : HeartbeatPacket) : encodeTo packet = encode packet := by
  unfold encodeTo encode littleEndian
  simp only [ShiftLoops.putLittle_eq]
  rfl

theorem littleField_lt {data : List UInt8} {offset width : Nat}
    (inside : offset + width ≤ data.length) : littleField data offset width < 256 ^ width := by
  have bound := BigEndian.read_lt ((data.drop offset).take width).reverse
  rw [List.length_reverse, List.length_take, List.length_drop, Nat.min_eq_left (by omega)] at bound
  exact bound

theorem getLittle_field {data : List UInt8} {w offset width : Nat} (fits : 8 * width ≤ w)
    (inside : offset + width ≤ data.length) :
    (ShiftLoops.getLittle w width (data.drop offset)).toNat = littleField data offset width :=
  ShiftLoops.getLittle_toNat (by rw [List.length_drop]; omega) fits

theorem getLittle64_eq {data : List UInt8} {offset : Nat} (inside : offset + 8 ≤ data.length) :
    UInt64.ofBitVec (ShiftLoops.getLittle 64 8 (data.drop offset)) =
      UInt64.ofNat (littleField data offset 8) := by
  apply UInt64.toNat_inj.mp
  rw [UInt64.toNat_ofNat_of_lt' (littleField_lt inside)]
  exact getLittle_field (by decide) inside

theorem getLittle32_eq {data : List UInt8} {offset : Nat} (inside : offset + 4 ≤ data.length) :
    UInt32.ofBitVec (ShiftLoops.getLittle 32 4 (data.drop offset)) =
      UInt32.ofNat (littleField data offset 4) := by
  apply UInt32.toNat_inj.mp
  rw [UInt32.toNat_ofNat_of_lt' (littleField_lt inside)]
  exact getLittle_field (by decide) inside

theorem decodeTo_eq (data : List UInt8) (out : HeartbeatPacket) :
    decodeTo (some data) out = ((decode data).isSome, (decode data).getD out) := by
  unfold decodeTo decode
  simp only
  by_cases shape : hasMagic data = false ∨ data.length ≠ packetSize ∨
      (byteAt data 4 ≠ 1 ∧ byteAt data 4 ≠ 2)
  · simp only [if_pos shape]
    rfl
  have long : data.length = 25 := by
    by_contra other
    exact shape (Or.inr (Or.inl other))
  rw [getLittle64_eq (by omega), getLittle64_eq (by omega), getLittle32_eq (by omega)]
  simp only [if_neg shape]
  split <;> rfl

@[simp] theorem littleEndian_length (width value : Nat) :
    (littleEndian width value).length = width := by
  simp [littleEndian]

theorem encode_length (packet : HeartbeatPacket) : (encode packet).length = packetSize := by
  simp [encode, magic, packetSize]

theorem littleField_part {data : List UInt8} {offset width value : Nat}
    (part : (data.drop offset).take width = littleEndian width value)
    (bound : value < 256 ^ width) : littleField data offset width = value := by
  rw [littleField, part, littleEndian, List.reverse_reverse, BigEndian.read_write_of_lt bound]

theorem decode_encode {packet : HeartbeatPacket} (valid : packet.Valid) :
    decode (encode packet) = some packet := by
  let parts := [magic, [packet.kind], littleEndian 8 packet.requesterBoot.toNat,
    littleEndian 4 packet.sequence.toNat, littleEndian 8 packet.responderBoot.toNat]
  have whole : encode packet = parts.flatten := by simp [encode, parts]
  have requester : littleField (encode packet) 5 8 = packet.requesterBoot.toNat := by
    apply littleField_part _ packet.requesterBoot.toNat_lt
    rw [whole]
    have place : (parts.take 2).flatten.length = 5 := rfl
    simpa using BigEndian.part_at parts 2 rfl place
  have sequence : littleField (encode packet) 13 4 = packet.sequence.toNat := by
    apply littleField_part _ packet.sequence.toNat_lt
    rw [whole]
    have place : (parts.take 3).flatten.length = 13 := by simp [parts, magic]
    simpa using BigEndian.part_at parts 3 rfl place
  have responder : littleField (encode packet) 17 8 = packet.responderBoot.toNat := by
    apply littleField_part _ packet.responderBoot.toNat_lt
    rw [whole]
    have place : (parts.take 4).flatten.length = 17 := by simp [parts, magic]
    simpa using BigEndian.part_at parts 4 rfl place
  have kind : byteAt (encode packet) 4 = packet.kind := rfl
  have magical : hasMagic (encode packet) = true := by
    have first : (encode packet).take 4 = magic := rfl
    simp [hasMagic, first, encode_length, packetSize]
  unfold decode
  rw [if_neg, kind, requester, sequence, responder, UInt64.ofNat_toNat, UInt32.ofNat_toNat,
    UInt64.ofNat_toNat]
  · apply if_neg
    rintro (none | none | ⟨pong, none⟩)
    · exact valid.requester none
    · exact valid.sequence none
    · exact valid.responder pong none
  · rintro (missing | short | ⟨noPing, noPong⟩)
    · rw [magical] at missing
      cases missing
    · exact short (encode_length packet)
    · rcases valid.kind with ping | pong
      · exact noPing ping
      · exact noPong pong

theorem littleEndian_field {data : List UInt8} {offset width : Nat}
    (inside : offset + width ≤ data.length) :
    littleEndian width (littleField data offset width) = (data.drop offset).take width := by
  have long : ((data.drop offset).take width).reverse.length = width := by
    rw [List.length_reverse, List.length_take, List.length_drop]
    omega
  have whole := BigEndian.write_read ((data.drop offset).take width).reverse
  rw [long] at whole
  rw [littleEndian, littleField, whole, List.reverse_reverse]

/-- The decoder accepts nothing but what the encoder writes. -/
theorem encode_of_decode {data : List UInt8} {packet : HeartbeatPacket}
    (decoded : decode data = some packet) : encode packet = data := by
  unfold decode at decoded
  split at decoded
  · cases decoded
  rename_i shape
  simp only [not_or, Bool.not_eq_false, ne_eq, Decidable.not_not] at shape
  obtain ⟨magical, long, -⟩ := shape
  simp only [packetSize] at long
  simp only at decoded
  split at decoded
  · cases decoded
  obtain rfl := Option.some.inj decoded
  have first : data.take 4 = magic := by
    simp only [hasMagic, decide_eq_true_eq] at magical
    exact magical.2
  have requester : (UInt64.ofNat (littleField data 5 8)).toNat = littleField data 5 8 :=
    UInt64.toNat_ofNat_of_lt' (littleField_lt (by omega))
  have sequence : (UInt32.ofNat (littleField data 13 4)).toNat = littleField data 13 4 :=
    UInt32.toNat_ofNat_of_lt' (littleField_lt (by omega))
  have responder : (UInt64.ofNat (littleField data 17 8)).toNat = littleField data 17 8 :=
    UInt64.toNat_ofNat_of_lt' (littleField_lt (by omega))
  have requesterBytes := littleEndian_field (show 5 + 8 ≤ data.length by omega)
  have sequenceBytes := littleEndian_field (show 13 + 4 ≤ data.length by omega)
  have responderBytes := littleEndian_field (show 17 + 8 ≤ data.length by omega)
  have last : data.drop 25 = [] := List.drop_eq_nil_of_le (by omega)
  calc
    _ = data.take 4 ++ (byteAt data 4 :: (EspNowCommandCodec.slice data 5 8 ++
        (EspNowCommandCodec.slice data 13 4 ++ (EspNowCommandCodec.slice data 17 8 ++
          data.drop 25)))) := by
      rw [encode, requester, sequence, responder, requesterBytes, sequenceBytes, responderBytes,
        first, last]
      simp [EspNowCommandCodec.slice]
    _ = data := by
      rw [slice_append, slice_append, slice_append, byteAt_cons (by omega), List.take_append_drop]

end HeartbeatPacket

theorem some_of_accepted {α : Type} {answer : Option α} {out value : α}
    (accepted : (answer.isSome, answer.getD out) = (true, value)) : answer = some value := by
  cases answer with
  | none => cases accepted
  | some given => exact congrArg some (Prod.mk.inj accepted).2

theorem getD_of_refused {α : Type} {answer : Option α} {out : α} (refused : answer.isSome = false) :
    answer.getD out = out := by
  cases answer with
  | none => rfl
  | some given => cases refused

/-- Both codecs, for every payload, every byte string and every output argument: what is valid
    comes back, what is accepted is what would be written, and what is rejected changes nothing. -/
theorem payloads_round_trip :
    (∀ payload out : EspNowAckPayload, payload.acknowledged.Valid →
        (EspNowAckCodec.encodeTo payload).1 = true ∧
        EspNowAckCodec.decodeTo (some (EspNowAckCodec.encodeTo payload).2.bytes) out =
          (true, payload)) ∧
      (∀ data out payload, EspNowAckCodec.decodeTo (some data) out = (true, payload) →
        (EspNowAckCodec.encodeTo payload).1 = true ∧
        (EspNowAckCodec.encodeTo payload).2.bytes = data) ∧
      (∀ data out, (EspNowAckCodec.decodeTo data out).1 = false →
        (EspNowAckCodec.decodeTo data out).2 = out) ∧
      (∀ packet out : HeartbeatPacket, packet.Valid →
        HeartbeatPacket.decodeTo (some packet.encodeTo) out = (true, packet)) ∧
      (∀ data out packet, HeartbeatPacket.decodeTo (some data) out = (true, packet) →
        packet.encodeTo = data) ∧
      ∀ data out, (HeartbeatPacket.decodeTo data out).1 = false →
        (HeartbeatPacket.decodeTo data out).2 = out := by
  refine ⟨?_, ?_, ?_, ?_, ?_, ?_⟩
  · intro payload out valid
    rw [EspNowAckCodec.encodeTo_valid valid]
    refine ⟨rfl, ?_⟩
    rw [EspNowAckCodec.decodeTo_eq, EspNowAckCodec.decode_encodedBytes valid]
    rfl
  · intro data out payload accepted
    rw [EspNowAckCodec.decodeTo_eq] at accepted
    have encoded := EspNowAckCodec.encode_of_decode (some_of_accepted accepted)
    unfold EspNowAckCodec.encode at encoded
    split at encoded
    · rename_i valid
      rw [EspNowAckCodec.encodeTo_valid valid]
      exact ⟨rfl, Option.some.inj encoded⟩
    · cases encoded
  · intro data out refused
    cases data with
    | none => rfl
    | some data =>
      rw [EspNowAckCodec.decodeTo_eq] at refused ⊢
      exact getD_of_refused refused
  · intro packet out valid
    rw [HeartbeatPacket.encodeTo_eq, HeartbeatPacket.decodeTo_eq,
      HeartbeatPacket.decode_encode valid]
    rfl
  · intro data out packet accepted
    rw [HeartbeatPacket.decodeTo_eq] at accepted
    rw [HeartbeatPacket.encodeTo_eq]
    exact HeartbeatPacket.encode_of_decode (some_of_accepted accepted)
  · intro data out refused
    cases data with
    | none => rfl
    | some data =>
      rw [HeartbeatPacket.decodeTo_eq] at refused ⊢
      exact getD_of_refused refused

end EspNowNet
