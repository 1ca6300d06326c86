import EspNowNet.ResultCodec

/- What the result codec writes, it reads back. A result that has been encoded decodes to
   itself, under whatever transaction the receiver knows it by. -/
namespace EspNowNet

theorem BoundedBytes.assign_self {capacity : Nat} (value : BoundedBytes capacity) :
    BoundedBytes.assign value.bytes = (true, value) := BoundedBytes.assign_fits value.fits

theorem BoundedText.assign_self {capacity : Nat} (value : BoundedText capacity) :
    BoundedText.assign value.chars = (true, value) := by
  have whole : cString value.chars = value.chars := cString_eq_self value.noNul
  unfold BoundedText.assign
  simp [whole, value.fits]

theorem NetResultStatus.ofByte_toByte (status : NetResultStatus) :
    NetResultStatus.ofByte? status.toByte = some status := by
  cases status <;> decide

theorem NetStateCompleteness.ofByte_toByte (completeness : NetStateCompleteness) :
    NetStateCompleteness.ofByte? completeness.toByte = some completeness := by
  cases completeness <;> decide

theorem NetErrorCode.ofByte_toByte (code : NetErrorCode) :
    NetErrorCode.ofByte? code.toByte = some code := by
  cases code <;> decide

/- What consistency says about the parts that are not sent -/

theorem NetStateSnapshot.eq_blank {snapshot : NetStateSnapshot}
    (consistent : snapshot.consistent = true) (absent : snapshot.completeness = .notProvided) :
    snapshot = {} := by
  obtain ⟨completeness, ⟨schema, _, _⟩, ⟨data, _⟩⟩ := snapshot
  subst absent
  simp only [NetStateSnapshot.consistent, ↓reduceIte, Bool.and_eq_true, BoundedText.isEmpty,
    BoundedBytes.isEmpty, List.isEmpty_iff] at consistent
  obtain ⟨rfl, rfl⟩ := consistent
  rfl

theorem NetStateSnapshot.sizes_ne_zero {snapshot : NetStateSnapshot}
    (consistent : snapshot.consistent = true) (provided : snapshot.completeness ≠ .notProvided) :
    snapshot.schema.chars.length ≠ 0 ∧ snapshot.data.bytes.length ≠ 0 := by
  simp only [NetStateSnapshot.consistent, provided, ↓reduceIte, Bool.and_eq_true,
    Bool.not_eq_true', BoundedText.isEmpty, BoundedBytes.isEmpty, List.isEmpty_eq_false_iff]
    at consistent
  exact ⟨List.length_pos_iff.mpr consistent.1 |>.ne', List.length_pos_iff.mpr consistent.2 |>.ne'⟩

theorem NetError.eq_blank {error : NetError} (consistent : error.consistent = true)
    (absent : error.code = .none) : error = {} := by
  obtain ⟨code, retryable, ⟨message, _, _⟩⟩ := error
  subst absent
  simp only [NetError.consistent, ↓reduceIte, Bool.and_eq_true, Bool.not_eq_true',
    BoundedText.isEmpty, List.isEmpty_iff] at consistent
  obtain ⟨rfl, rfl⟩ := consistent
  rfl

theorem NetError.message_ne_nil {error : NetError} (consistent : error.consistent = true)
    (present : error.code ≠ .none) : error.message.chars.length ≠ 0 := by
  simp only [NetError.consistent, present, ↓reduceIte, Bool.not_eq_true', BoundedText.isEmpty,
    List.isEmpty_eq_false_iff] at consistent
  exact (List.length_pos_iff.mpr consistent).ne'

/-- A snapshot has both a schema and data, or neither. -/
theorem NetStateSnapshot.sizes_flag {snapshot : NetStateSnapshot}
    (consistent : snapshot.consistent = true) :
    (snapshot.schema.chars.length != 0 && snapshot.data.bytes.length != 0) =
      decide (snapshot.completeness ≠ .notProvided) := by
  by_cases absent : snapshot.completeness = .notProvided
  · rw [NetStateSnapshot.eq_blank consistent absent]
    rfl
  · obtain ⟨schema, data⟩ := NetStateSnapshot.sizes_ne_zero consistent absent
    simp [absent, schema, data]

theorem NetError.size_flag {error : NetError} (consistent : error.consistent = true) :
    (error.message.chars.length != 0) = decide (error.code ≠ .none) := by
  by_cases absent : error.code = .none
  · rw [NetError.eq_blank consistent absent]
    rfl
  · simp [absent, NetError.message_ne_nil consistent absent]

/-- The parts a consistent result is made of. -/
structure NetResult.Parts (result : NetResult) : Prop where
  transaction : result.transactionId ≠ 0
  expected : result.execution.expectedFinalState.consistent = true
  expectedFlag : result.execution.hasExpectedFinalState = true ↔
    result.execution.expectedFinalState.completeness ≠ .notProvided
  remote : result.remoteState.consistent = true
  error : result.error.consistent = true

theorem NetResult.parts {result : NetResult} (consistent : result.consistent = true) :
    result.Parts := by
  unfold NetResult.consistent at consistent
  split at consistent
  · simp at consistent
  · rename_i parts
    simp only [Bool.or_eq_true, Bool.not_eq_true', not_or, Bool.not_eq_false,
      decide_eq_true_eq] at parts
    obtain ⟨⟨⟨transaction, execution⟩, remote⟩, error⟩ := parts
    unfold NetExecutionContext.consistent at execution
    split at execution
    · simp at execution
    · split at execution
      · simp at execution
      · split at execution
        · rename_i flagged
          simp only [Bool.and_eq_true, bne_iff_ne] at execution
          exact ⟨transaction, execution.1.2, by simp [flagged, execution.2], remote, error⟩
        · rename_i unflagged
          simp only [Bool.and_eq_true, beq_iff_eq] at execution
          exact ⟨transaction, execution.1, by simp [unflagged, execution.2], remote, error⟩

namespace EspNowResultCodec
variable (result : NetResult)

/-- The layout of an encoded result, part by part. -/
def layout : List (List UInt8) :=
  let expected := result.execution.expectedFinalState
  let remote := result.remoteState
  [[version, result.status.toByte, flagsOf result, expected.completeness.toByte,
      remote.completeness.toByte, result.error.code.toByte,
      if result.error.retryable then 1 else 0, result.execution.progressPercent],
    BigEndian.write 4 result.execution.estimatedCompletionMs.toNat,
    [UInt8.ofNat expected.schema.chars.length], BigEndian.write 2 expected.data.bytes.length,
    [UInt8.ofNat remote.schema.chars.length], BigEndian.write 2 remote.data.bytes.length,
    [UInt8.ofNat result.error.message.chars.length, 0],
    expected.schema.chars, expected.data.bytes, remote.schema.chars, remote.data.bytes,
    result.error.message.chars]

variable {result}

/-- A part that is left out is empty anyway. -/
theorem sent_part {condition : Prop} [Decidable condition] (part : List UInt8)
    (blank : ¬ condition → part = []) : (if condition then part else []) = part := by
  split
  · rfl
  · rename_i absent
    exact (blank absent).symm

/-- A consistent result is laid out part by part, if that fits a message. -/
theorem encode_eq (consistent : result.consistent = true) :
    encode result =
      if fits : (layout result).flatten.length ≤ 640 then
        .ok ⟨(layout result).flatten, fits⟩
      else .error .payloadTooLarge := by
  obtain ⟨_, expected, flagged, remote, error⟩ := NetResult.parts consistent
  have noExpected (unflagged : ¬ result.execution.hasExpectedFinalState = true) :=
    NetStateSnapshot.eq_blank expected (by simpa using mt flagged.mpr unflagged)
  have noRemote (absent : ¬ decide (result.remoteState.completeness ≠ .notProvided) = true) :=
    NetStateSnapshot.eq_blank remote (by simpa using absent)
  have noError (absent : ¬ decide (result.error.code ≠ .none) = true) :=
    NetError.eq_blank error (by simpa using absent)
  have expectedSchema := sent_part result.execution.expectedFinalState.schema.chars
    fun unflagged => by rw [noExpected unflagged]; rfl
  have expectedData := sent_part result.execution.expectedFinalState.data.bytes
    fun unflagged => by rw [noExpected unflagged]; rfl
  have remoteSchema := sent_part result.remoteState.schema.chars
    fun absent => by rw [noRemote absent]; rfl
  have remoteData := sent_part result.remoteState.data.bytes
    fun absent => by rw [noRemote absent]; rfl
  have errorText := sent_part result.error.message.chars
    fun absent => by rw [noError absent]; rfl
  have parts : headerBytes result result.execution.expectedFinalState.schema.chars.length
        result.execution.expectedFinalState.data.bytes.length
        result.remoteState.schema.chars.length result.remoteState.data.bytes.length
        result.error.message.chars.length ++
      result.execution.expectedFinalState.schema.chars ++
      result.execution.expectedFinalState.data.bytes ++ result.remoteState.schema.chars ++
      result.remoteState.data.bytes ++ result.error.message.chars = (layout result).flatten := by
    simp [layout, headerBytes]
  have total : headerSize + result.execution.expectedFinalState.schema.chars.length +
      result.execution.expectedFinalState.data.bytes.length +
      result.remoteState.schema.chars.length + result.remoteState.data.bytes.length +
      result.error.message.chars.length = (layout result).flatten.length := by
    rw [← parts]
    simp [headerBytes, headerSize]
    omega
  unfold encode
  simp only [consistent, Bool.true_eq_false, ↓reduceIte, expectedSchema, expectedData,
    remoteSchema, remoteData, errorText, parts, total, maxMessageSize]
  by_cases fits : (layout result).flatten.length ≤ 640
  · rw [if_neg (Nat.not_lt.mpr fits), dif_pos fits, BoundedBytes.assign_fits fits]
  · rw [if_pos (Nat.lt_of_not_le fits), dif_neg fits]

theorem encode_ok {payload : BoundedBytes 640} (encodes : encode result = .ok payload) :
    result.consistent = true ∧ payload.bytes = (layout result).flatten := by
  have consistent : result.consistent = true := by
    by_contra inconsistent
    rw [encode, if_pos (by simpa using inconsistent)] at encodes
    cases encodes
  refine ⟨consistent, ?_⟩
  rw [encode_eq consistent] at encodes
  split at encodes
  · exact (Except.ok.inj encodes) ▸ rfl
  · simp at encodes

/- Reading the layout back -/

theorem flags_read : ∀ started estimated progress expected remote error : Bool,
    let flags := flag started flagStarted ||| flag estimated flagEstimated |||
      flag progress flagProgress ||| flag expected flagExpectedState |||
      flag remote flagRemoteState ||| flag error flagError
    flags &&& 0xC0 = 0 ∧ flagSet flags flagStarted = started ∧
      flagSet flags flagEstimated = estimated ∧ flagSet flags flagProgress = progress ∧
      flagSet flags flagExpectedState = expected ∧ flagSet flags flagRemoteState = remote ∧
      flagSet flags flagError = error := by
  decide

theorem flagsOf_read (result : NetResult) : flagsOf result &&& 0xC0 = 0 ∧
    flagSet (flagsOf result) flagStarted = result.execution.started ∧
    flagSet (flagsOf result) flagEstimated = result.execution.hasEstimatedCompletion ∧
    flagSet (flagsOf result) flagProgress = result.execution.hasProgress ∧
    flagSet (flagsOf result) flagExpectedState = result.execution.hasExpectedFinalState ∧
    flagSet (flagsOf result) flagRemoteState =
      decide (result.remoteState.completeness ≠ .notProvided) ∧
    flagSet (flagsOf result) flagError = decide (result.error.code ≠ .none) :=
  flags_read _ _ _ _ _ _

/-- The flags of a consistent result agree with the sizes of its parts. -/
theorem flags_agree {result : NetResult} (consistent : result.consistent = true) :
    flagsConsistent (flagsOf result) result.execution.expectedFinalState.schema.chars.length
      result.execution.expectedFinalState.data.bytes.length result.remoteState.schema.chars.length
      result.remoteState.data.bytes.length result.error.message.chars.length = true := by
  obtain ⟨_, expected, flagged, remote, error⟩ := NetResult.parts consistent
  obtain ⟨_, _, _, _, expectedFlag, remoteFlag, errorFlag⟩ := flagsOf_read result
  have presence : result.execution.hasExpectedFinalState =
      decide (result.execution.expectedFinalState.completeness ≠ .notProvided) := by
    rw [Bool.eq_iff_iff, decide_eq_true_iff, flagged]
  rw [flagsConsistent, expectedFlag, remoteFlag, errorFlag,
    NetStateSnapshot.sizes_flag expected, NetStateSnapshot.sizes_flag remote,
    NetError.size_flag error, presence]
  simp

/-- The fields of an encoded result, read at the offsets of the decoder. -/
structure FieldsOf (result : NetResult) (data : List UInt8) : Prop where
  length : headerSize + result.execution.expectedFinalState.schema.chars.length +
    result.execution.expectedFinalState.data.bytes.length + result.remoteState.schema.chars.length +
    result.remoteState.data.bytes.length + result.error.message.chars.length = data.length
  version : byteAt data 0 = version
  status : byteAt data 1 = result.status.toByte
  flags : byteAt data 2 = flagsOf result
  expected : byteAt data 3 = result.execution.expectedFinalState.completeness.toByte
  remote : byteAt data 4 = result.remoteState.completeness.toByte
  code : byteAt data 5 = result.error.code.toByte
  retryable : byteAt data 6 = if result.error.retryable then 1 else 0
  progress : byteAt data 7 = result.execution.progressPercent
  estimated : field data 8 4 = result.execution.estimatedCompletionMs.toNat
  expectedSchemaSize :
    (byteAt data 12).toNat = result.execution.expectedFinalState.schema.chars.length
  expectedDataSize : field data 13 2 = result.execution.expectedFinalState.data.bytes.length
  remoteSchemaSize : (byteAt data 15).toNat = result.remoteState.schema.chars.length
  remoteDataSize : field data 16 2 = result.remoteState.data.bytes.length
  errorSize : (byteAt data 18).toNat = result.error.message.chars.length

theorem byte_of_length {size : Nat} (small : size < 256) : (UInt8.ofNat size).toNat = size :=
  UInt8.toNat_ofNat_of_lt' small

theorem fieldsOf_layout (result : NetResult) : FieldsOf result (layout result).flatten where
  length := by
    simp [layout, headerSize]
    omega
  version := rfl
  status := rfl
  flags := rfl
  expected := rfl
  remote := rfl
  code := rfl
  retryable := rfl
  progress := rfl
  estimated := BigEndian.read_part 1 8 4 rfl rfl (UInt32.toNat_lt _)
  expectedSchemaSize := byte_of_length (Nat.lt_of_le_of_lt (BoundedText.fits _) (by decide))
  expectedDataSize := BigEndian.read_part 3 13 2 rfl rfl
    (Nat.lt_of_le_of_lt (BoundedBytes.fits _) (by decide))
  remoteSchemaSize := byte_of_length (Nat.lt_of_le_of_lt (BoundedText.fits _) (by decide))
  remoteDataSize := BigEndian.read_part 5 16 2 rfl rfl
    (Nat.lt_of_le_of_lt (BoundedBytes.fits _) (by decide))
  errorSize := byte_of_length (Nat.lt_of_le_of_lt (BoundedText.fits _) (by decide))

/-- A snapshot is read back where its schema and its data stand. -/
theorem decodeState_eq {snapshot : NetStateSnapshot} (consistent : snapshot.consistent = true)
    {data : List UInt8} {offset : Nat}
    (schema : (data.drop offset).take snapshot.schema.chars.length = snapshot.schema.chars)
    (body : (data.drop (offset + snapshot.schema.chars.length)).take snapshot.data.bytes.length =
      snapshot.data.bytes) :
    decodeState data offset snapshot.schema.chars.length snapshot.data.bytes.length
      snapshot.completeness = some (snapshot,
        offset + snapshot.schema.chars.length + snapshot.data.bytes.length) := by
  unfold decodeState
  by_cases absent : snapshot.completeness = .notProvided
  · rw [NetStateSnapshot.eq_blank consistent absent]
    rfl
  · obtain ⟨schemaSize, dataSize⟩ := NetStateSnapshot.sizes_ne_zero consistent absent
    simp only [schemaSize, dataSize, absent, and_self, or_self, ↓reduceIte, schema, body,
      BoundedText.assign_self, BoundedBytes.assign_self, consistent, Bool.and_self]

/-- The error text is read back where it stands; without an error there is none. -/
theorem decodeError_eq {data : List UInt8} (fields : FieldsOf result data)
    (consistent : result.error.consistent = true) {offset : Nat}
    (message : (data.drop offset).take result.error.message.chars.length =
      result.error.message.chars) (flagged : flagSet (byteAt data 2) flagError =
        decide (result.error.code ≠ .none)) :
    decodeError data offset result.error.message.chars.length result.error.code (byteAt data 2) =
      some result.error := by
  unfold decodeError
  rw [flagged]
  by_cases absent : result.error.code = .none
  · simp only [absent, ne_eq, not_true_eq_false, decide_false, Bool.false_eq_true, ↓reduceIte]
    rw [NetError.eq_blank consistent absent]
  · have retryable : decide (byteAt data 6 ≠ 0) = result.error.retryable := by
      rw [fields.retryable]
      cases result.error.retryable <;> rfl
    simp only [absent, ne_eq, not_false_eq_true, decide_true, ↓reduceIte, message,
      BoundedText.assign_self]
    rw [retryable]

/-- Neither the transaction, once it is set, nor the local metadata bears on consistency. -/
theorem consistent_received (consistent : result.consistent = true) {transactionId : TransactionId}
    (identified : transactionId ≠ 0) (latencyMs : UInt32) :
    NetResult.consistent { result with
      transportFailure := false, transactionId, latencyMs } = true := by
  have transaction := (NetResult.parts consistent).transaction
  simp only [NetResult.consistent, transaction, identified, decide_false, Bool.false_or]
    at consistent ⊢
  exact consistent

theorem decode_layout (consistent : result.consistent = true) {transactionId : TransactionId}
    (identified : transactionId ≠ 0) (latencyMs : UInt32) :
    decode transactionId (layout result).flatten latencyMs =
      .ok { result with transportFailure := false, transactionId, latencyMs } := by
  obtain ⟨_, expected, _, remote, error⟩ := NetResult.parts consistent
  obtain ⟨reserved, started, estimated, progress, expectedFlag, _, errorFlag⟩ := flagsOf_read result
  have received := consistent_received consistent identified latencyMs
  have agree := flags_agree consistent
  have fields := fieldsOf_layout result
  rw [← fields.flags] at reserved started estimated progress expectedFlag errorFlag agree
  have slice := BigEndian.part_at (layout result)
  have expectedState := decodeState_eq expected (slice 7 rfl (show _ = headerSize from rfl))
    (slice 8 rfl (by simp [layout, headerSize]; omega))
  have remoteState := decodeState_eq remote
    (slice 9 rfl (show _ = headerSize + result.execution.expectedFinalState.schema.chars.length +
      result.execution.expectedFinalState.data.bytes.length by simp [layout, headerSize]; omega))
    (slice 10 rfl (by simp [layout, headerSize]; omega))
  have errorState := decodeError_eq fields error
    (slice 11 rfl (show _ = headerSize + result.execution.expectedFinalState.schema.chars.length +
      result.execution.expectedFinalState.data.bytes.length +
      result.remoteState.schema.chars.length + result.remoteState.data.bytes.length by
        simp [layout, headerSize]; omega)) errorFlag
  clear slice
  generalize (layout result).flatten = data at *
  have enough : ¬ data.length < headerSize := by
    rw [← fields.length]
    omega
  have inside : ¬ (result.execution.expectedFinalState.schema.chars.length > 31 ∨
      result.remoteState.schema.chars.length > 31 ∨
      result.execution.expectedFinalState.data.bytes.length > 256 ∨
      result.remoteState.data.bytes.length > 256 ∨ result.error.message.chars.length > 95) := by
    have := result.execution.expectedFinalState.schema.fits
    have := result.remoteState.schema.fits
    have := result.execution.expectedFinalState.data.fits
    have := result.remoteState.data.fits
    have := result.error.message.fits
    omega
  have body : decodeBody transactionId data latencyMs result.status
      result.execution.expectedFinalState.completeness result.remoteState.completeness
      result.error.code =
        .ok { result with transportFailure := false, transactionId, latencyMs } := by
    unfold decodeBody
    simp only [fields.expectedSchemaSize, fields.expectedDataSize, fields.remoteSchemaSize,
      fields.remoteDataSize, fields.errorSize, fields.length, ne_eq, not_true_eq_false, false_or,
      inside, ↓reduceIte, expectedState, remoteState, errorState, agree, true_and,
      started, estimated, progress, expectedFlag, fields.progress, fields.estimated,
      UInt32.ofNat_toNat]
    simp [received]
  unfold decode
  simp only [identified, enough, or_self, ↓reduceIte, fields.version, ne_eq, not_true_eq_false,
    reserved, fields.status, fields.expected, fields.remote, fields.code,
    NetResultStatus.ofByte_toByte, NetStateCompleteness.ofByte_toByte, NetErrorCode.ofByte_toByte,
    body]

/-- An encoded result decodes to itself, under the receiver's transaction and latency. -/
theorem decode_encode {payload : BoundedBytes 640} (encodes : encode result = .ok payload)
    {transactionId : TransactionId} (identified : transactionId ≠ 0) (latencyMs : UInt32) :
    decode transactionId payload.bytes latencyMs =
      .ok { result with transportFailure := false, transactionId, latencyMs } := by
  obtain ⟨consistent, bytes⟩ := encode_ok encodes
  rw [bytes]
  exact decode_layout consistent identified latencyMs

/-- Only the size can keep a consistent result from being encoded. -/
theorem encodes_of_size (consistent : result.consistent = true)
    (short : result.execution.expectedFinalState.schema.chars.length +
      result.execution.expectedFinalState.data.bytes.length +
      result.remoteState.schema.chars.length + result.remoteState.data.bytes.length +
      result.error.message.chars.length ≤ 620) :
    ∃ payload, encode result = .ok payload := by
  have fits : (layout result).flatten.length ≤ 640 := by
    rw [← (fieldsOf_layout result).length]
    simp only [headerSize]
    omega
  rw [encode_eq consistent, dif_pos fits]
  exact ⟨_, rfl⟩

theorem encode_ne_nil {payload : BoundedBytes 640} (encodes : encode result = .ok payload) :
    payload.bytes ≠ [] := by
  rw [(encode_ok encodes).2]
  simp [layout]

end EspNowResultCodec

end EspNowNet
