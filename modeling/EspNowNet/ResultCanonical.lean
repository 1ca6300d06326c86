import EspNowNet.CommandCanonical

/- Results on the wire in both directions: a consistent result that fits a message comes back
   as it was, and an accepted payload is what its result encodes to unless a text was cut at a
   NUL or the header says something about an error that the flags do not announce. -/
namespace EspNowNet
open EspNowCommandCodec (slice slice_append slice_length write_field field_lt byteAt_cons
  assign_short clean_of_length)

namespace EspNowResultCodec

/- From the result to the wire -/

/-- The size of the schema, data and error fields that are present. -/
def presentSize (result : NetResult) : Nat :=
  (if result.execution.hasExpectedFinalState then
    result.execution.expectedFinalState.schema.size + result.execution.expectedFinalState.data.size
  else 0) +
  (if result.remoteState.completeness ≠ .notProvided then
    result.remoteState.schema.size + result.remoteState.data.size
  else 0) +
  (if result.error.code ≠ .none then result.error.message.size else 0)

theorem present_part {condition : Prop} [Decidable condition] (size : Nat)
    (blank : ¬ condition → size = 0) : (if condition then size else 0) = size := by
  split
  · rfl
  · rename_i absent
    exact (blank absent).symm

/-- What is not present has no size. -/
theorem presentSize_eq {result : NetResult} (consistent : result.consistent = true) :
    presentSize result = result.execution.expectedFinalState.schema.chars.length +
      result.execution.expectedFinalState.data.bytes.length +
      (result.remoteState.schema.chars.length + result.remoteState.data.bytes.length) +
      result.error.message.chars.length := by
  obtain ⟨_, expected, flagged, remote, error⟩ := NetResult.parts consistent
  unfold presentSize
  rw [present_part, present_part, present_part]
  · rfl
  · intro absent
    rw [NetError.eq_blank error (by simpa using absent)]
    rfl
  · intro absent
    rw [NetStateSnapshot.eq_blank remote (by simpa using absent)]
    rfl
  · intro unflagged
    rw [NetStateSnapshot.eq_blank expected (by simpa using mt flagged.mpr unflagged)]
    rfl

/-- A consistent result is encoded exactly if its present fields fit, and is then decoded as it
    was, but for what the receiver measures itself. -/
theorem consistent_result_round_trip (result : NetResult) (consistent : result.consistent = true) :
    ((∃ payload, encode result = .ok payload) ↔ 20 + presentSize result ≤ 640) ∧
      ∀ payload, encode result = .ok payload → ∀ latencyMs,
        decode result.transactionId payload.bytes latencyMs =
          .ok { result with latencyMs, transportFailure := false } := by
  have length := (fieldsOf_layout result).length
  constructor
  · rw [presentSize_eq consistent]
    simp only [headerSize] at length
    constructor
    · rintro ⟨payload, encodes⟩
      have fits := payload.fits
      rw [(encode_ok encodes).2] at fits
      omega
    · intro fits
      exact encodes_of_size consistent (by omega)
  · intro payload encodes latencyMs
    exact decode_encode encodes (NetResult.parts consistent).transaction latencyMs

/-- A result that has finished with a final state and no error. -/
def finishedResult : NetResult where
  transactionId := 5
  status := .succeeded
  execution := { started := true }
  remoteState := { completeness := .complete, schema := ⟨[65], by decide, by decide⟩
                   data := ⟨[0, 1], by decide⟩ }

theorem finished_result_round_trip :
    ((∃ payload, encode finishedResult = .ok payload) ↔ 20 + presentSize finishedResult ≤ 640) ∧
      ∀ payload, encode finishedResult = .ok payload → ∀ latencyMs,
        decode 5 payload.bytes latencyMs =
          .ok { finishedResult with latencyMs, transportFailure := false } :=
  consistent_result_round_trip finishedResult (by decide)

end EspNowResultCodec

/- From the wire to the result -/

theorem NetResultStatus.toByte_of_ofByte {byte : UInt8} {status : NetResultStatus}
    (found : NetResultStatus.ofByte? byte = some status) : status.toByte = byte := by
  simpa using List.find?_some found

theorem NetStateCompleteness.toByte_of_ofByte {byte : UInt8} {completeness : NetStateCompleteness}
    (found : NetStateCompleteness.ofByte? byte = some completeness) :
    completeness.toByte = byte := by
  simpa using List.find?_some found

theorem NetErrorCode.toByte_of_ofByte {byte : UInt8} {code : NetErrorCode}
    (found : NetErrorCode.ofByte? byte = some code) : code.toByte = byte := by
  simpa using List.find?_some found

namespace EspNowResultCodec

/- The fields of a payload as its own sizes delimit them -/

section Fields
variable (data : List UInt8)

def expectedSchemaOf : List UInt8 := slice data headerSize (byteAt data 12).toNat

def expectedDataOf : List UInt8 :=
  slice data (headerSize + (byteAt data 12).toNat) (field data 13 2)

def remoteStart : Nat := headerSize + (byteAt data 12).toNat + field data 13 2

def remoteSchemaOf : List UInt8 := slice data (remoteStart data) (byteAt data 15).toNat

def remoteDataOf : List UInt8 :=
  slice data (remoteStart data + (byteAt data 15).toNat) (field data 16 2)

def errorStart : Nat := remoteStart data + (byteAt data 15).toNat + field data 16 2

def errorTextOf : List UInt8 := slice data (errorStart data) (byteAt data 18).toNat

/-- No text of the payload is cut at a NUL, its header speaks of an error only where the flags
    announce one, with a retry flag of zero or one, and it is no longer than a message. -/
structure Canonical : Prop where
  expectedSchema : 0 ∉ expectedSchemaOf data
  remoteSchema : 0 ∉ remoteSchemaOf data
  errorText : 0 ∉ errorTextOf data
  silent : flagSet (byteAt data 2) flagError = false → byteAt data 5 = 0 ∧ byteAt data 6 = 0
  retryable : byteAt data 6 = 0 ∨ byteAt data 6 = 1
  small : data.length ≤ 640

end Fields

/-- A snapshot as it was read: its schema is cut at a NUL, its data is not. -/
structure SnapshotRead (snapshot : NetStateSnapshot) (completeness : NetStateCompleteness)
    (schema data : List UInt8) : Prop where
  completeness : snapshot.completeness = completeness
  schema : snapshot.schema.chars = cString schema
  data : snapshot.data.bytes = data

theorem decodeState_some {data : List UInt8} {offset schemaSize dataSize next : Nat}
    {completeness : NetStateCompleteness} {snapshot : NetStateSnapshot}
    (shortSchema : schemaSize ≤ 31) (shortData : dataSize ≤ 256)
    (run : decodeState data offset schemaSize dataSize completeness = some (snapshot, next)) :
    next = offset + schemaSize + dataSize ∧
      SnapshotRead snapshot completeness (slice data offset schemaSize)
        (slice data (offset + schemaSize) dataSize) := by
  unfold decodeState at run
  split at run
  · rename_i empty
    split at run
    · rename_i absent
      obtain ⟨rfl, rfl⟩ := Prod.mk.inj (Option.some.inj run)
      obtain ⟨rfl, rfl⟩ := empty
      exact ⟨rfl, absent.symm, by simp [slice, cString, BoundedText.clear], by simp [slice]⟩
    · cases run
  · split at run
    · cases run
    · dsimp only at run
      split at run
      · obtain ⟨rfl, rfl⟩ := Prod.mk.inj (Option.some.inj run)
        have shorter : (slice data offset schemaSize).length ≤ 31 := by
          rw [slice, List.length_take]
          omega
        have short : (slice data (offset + schemaSize) dataSize).length ≤ 256 := by
          rw [slice, List.length_take]
          omega
        refine ⟨rfl, rfl, (assign_short shorter).2, ?_⟩
        exact congrArg (fun stored => stored.2.bytes) (BoundedBytes.assign_fits short)
      · cases run

theorem decodeError_some {data : List UInt8} {offset errorSize : Nat} {code : NetErrorCode}
    {flags : UInt8} {error : NetError} (short : errorSize ≤ 95)
    (run : decodeError data offset errorSize code flags = some error) :
    flagSet flags flagError = true ∧ error.code = code ∧
        error.retryable = decide (byteAt data 6 ≠ 0) ∧
        error.message.chars = cString (slice data offset errorSize) ∨
      flagSet flags flagError = false ∧ error = {} := by
  unfold decodeError at run
  split at run
  · rename_i flagged
    have shorter : (slice data offset errorSize).length ≤ 95 := by
      rw [slice, List.length_take]
      omega
    have stored := (assign_short shorter).2
    split at run
    · rename_i message assigned
      obtain rfl := Option.some.inj run
      refine Or.inl ⟨flagged, rfl, rfl, ?_⟩
      rw [← stored]
      exact congrArg (fun stored => stored.2.chars) assigned.symm
    · cases run
  · rename_i unflagged
    exact Or.inr ⟨by simpa using unflagged, (Option.some.inj run).symm⟩

/-- An accepted payload against the result it was decoded to. -/
structure Received (transactionId : TransactionId) (data : List UInt8) (latencyMs : UInt32)
    (result : NetResult) : Prop where
  consistent : result.consistent = true
  long : headerSize ≤ data.length
  version : byteAt data 0 = version
  reserved : byteAt data 2 &&& 0xC0 = 0
  status : result.status.toByte = byteAt data 1
  expected : SnapshotRead result.execution.expectedFinalState
    result.execution.expectedFinalState.completeness (expectedSchemaOf data) (expectedDataOf data)
  expectedByte : result.execution.expectedFinalState.completeness.toByte = byteAt data 3
  remote : SnapshotRead result.remoteState result.remoteState.completeness (remoteSchemaOf data)
    (remoteDataOf data)
  remoteByte : result.remoteState.completeness.toByte = byteAt data 4
  total : errorStart data + (byteAt data 18).toNat = data.length
  error : flagSet (byteAt data 2) flagError = true ∧ result.error.code.toByte = byteAt data 5 ∧
      result.error.retryable = decide (byteAt data 6 ≠ 0) ∧
      result.error.message.chars = cString (errorTextOf data) ∨
    flagSet (byteAt data 2) flagError = false ∧ result.error = {}
  started : result.execution.started = flagSet (byteAt data 2) flagStarted
  estimated : result.execution.hasEstimatedCompletion = flagSet (byteAt data 2) flagEstimated
  progressed : result.execution.hasProgress = flagSet (byteAt data 2) flagProgress
  expects : result.execution.hasExpectedFinalState = flagSet (byteAt data 2) flagExpectedState
  estimate : result.execution.estimatedCompletionMs = UInt32.ofNat (field data 8 4)
  progress : result.execution.progressPercent = byteAt data 7
  agree : flagsConsistent (byteAt data 2) (byteAt data 12).toNat (field data 13 2)
    (byteAt data 15).toNat (field data 16 2) (byteAt data 18).toNat = true

theorem received_of_decoded {transactionId : TransactionId} {data : List UInt8}
    {latencyMs : UInt32} {result : NetResult}
    (decoded : decode transactionId data latencyMs = .ok result) :
    Received transactionId data latencyMs result := by
  unfold decode at decoded
  split at decoded
  · cases decoded
  rename_i enough
  split at decoded
  · cases decoded
  rename_i known
  split at decoded
  · cases decoded
  rename_i reserved
  split at decoded
  rotate_left
  · cases decoded
  rename_i status expectedCompleteness remoteCompleteness errorCode statusByte expectedByte
    remoteByte codeByte
  unfold decodeBody at decoded
  dsimp only at decoded
  split at decoded
  · cases decoded
  rename_i sizes
  split at decoded
  · cases decoded
  rename_i expectedState remoteOffset expectedRun
  split at decoded
  · cases decoded
  rename_i remoteState errorOffset remoteRun
  split at decoded
  · cases decoded
  rename_i error errorRun
  split at decoded
  rotate_left
  · cases decoded
  rename_i accepted
  obtain rfl := Except.ok.inj decoded
  simp only [not_or, Decidable.not_not, ne_eq, Nat.not_lt, gt_iff_lt] at enough known reserved sizes
  obtain ⟨_, agree, consistent⟩ := accepted
  obtain ⟨total, shortExpected, shortRemote, shortExpectedData, shortRemoteData, shortError⟩ := sizes
  obtain ⟨rfl, expected⟩ := decodeState_some shortExpected shortExpectedData expectedRun
  obtain ⟨rfl, remote⟩ := decodeState_some shortRemote shortRemoteData remoteRun
  have errors := decodeError_some shortError errorRun
  constructor
  · exact consistent
  · exact enough.2
  · exact known
  · exact reserved
  · exact NetResultStatus.toByte_of_ofByte statusByte
  · exact ⟨rfl, expected.schema, expected.data⟩
  · rw [expected.completeness]
    exact NetStateCompleteness.toByte_of_ofByte expectedByte
  · exact ⟨rfl, remote.schema, remote.data⟩
  · rw [remote.completeness]
    exact NetStateCompleteness.toByte_of_ofByte remoteByte
  · simp only [errorStart, remoteStart]
    omega
  · rcases errors with ⟨flagged, code, rest⟩ | silent
    · exact Or.inl ⟨flagged, code ▸ NetErrorCode.toByte_of_ofByte codeByte, rest⟩
    · exact Or.inr silent
  · rfl
  · rfl
  · rfl
  · rfl
  · rfl
  · rfl
  · exact agree

variable {transactionId : TransactionId} {data : List UInt8} {latencyMs : UInt32}
  {result : NetResult}

/-- The two byte strings are the same but for the reserved byte of the header. -/
def SameButReserved (written received : List UInt8) : Prop :=
  ∀ i, i ≠ 19 → written[i]? = received[i]?

theorem byteAt_of_same {written received : List UInt8} (same : SameButReserved written received)
    {i : Nat} (other : i ≠ 19) : byteAt written i = byteAt received i := by
  simp only [byteAt, List.getD, same i other]

theorem field_of_same {written received : List UInt8} (same : SameButReserved written received)
    {offset width : Nat} (before : offset + width ≤ 19) :
    field written offset width = field received offset width := by
  have slices : (written.drop offset).take width = (received.drop offset).take width := by
    apply List.ext_getElem?
    intro i
    simp only [List.getElem?_take, List.getElem?_drop]
    split
    · exact same _ (by omega)
    · rfl
  rw [field, field, slices]

/-- Lists that are put together around one differing element. -/
theorem same_of_split {written received : List UInt8} {front back : List UInt8} {a b : UInt8}
    (split : written = front ++ a :: back) (split' : received = front ++ b :: back)
    (place : front.length = 19) : SameButReserved written received := by
  intro i other
  subst split split'
  rcases Nat.lt_or_ge i 19 with before | after
  · rw [List.getElem?_append_left (by omega), List.getElem?_append_left (by omega)]
  · rw [List.getElem?_append_right (by omega), List.getElem?_append_right (by omega)]
    obtain ⟨k, rfl⟩ : ∃ k, i = front.length + (k + 1) := ⟨i - front.length - 1, by omega⟩
    simp

/-- Flags without reserved bits are put together from what they announce. -/
theorem flags_of_bits (flags : UInt8) (reserved : flags &&& 0xC0 = 0) :
    flag (flagSet flags flagStarted) flagStarted |||
      flag (flagSet flags flagEstimated) flagEstimated |||
      flag (flagSet flags flagProgress) flagProgress |||
      flag (flagSet flags flagExpectedState) flagExpectedState |||
      flag (flagSet flags flagRemoteState) flagRemoteState |||
      flag (flagSet flags flagError) flagError = flags := by
  have all : ∀ n : Fin 256, UInt8.ofNat n &&& 0xC0 = 0 →
      flag (flagSet (UInt8.ofNat n) flagStarted) flagStarted |||
        flag (flagSet (UInt8.ofNat n) flagEstimated) flagEstimated |||
        flag (flagSet (UInt8.ofNat n) flagProgress) flagProgress |||
        flag (flagSet (UInt8.ofNat n) flagExpectedState) flagExpectedState |||
        flag (flagSet (UInt8.ofNat n) flagRemoteState) flagRemoteState |||
        flag (flagSet (UInt8.ofNat n) flagError) flagError = UInt8.ofNat n := by
    decide +kernel
  have own := all ⟨flags.toNat, flags.toNat_lt⟩
  simp only [UInt8.ofNat_toNat] at own
  exact own reserved

section Canonicity
variable (received : Received transactionId data latencyMs result)
include received

theorem sizes_of_received :
    (expectedSchemaOf data).length = (byteAt data 12).toNat ∧
      (expectedDataOf data).length = field data 13 2 ∧
      (remoteSchemaOf data).length = (byteAt data 15).toNat ∧
      (remoteDataOf data).length = field data 16 2 ∧
      (errorTextOf data).length = (byteAt data 18).toNat := by
  have total := received.total
  have start : errorStart data = headerSize + (byteAt data 12).toNat + field data 13 2 +
      (byteAt data 15).toNat + field data 16 2 := rfl
  have middle : remoteStart data = headerSize + (byteAt data 12).toNat + field data 13 2 := rfl
  refine ⟨?_, ?_, ?_, ?_, ?_⟩
  · exact slice_length (by omega)
  · exact slice_length (by omega)
  · exact slice_length (by omega)
  · exact slice_length (by omega)
  · exact slice_length (by omega)

/-- A payload that is written back as it came was canonical. -/
theorem canonical_of_same (same : SameButReserved (layout result).flatten data)
    (fits : (layout result).flatten.length ≤ 640) : Canonical data := by
  have fields := fieldsOf_layout result
  obtain ⟨expectedSchema, expectedData, remoteSchema, remoteData, errorText⟩ :=
    sizes_of_received received
  have sizeExpected := fields.expectedSchemaSize
  have sizeRemote := fields.remoteSchemaSize
  have sizeError := fields.errorSize
  have code := fields.code
  have retryable := fields.retryable
  have sizeExpectedData := fields.expectedDataSize
  have sizeRemoteData := fields.remoteDataSize
  rw [byteAt_of_same same (by decide)] at sizeExpected sizeRemote sizeError code retryable
  rw [field_of_same same (by decide)] at sizeExpectedData sizeRemoteData
  constructor
  · apply clean_of_length
    rw [← received.expected.schema, expectedSchema, sizeExpected]
  · apply clean_of_length
    rw [← received.remote.schema, remoteSchema, sizeRemote]
  · rcases received.error with ⟨_, _, _, message⟩ | ⟨_, blank⟩
    · apply clean_of_length
      rw [← message, errorText, sizeError]
    · have empty : (errorTextOf data).length = 0 := by
        rw [errorText, sizeError, blank]
        rfl
      rw [List.length_eq_zero_iff.mp empty]
      simp
  · intro unflagged
    rcases received.error with ⟨flagged, _⟩ | ⟨_, blank⟩
    · rw [unflagged] at flagged
      cases flagged
    · rw [code, retryable, blank]
      exact ⟨rfl, rfl⟩
  · rw [retryable]
    cases result.error.retryable with
    | false => exact Or.inl rfl
    | true => exact Or.inr rfl
  · have written := fields.length
    have total := received.total
    simp only [errorStart, remoteStart] at total
    omega

/-- The parts of a canonical payload are those of its result. -/
theorem parts_of_canonical (canonical : Canonical data) :
    result.execution.expectedFinalState.schema.chars = expectedSchemaOf data ∧
      result.remoteState.schema.chars = remoteSchemaOf data ∧
      result.error.message.chars = errorTextOf data := by
  refine ⟨?_, ?_, ?_⟩
  · rw [received.expected.schema, cString_eq_self canonical.expectedSchema]
  · rw [received.remote.schema, cString_eq_self canonical.remoteSchema]
  · rcases received.error with ⟨_, _, _, message⟩ | ⟨unflagged, blank⟩
    · rw [message, cString_eq_self canonical.errorText]
    · have agree := received.agree
      simp only [flagsConsistent, unflagged, Bool.and_eq_true, beq_iff_eq] at agree
      have none : (byteAt data 18).toNat = 0 := by simpa using agree.2.symm
      have empty : (errorTextOf data).length = 0 := by
        rw [(sizes_of_received received).2.2.2.2, none]
      rw [blank, List.length_eq_zero_iff.mp empty]
      rfl

theorem flagsOf_canonical (canonical : Canonical data) : flagsOf result = byteAt data 2 := by
  obtain ⟨_, expectedOk, _, remoteOk, errorOk⟩ := NetResult.parts received.consistent
  obtain ⟨_, remoteSchema, errorText⟩ := parts_of_canonical received canonical
  obtain ⟨_, _, remoteLength, remoteData, errorLength⟩ := sizes_of_received received
  have agree := received.agree
  simp only [flagsConsistent, Bool.and_eq_true, beq_iff_eq] at agree
  have remoteFlag : decide (result.remoteState.completeness ≠ .notProvided) =
      flagSet (byteAt data 2) flagRemoteState := by
    rw [← NetStateSnapshot.sizes_flag remoteOk, remoteSchema, received.remote.data, remoteLength,
      remoteData, agree.1.2]
  have errorFlag : decide (result.error.code ≠ .none) = flagSet (byteAt data 2) flagError := by
    rw [← NetError.size_flag errorOk, errorText, errorLength, agree.2]
  rw [flagsOf, received.started, received.estimated, received.progressed, received.expects,
    remoteFlag, errorFlag]
  exact flags_of_bits _ received.reserved

/-- A canonical payload is written back as it came. -/
theorem same_of_canonical (canonical : Canonical data) :
    SameButReserved (layout result).flatten data := by
  obtain ⟨expectedSchema, remoteSchema, errorText⟩ := parts_of_canonical received canonical
  obtain ⟨expectedLength, expectedData, remoteLength, remoteData, errorLength⟩ :=
    sizes_of_received received
  have flags := flagsOf_canonical received canonical
  have total := received.total
  have long := received.long
  simp only [headerSize] at long
  have code : result.error.code.toByte = byteAt data 5 ∧
      (if result.error.retryable then (1 : UInt8) else 0) = byteAt data 6 := by
    rcases received.error with ⟨_, code, retryable, _⟩ | ⟨unflagged, blank⟩
    · refine ⟨code, ?_⟩
      rw [retryable]
      rcases canonical.retryable with zero | one
      · simp [zero]
      · simp [one]
    · obtain ⟨code, retryable⟩ := canonical.silent unflagged
      rw [blank, code, retryable]
      exact ⟨rfl, rfl⟩
  have estimate : result.execution.estimatedCompletionMs.toNat = field data 8 4 := by
    rw [received.estimate]
    exact UInt32.toNat_ofNat_of_lt' (field_lt (by omega))
  let front : List UInt8 := [byteAt data 0, byteAt data 1, byteAt data 2, byteAt data 3,
    byteAt data 4, byteAt data 5, byteAt data 6, byteAt data 7] ++ slice data 8 4 ++
    [byteAt data 12] ++ slice data 13 2 ++ [byteAt data 15] ++ slice data 16 2 ++ [byteAt data 18]
  have place : front.length = 19 := by
    simp only [front, List.length_append, slice_length (show 8 + 4 ≤ data.length by omega),
      slice_length (show 13 + 2 ≤ data.length by omega),
      slice_length (show 16 + 2 ≤ data.length by omega)]
    rfl
  have body : expectedSchemaOf data ++ (expectedDataOf data ++ (remoteSchemaOf data ++
      (remoteDataOf data ++ errorTextOf data))) = data.drop 20 := by
    have rest : errorTextOf data = data.drop (errorStart data) := by
      rw [← slice_append data (errorStart data) (byteAt data 18).toNat,
        List.drop_eq_nil_of_le (by omega), List.append_nil]
      rfl
    rw [rest, ← slice_append data 20 (byteAt data 12).toNat,
      ← slice_append data (20 + (byteAt data 12).toNat) (field data 13 2),
      ← slice_append data (20 + (byteAt data 12).toNat + field data 13 2) (byteAt data 15).toNat,
      ← slice_append data (20 + (byteAt data 12).toNat + field data 13 2 + (byteAt data 15).toNat)
        (field data 16 2)]
    rfl
  apply @same_of_split _ _ front (data.drop 20) 0 (byteAt data 19)
  · have header : (layout result).flatten = front ++ 0 :: (expectedSchemaOf data ++
        (expectedDataOf data ++ (remoteSchemaOf data ++ (remoteDataOf data ++
          errorTextOf data)))) := by
      simp only [layout, expectedSchema, remoteSchema, errorText, received.expected.data,
        received.remote.data, expectedLength, expectedData, remoteLength, remoteData, errorLength,
        flags, code.1, code.2, estimate, received.status, received.expectedByte,
        received.remoteByte, received.progress, UInt8.ofNat_toNat, ← received.version,
        write_field (show 8 + 4 ≤ data.length by omega),
        write_field (show 13 + 2 ≤ data.length by omega),
        write_field (show 16 + 2 ≤ data.length by omega), front]
      simp
    rw [header, body]
  · have tail : data.drop 8 = slice data 8 4 ++ (byteAt data 12 :: (slice data 13 2 ++
        (byteAt data 15 :: (slice data 16 2 ++ (byteAt data 18 :: byteAt data 19 ::
          data.drop 20))))) := by
      rw [byteAt_cons (by omega), byteAt_cons (by omega), slice_append, byteAt_cons (by omega),
        slice_append, byteAt_cons (by omega), slice_append]
    have whole : [byteAt data 0, byteAt data 1, byteAt data 2, byteAt data 3, byteAt data 4,
        byteAt data 5, byteAt data 6, byteAt data 7] ++ data.drop 8 = data := by
      simp only [List.cons_append, List.nil_append]
      rw [byteAt_cons (by omega), byteAt_cons (by omega), byteAt_cons (by omega),
        byteAt_cons (by omega), byteAt_cons (by omega), byteAt_cons (by omega),
        byteAt_cons (by omega), byteAt_cons (by omega), List.drop_zero]
    rw [tail] at whole
    simpa [front] using whole.symm
  · exact place

end Canonicity

/-- An accepted payload is consistent, and is what its result encodes to, but for the reserved
    byte, exactly if it is canonical. -/
theorem accepted_result_canonical_iff
    (decoded : decode transactionId data latencyMs = .ok result) :
    (result.consistent = true ∧
      ∃ payload, encode result = .ok payload ∧ SameButReserved payload.bytes data) ↔
    Canonical data := by
  have received := received_of_decoded decoded
  constructor
  · rintro ⟨_, payload, encodes, same⟩
    have written := (encode_ok encodes).2
    have fits := payload.fits
    rw [written] at same fits
    exact canonical_of_same received same fits
  · intro canonical
    have same := same_of_canonical received canonical
    have small := canonical.small
    have total := received.total
    obtain ⟨expectedSchema, remoteSchema, errorText⟩ := parts_of_canonical received canonical
    obtain ⟨expectedLength, expectedData, remoteLength, remoteData, errorLength⟩ :=
      sizes_of_received received
    have fits : (layout result).flatten.length ≤ 640 := by
      rw [← (fieldsOf_layout result).length, expectedSchema, remoteSchema, errorText,
        received.expected.data, received.remote.data, expectedLength, expectedData, remoteLength,
        remoteData, errorLength]
      simp only [errorStart, remoteStart] at total
      omega
    refine ⟨received.consistent, ⟨_, fits⟩, ?_, same⟩
    rw [encode_eq received.consistent, dif_pos fits]

/-- A result without an error, and the same result whose header names one all the same. -/
def plainResult : List UInt8 := [1, 0, 1, 0, 0, 0, 0, 0, 0, 0, 0, 0, 0, 0, 0, 0, 0, 0, 0, 0]
def contradictingResult : List UInt8 :=
  [1, 0, 1, 0, 0, 3, 1, 0, 0, 0, 0, 0, 0, 0, 0, 0, 0, 0, 0, 0]

def startedResult : NetResult :=
  { transactionId := 5, status := .succeeded, execution := { started := true }, latencyMs := 7 }

theorem plain_result_canonical :
    (startedResult.consistent = true ∧ ∃ payload, encode startedResult = .ok payload ∧
      SameButReserved payload.bytes plainResult) ↔ Canonical plainResult :=
  accepted_result_canonical_iff 
    (show decode 5 plainResult 7 = .ok startedResult from by decide +kernel)

theorem contradicting_result_not_canonical :
    decode 5 contradictingResult 7 = .ok startedResult ∧
      decode 5 plainResult 7 = .ok startedResult ∧
      ¬ ∃ payload, encode startedResult = .ok payload ∧
        SameButReserved payload.bytes contradictingResult := by
  refine ⟨by decide +kernel, by decide +kernel, ?_⟩
  rintro ⟨payload, encodes, same⟩
  have written : encode startedResult = .ok ⟨plainResult, by decide⟩ := by rfl
  rw [written] at encodes
  obtain rfl := Except.ok.inj encodes
  have code := same 5 (by decide)
  simp [plainResult, contradictingResult] at code

end EspNowResultCodec

end EspNowNet
