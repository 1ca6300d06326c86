import EspNowNet.CommandCodec
import EspNowNet.ResultRoundTrip

/- A command's payload as a record of the fields that stand on the wire. The encoder writes
   such a record, and whatever the decoder accepts is one. The decoder moves three of the
   fields through C strings, so these lose what follows a NUL. -/
namespace EspNowNet

/-- The fields of a payload as they stand in it. The source is its id and its boot id. -/
structure WireCommand where
  device : List UInt8
  resource : List UInt8
  name : List UInt8
  body : List UInt8
  timeoutMs : UInt32
  source : Option (List UInt8 × UInt64)
  deriving DecidableEq

namespace WireCommand

def sourceParts : Option (List UInt8 × UInt64) → List (List UInt8)
  | none => []
  | some (id, bootId) => [[UInt8.ofNat id.length], BigEndian.write 8 bootId.toNat, id]

def layout (w : WireCommand) : List (List UInt8) :=
  [[if w.source.isNone then EspNowCommandCodec.version else EspNowCommandCodec.identityVersion,
      UInt8.ofNat w.device.length, UInt8.ofNat w.resource.length, UInt8.ofNat w.name.length],
    BigEndian.write 2 w.body.length, BigEndian.write 4 w.timeoutMs.toNat, w.device, w.resource,
    w.name, w.body] ++ sourceParts w.source

def bytes (w : WireCommand) : List UInt8 := w.layout.flatten

/-- What the decoder makes of the fields. -/
def command (w : WireCommand) (transactionId : TransactionId) : NetCommand where
  transactionId := transactionId
  deviceId := (BoundedText.assign w.device).2
  resource := (BoundedText.assign w.resource).2
  name := (BoundedText.assign w.name).2
  payload := (BoundedBytes.assign w.body).2
  sourceDeviceId := (w.source.map fun source => (BoundedText.assign source.1).2).getD .clear
  sourceBootId := (w.source.map (·.2)).getD 0
  timeoutMs := w.timeoutMs

/-- The checks the decoder makes before it copies anything. -/
structure Fits (w : WireCommand) : Prop where
  device : 0 < w.device.length ∧ w.device.length ≤ 63
  resource : w.resource.length ≤ 63
  name : 0 < w.name.length ∧ w.name.length ≤ 47
  body : w.body.length ≤ 256
  timeout : w.timeoutMs ≠ 0
  source : ∀ source ∈ w.source,
    0 < source.1.length ∧ source.1.length ≤ 63 ∧ source.2 ≠ 0 ∧ 0 ∉ source.1

/-- The fields that reach the command through a C string hold none of its ends. -/
def NulFree (w : WireCommand) : Prop := 0 ∉ w.device ∧ 0 ∉ w.resource ∧ 0 ∉ w.name

/-- The fields of a command. -/
def ofCommand (c : NetCommand) : WireCommand where
  device := c.deviceId.chars
  resource := c.resource.chars
  name := c.name.chars
  body := c.payload.bytes
  timeoutMs := c.timeoutMs
  source := if c.sourceDeviceId.size = 0 then none else some (c.sourceDeviceId.chars, c.sourceBootId)

end WireCommand

namespace EspNowCommandCodec
open WireCommand

/- Writing -/

theorem ofCommand_source {c : NetCommand} (valid : c.Valid) (source : List UInt8 × UInt64)
    (present : source ∈ (ofCommand c).source) :
    source = (c.sourceDeviceId.chars, c.sourceBootId) ∧ 0 < c.sourceDeviceId.size ∧
      c.sourceBootId ≠ 0 := by
  simp only [ofCommand] at present
  split at present
  · simp at present
  · rename_i identified
    have same : source = (c.sourceDeviceId.chars, c.sourceBootId) := by
      simpa using present.symm
    refine ⟨same, Nat.pos_of_ne_zero identified, ?_⟩
    intro none
    have empty := valid.2.2.2.2.mpr none
    simp only [BoundedText.isEmpty, List.isEmpty_iff] at empty
    exact identified (by simp [BoundedText.size, empty])

theorem fits_ofCommand {c : NetCommand} (valid : c.Valid) : (ofCommand c).Fits := by
  have nonempty {capacity : Nat} {text : BoundedText capacity} (filled : text.isEmpty = false) :
      0 < text.chars.length := by
    apply List.length_pos_iff.mpr
    simpa [BoundedText.isEmpty] using filled
  obtain ⟨_, device, name, timeout, _⟩ := id valid
  constructor
  · exact ⟨nonempty device, c.deviceId.fits⟩
  · exact c.resource.fits
  · exact ⟨nonempty name, c.name.fits⟩
  · exact c.payload.fits
  · exact timeout
  · intro source present
    obtain ⟨rfl, filled, bootId⟩ := ofCommand_source valid source present
    exact ⟨filled, c.sourceDeviceId.fits, bootId, c.sourceDeviceId.noNul⟩

theorem command_ofCommand {c : NetCommand} (valid : c.Valid) :
    (ofCommand c).command c.transactionId = c := by
  obtain ⟨transactionId, deviceId, resource, name, payload, sourceDeviceId, sourceBootId,
    timeoutMs⟩ := c
  simp only [WireCommand.command, ofCommand, BoundedText.assign_self, BoundedBytes.assign_self]
  split
  · rename_i anonymous
    have empty : sourceDeviceId = .clear := by
      obtain ⟨chars, _, _⟩ := sourceDeviceId
      obtain rfl := List.length_eq_zero_iff.mp anonymous
      rfl
    have unboot : sourceBootId = 0 := valid.2.2.2.2.mp (by rw [empty]; rfl)
    simp [empty, unboot]
  · simp [BoundedText.assign_self]

theorem length_bytes (w : WireCommand) : w.bytes.length =
    headerSize + w.device.length + w.resource.length + w.name.length + w.body.length +
      (w.source.map fun source => 9 + source.1.length).getD 0 := by
  cases found : w.source with
  | none => simp [WireCommand.bytes, layout, sourceParts, found, headerSize]; omega
  | some source => simp [WireCommand.bytes, layout, sourceParts, found, headerSize]; omega

theorem bytes_fit {w : WireCommand} (fits : w.Fits) : w.bytes.length ≤ 511 := by
  obtain ⟨device, resource, name, body, _, source⟩ := fits
  rw [length_bytes]
  simp only [headerSize]
  cases found : w.source with
  | none =>
    simp only [Option.map_none, Option.getD_none]
    omega
  | some identity =>
    have short := (source identity found).2.1
    simp only [Option.map_some, Option.getD_some]
    omega

theorem sourceParts_ofCommand (c : NetCommand) :
    (sourceParts (ofCommand c).source).flatten = sourceBytes c := by
  unfold ofCommand sourceBytes
  by_cases anonymous : c.sourceDeviceId.size = 0
  · simp only [anonymous, ↓reduceIte, sourceParts, List.flatten_nil]
  · simp only [anonymous, ↓reduceIte, sourceParts]
    simp [BoundedText.size]

theorem encode_eq {c : NetCommand} (valid : c.Valid) :
    encode c = .ok ⟨(ofCommand c).bytes, bytes_fit (fits_ofCommand valid)⟩ := by
  have fits := bytes_fit (fits_ofCommand valid)
  have device : c.deviceId.size ≤ 63 := c.deviceId.fits
  have resource : c.resource.size ≤ 63 := c.resource.fits
  have name : c.name.size ≤ 47 := c.name.fits
  have body : c.payload.size ≤ 256 := c.payload.fits
  have source : (if c.sourceDeviceId.size = 0 then 0 else 9 + c.sourceDeviceId.size) ≤ 72 := by
    have short : c.sourceDeviceId.size ≤ 63 := c.sourceDeviceId.fits
    split
    · omega
    · omega
  have written : [if c.sourceDeviceId.size = 0 then version else identityVersion,
      UInt8.ofNat c.deviceId.size, UInt8.ofNat c.resource.size, UInt8.ofNat c.name.size] ++
      BigEndian.write 2 c.payload.size ++ BigEndian.write 4 c.timeoutMs.toNat ++
      c.deviceId.chars ++ c.resource.chars ++ c.name.chars ++ c.payload.bytes ++
      sourceBytes c = (ofCommand c).bytes := by
    have first : (ofCommand c).source.isNone = decide (c.sourceDeviceId.size = 0) := by
      by_cases anonymous : c.sourceDeviceId.size = 0
      · simp [ofCommand, anonymous]
      · simp [ofCommand, anonymous]
    rw [WireCommand.bytes, layout, List.flatten_append, sourceParts_ofCommand, first]
    simp [ofCommand, BoundedText.size, BoundedBytes.size]
  have small : ¬ (c.deviceId.size > 255 ∨ c.resource.size > 255 ∨ c.name.size > 255 ∨
      c.payload.size > 65535 ∨ headerSize + c.deviceId.size + c.resource.size + c.name.size +
        c.payload.size + (if c.sourceDeviceId.size = 0 then 0 else 9 + c.sourceDeviceId.size) >
          maxSize) := by
    simp only [headerSize, maxSize]
    omega
  unfold encode
  simp only [valid, not_true_eq_false, ↓reduceIte, small, written, BoundedBytes.assign_fits fits]

/- Reading -/

/-- A text that fits its slot is stored up to its first NUL. -/
theorem assign_short {capacity : Nat} {value : List UInt8} (short : value.length ≤ capacity) :
    (@BoundedText.assign capacity value).1 = true ∧
      (@BoundedText.assign capacity value).2.chars = cString value := by
  have kept : (cString value).length ≤ capacity :=
    Nat.le_trans (List.takeWhile_sublist _).length_le short
  unfold BoundedText.assign
  rw [dif_pos kept]
  exact ⟨rfl, rfl⟩

theorem byteAt_part (parts : List (List UInt8)) (n : Nat) {offset : Nat} {byte : UInt8}
    (found : parts[n]? = some [byte]) (place : (parts.take n).flatten.length = offset) :
    byteAt parts.flatten offset = byte := by
  have part := BigEndian.part_at parts n found place
  have first : ((parts.flatten.drop offset).take 1)[0]? = some byte := by
    rw [show 1 = [byte].length from rfl, part]
    rfl
  rw [List.getElem?_take, if_pos (by omega), List.getElem?_drop, Nat.add_zero] at first
  simp [byteAt, List.getD, first]

def bodyEnd (w : WireCommand) : Nat :=
  headerSize + w.device.length + w.resource.length + w.name.length + w.body.length

/-- The fields read back at the offsets of the decoder. -/
structure ReadsAs (w : WireCommand) (data : List UInt8) : Prop where
  length : data.length = bodyEnd w + (w.source.map fun source => 9 + source.1.length).getD 0
  version : byteAt data 0 = if w.source.isNone then version else identityVersion
  deviceSize : (byteAt data 1).toNat = w.device.length
  resourceSize : (byteAt data 2).toNat = w.resource.length
  nameSize : (byteAt data 3).toNat = w.name.length
  bodySize : field data 4 2 = w.body.length
  timeout : field data 6 4 = w.timeoutMs.toNat
  device : slice data headerSize w.device.length = w.device
  resource : slice data (headerSize + w.device.length) w.resource.length = w.resource
  name : slice data (headerSize + w.device.length + w.resource.length) w.name.length = w.name
  body : slice data (headerSize + w.device.length + w.resource.length + w.name.length)
    w.body.length = w.body
  source : ∀ source ∈ w.source, (byteAt data (bodyEnd w)).toNat = source.1.length ∧
    field data (bodyEnd w + 1) 8 = source.2.toNat ∧
    slice data (bodyEnd w + 9) source.1.length = source.1

theorem readsAs_bytes {w : WireCommand} (fits : w.Fits) : ReadsAs w w.bytes := by
  obtain ⟨device, resource, name, body, _, source⟩ := fits
  constructor
  · exact length_bytes w
  · rfl
  · exact EspNowResultCodec.byte_of_length (by omega)
  · exact EspNowResultCodec.byte_of_length (by omega)
  · exact EspNowResultCodec.byte_of_length (by omega)
  · exact BigEndian.read_part 1 4 2 rfl rfl (by omega)
  · exact BigEndian.read_part 2 6 4 rfl rfl (UInt32.toNat_lt _)
  · exact BigEndian.part_at w.layout 3 rfl (by simp [layout, headerSize])
  · exact BigEndian.part_at w.layout 4 rfl (by simp [layout, headerSize]; omega)
  · exact BigEndian.part_at w.layout 5 rfl (by simp [layout, headerSize]; omega)
  · exact BigEndian.part_at w.layout 6 rfl (by simp [layout, headerSize]; omega)
  · intro identity present
    have short := (source identity present).2.1
    have parts : w.layout = w.layout.take 7 ++ sourceParts (some identity) := by
      rw [← Option.mem_def.mp present]
      rfl
    have front : (w.layout.take 7).flatten.length = bodyEnd w := by
      simp [layout, bodyEnd, headerSize]
      omega
    have size : w.layout[7]? = some [UInt8.ofNat identity.1.length] := by
      rw [parts]
      rfl
    have bootId : w.layout[8]? = some (BigEndian.write 8 identity.2.toNat) := by
      rw [parts]
      rfl
    have id : w.layout[9]? = some identity.1 := by
      rw [parts]
      rfl
    have afterSize : (w.layout.take 8).flatten.length = bodyEnd w + 1 := by
      rw [List.take_add_one, size]
      simp [front]
    have afterBoot : (w.layout.take 9).flatten.length = bodyEnd w + 9 := by
      rw [List.take_add_one, bootId]
      simp [afterSize]
    refine ⟨?_, ?_, ?_⟩
    · rw [WireCommand.bytes, byteAt_part w.layout 7 size front]
      exact EspNowResultCodec.byte_of_length (by omega)
    · exact BigEndian.read_part 8 _ 8 bootId afterSize (UInt64.toNat_lt _)
    · exact BigEndian.part_at w.layout 9 id afterBoot

theorem decodeSource_eq {w : WireCommand} {data : List UInt8} (fits : w.Fits)
    (reads : ReadsAs w data) : decodeSource data (bodyEnd w) =
      some ((w.source.map fun source => (source.1.length, source.2)).getD (0, 0)) := by
  unfold decodeSource
  rw [reads.version]
  cases found : w.source with
  | none =>
    rw [if_pos (by simp; decide)]
    rfl
  | some identity =>
    obtain ⟨nonempty, short, bootId, _⟩ := fits.source identity found
    obtain ⟨size, boot, _⟩ := reads.source identity found
    have length := reads.length
    simp only [found, Option.map_some, Option.getD_some] at length
    have enough : ¬ data.length < bodyEnd w + 9 := by omega
    have accepted : ¬ (identity.1.length = 0 ∨ identity.1.length > 63 ∨ identity.2 = 0 ∨
        bodyEnd w + 9 + identity.1.length ≠ data.length) := by
      simp only [bootId, false_or]
      omega
    simp only [Option.isNone_some, Bool.false_eq_true, ↓reduceIte, ne_eq, not_true_eq_false,
      enough, size, boot, UInt64.ofNat_toNat, Option.map_some, Option.getD_some]
    rw [if_neg accepted]

/-- The decoder reads the fields back, and keeps the command if it is valid. -/
theorem decode_eq {w : WireCommand} {data : List UInt8} (fits : w.Fits) (reads : ReadsAs w data)
    {transactionId : TransactionId} (identified : transactionId ≠ 0) :
    decode transactionId data =
      if (w.command transactionId).Valid then .ok (w.command transactionId)
      else .error .invalidPayload := by
  have source := decodeSource_eq fits reads
  have length := reads.length
  obtain ⟨device, resource, name, body, timeout, identity⟩ := fits
  have enough : ¬ (transactionId = 0 ∨ data.length < headerSize) := by
    simp only [identified, false_or, bodyEnd] at *
    omega
  have known : ¬ (byteAt data 0 ≠ version ∧ byteAt data 0 ≠ identityVersion) := by
    rw [reads.version]
    split
    · simp
    · simp
  have accepted : ¬ (w.device.length = 0 ∨ w.device.length > 63 ∨ w.resource.length > 63 ∨
      w.name.length = 0 ∨ w.name.length > 47 ∨ w.body.length > 256 ∨ w.timeoutMs = 0 ∨
      bodyEnd w > data.length ∨ (byteAt data 0 = version ∧ bodyEnd w ≠ data.length)) := by
    have exact' : byteAt data 0 = version → bodyEnd w = data.length := by
      rw [reads.version, length]
      cases w.source with
      | none => simp
      | some identity =>
        intro other
        simp [version, identityVersion] at other
    simp only [timeout, false_or]
    rintro (empty | long | long | empty | long | long | short | ⟨first, short⟩)
    · omega
    · omega
    · omega
    · omega
    · omega
    · omega
    · omega
    · exact short (exact' first)
  have sourceText : slice data (bodyEnd w + 9)
      ((w.source.map fun source => (source.1.length, source.2)).getD (0, 0)).1 =
        (w.source.map (·.1)).getD [] := by
    cases found : w.source with
    | none => simp [slice]
    | some identity => exact (reads.source identity found).2.2
  have clean : ((w.source.map (·.1)).getD []).contains 0 = false := by
    cases found : w.source with
    | none => rfl
    | some source => simpa using (identity source found).2.2.2
  have sourceId : (if ((w.source.map fun source => (source.1.length, source.2)).getD (0, 0)).1 = 0
      then (true, .clear) else BoundedText.assign ((w.source.map (·.1)).getD [])) =
        (true, (w.command transactionId).sourceDeviceId) := by
    cases found : w.source with
    | none => simp [WireCommand.command, found]
    | some source =>
      obtain ⟨nonempty, short, _⟩ := identity source found
      have filled : source.1.length ≠ 0 := by omega
      simp only [Option.map_some, Option.getD_some, filled, ↓reduceIte, WireCommand.command, found]
      exact Prod.ext (assign_short short).1 rfl
  have bootId : ((w.source.map fun source => (source.1.length, source.2)).getD (0, 0)).2 =
      (w.command transactionId).sourceBootId := by
    cases found : w.source with
    | none => simp [WireCommand.command, found]
    | some source => simp [WireCommand.command, found]
  have payload : (@BoundedBytes.assign 256 w.body).1 = true := by
    rw [BoundedBytes.assign_fits body]
  unfold decode
  simp only [enough, ↓reduceIte, known, reads.deviceSize, reads.resourceSize, reads.nameSize,
    reads.bodySize, reads.timeout, UInt32.ofNat_toNat, reads.device, reads.resource, reads.name,
    reads.body]
  rw [show headerSize + w.device.length + w.resource.length + w.name.length + w.body.length =
    bodyEnd w from rfl, if_neg accepted, source]
  simp only [sourceText, clean, Bool.false_eq_true, ↓reduceIte, sourceId, bootId,
    (assign_short device.2).1, (assign_short resource).1, (assign_short name.2).1,
    payload, Bool.true_and, Bool.and_self, decide_eq_true_eq]
  rfl

/-- What a valid command is encoded to is read back as the command. -/
theorem decode_encoded {c : NetCommand} (valid : c.Valid) {payload : BoundedBytes 511}
    (encodes : encode c = .ok payload) : decode c.transactionId payload.bytes = .ok c := by
  have fits := fits_ofCommand valid
  rw [encode_eq valid] at encodes
  obtain rfl := Except.ok.inj encodes
  rw [decode_eq fits (readsAs_bytes fits) valid.1, command_ofCommand valid, if_pos valid]

theorem valid_command_round_trip (c : NetCommand) (valid : c.Valid) :
    ∃ payload, encode c = .ok payload ∧ payload.bytes.length ≤ 511 ∧
      decode c.transactionId payload.bytes = .ok c := by
  have fits := fits_ofCommand valid
  refine ⟨_, encode_eq valid, bytes_fit fits, ?_⟩
  rw [decode_eq fits (readsAs_bytes fits) valid.1, command_ofCommand valid, if_pos valid]

/-- A command whose fields are all as long as they can be. -/
def maximalCommand : NetCommand where
  transactionId := 5
  deviceId := ⟨List.replicate 63 65, by decide, by decide⟩
  resource := ⟨List.replicate 63 66, by decide, by decide⟩
  name := ⟨List.replicate 47 67, by decide, by decide⟩
  payload := ⟨List.replicate 256 0, by rw [List.length_replicate]⟩
  sourceDeviceId := ⟨List.replicate 63 68, by decide, by decide⟩
  sourceBootId := 9
  timeoutMs := 1000

theorem maximal_command_round_trip :
    ∃ payload, encode maximalCommand = .ok payload ∧ payload.bytes.length ≤ 511 ∧
      decode 5 payload.bytes = .ok maximalCommand :=
  valid_command_round_trip maximalCommand (by decide)

example : (WireCommand.ofCommand maximalCommand).bytes.length = 511 := by
  rw [length_bytes]
  decide +kernel

end EspNowCommandCodec

end EspNowNet
