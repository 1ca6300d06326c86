import EspNowNet.CommandRoundTrip

/- Which payloads the command codec accepts. An accepted payload is laid out by the fields it
   declares; it is what the decoded command encodes to unless a text was cut at a NUL. -/
namespace EspNowNet
namespace EspNowCommandCodec
open WireCommand

/-- Where the body ends by the sizes the payload declares. -/
def declaredEnd (data : List UInt8) : Nat :=
  headerSize + (byteAt data 1).toNat + (byteAt data 2).toNat + (byteAt data 3).toNat +
    field data 4 2

/-- The fields of a payload as its own sizes delimit them. -/
def wireOf (data : List UInt8) : WireCommand :=
  let deviceSize := (byteAt data 1).toNat
  let resourceSize := (byteAt data 2).toNat
  let nameSize := (byteAt data 3).toNat
  { device := slice data headerSize deviceSize
    resource := slice data (headerSize + deviceSize) resourceSize
    name := slice data (headerSize + deviceSize + resourceSize) nameSize
    body := slice data (headerSize + deviceSize + resourceSize + nameSize) (field data 4 2)
    timeoutMs := UInt32.ofNat (field data 6 4)
    source :=
      if byteAt data 0 = identityVersion then
        some (slice data (declaredEnd data + 9) (byteAt data (declaredEnd data)).toNat,
          UInt64.ofNat (field data (declaredEnd data + 1) 8))
      else none }

theorem slice_append (data : List UInt8) (offset size : Nat) :
    slice data offset size ++ data.drop (offset + size) = data.drop offset := by
  rw [slice, ← List.drop_drop, List.take_append_drop]

theorem slice_length {data : List UInt8} {offset size : Nat} (inside : offset + size ≤ data.length) :
    (slice data offset size).length = size := by
  rw [slice, List.length_take, List.length_drop]
  omega

theorem write_field {data : List UInt8} {offset width : Nat}
    (inside : offset + width ≤ data.length) :
    BigEndian.write width (field data offset width) = slice data offset width := by
  have whole := BigEndian.write_read (slice data offset width)
  rw [slice_length inside] at whole
  exact whole

theorem field_lt {data : List UInt8} {offset width : Nat} (inside : offset + width ≤ data.length) :
    field data offset width < 256 ^ width := by
  have bound := BigEndian.read_lt (slice data offset width)
  rw [slice_length inside] at bound
  exact bound

theorem byteAt_cons {data : List UInt8} {offset : Nat} (inside : offset < data.length) :
    byteAt data offset :: data.drop (offset + 1) = data.drop offset := by
  rw [List.drop_eq_getElem_cons inside]
  simp [byteAt, inside]

/-- What the decoder knows of a payload before it copies any text. -/
structure Delimited (data : List UInt8) : Prop where
  fits : (wireOf data).Fits
  inside : declaredEnd data ≤ data.length
  version : byteAt data 0 = version ∧ declaredEnd data = data.length ∨
    byteAt data 0 = identityVersion ∧
      declaredEnd data + 9 + (byteAt data (declaredEnd data)).toNat = data.length

theorem sourceParts_wireOf {data : List UInt8} (delimited : Delimited data) :
    (sourceParts (wireOf data).source).flatten = data.drop (declaredEnd data) := by
  rcases delimited.version with ⟨first, whole⟩ | ⟨first, whole⟩
  · have none : (wireOf data).source = none := by
      simp [wireOf, first, version, identityVersion]
    rw [none, List.drop_eq_nil_of_le (by omega)]
    rfl
  · have some : (wireOf data).source =
        some (slice data (declaredEnd data + 9) (byteAt data (declaredEnd data)).toNat,
          UInt64.ofNat (field data (declaredEnd data + 1) 8)) := by
      simp [wireOf, first]
    have bootId : (UInt64.ofNat (field data (declaredEnd data + 1) 8)).toNat =
        field data (declaredEnd data + 1) 8 :=
      UInt64.toNat_ofNat_of_lt' (field_lt (by omega))
    have rest : data.drop (declaredEnd data + 9 + (byteAt data (declaredEnd data)).toNat) = [] :=
      List.drop_eq_nil_of_le (by omega)
    rw [some, ← byteAt_cons (show declaredEnd data < data.length by omega),
      ← slice_append data (declaredEnd data + 1) 8,
      ← slice_append data (declaredEnd data + 9) (byteAt data (declaredEnd data)).toNat, rest]
    simp only [sourceParts, List.flatten_cons, List.flatten_nil, slice_length (Nat.le_of_eq whole),
      bootId, write_field (show declaredEnd data + 1 + 8 ≤ data.length by omega)]
    simp

/-- A delimited payload is laid out by its own fields. -/
theorem bytes_wireOf {data : List UInt8} (delimited : Delimited data) :
    (wireOf data).bytes = data := by
  have inside := delimited.inside
  have source := sourceParts_wireOf delimited
  simp only [declaredEnd, headerSize] at inside
  have timeout : (wireOf data).timeoutMs.toNat = field data 6 4 :=
    UInt32.toNat_ofNat_of_lt' (field_lt (by omega))
  have device : (wireOf data).device.length = (byteAt data 1).toNat :=
    slice_length (by simp only [headerSize]; omega)
  have resource : (wireOf data).resource.length = (byteAt data 2).toNat :=
    slice_length (by simp only [headerSize]; omega)
  have name : (wireOf data).name.length = (byteAt data 3).toNat :=
    slice_length (by simp only [headerSize]; omega)
  have body : (wireOf data).body.length = field data 4 2 :=
    slice_length (by simp only [headerSize]; omega)
  have first : (if (wireOf data).source.isNone then version else identityVersion) =
      byteAt data 0 := by
    rcases delimited.version with ⟨first, _⟩ | ⟨first, _⟩
    · simp [wireOf, first, version, identityVersion]
    · simp [wireOf, first]
  rw [WireCommand.bytes, layout, List.flatten_append, source, first, device, resource, name, body,
    timeout, write_field (by omega), write_field (by omega)]
  simp only [UInt8.ofNat_toNat, List.flatten_cons, List.flatten_nil, List.append_nil,
    List.append_assoc]
  calc
    _ = [byteAt data 0, byteAt data 1, byteAt data 2, byteAt data 3] ++ data.drop 4 := by
      congr 1
      rw [← slice_append data 4 2, ← slice_append data 6 4,
        ← slice_append data 10 (byteAt data 1).toNat,
        ← slice_append data (10 + (byteAt data 1).toNat) (byteAt data 2).toNat,
        ← slice_append data (10 + (byteAt data 1).toNat + (byteAt data 2).toNat)
          (byteAt data 3).toNat,
        ← slice_append data (10 + (byteAt data 1).toNat + (byteAt data 2).toNat +
          (byteAt data 3).toNat) (field data 4 2)]
      rfl
    _ = data := by
      simp only [List.cons_append, List.nil_append]
      rw [byteAt_cons (by omega), byteAt_cons (by omega), byteAt_cons (by omega),
        byteAt_cons (by omega), List.drop_zero]

theorem decodeSource_some {data : List UInt8} {expected size : Nat} {bootId : UInt64}
    (run : decodeSource data expected = some (size, bootId))
    (identity : byteAt data 0 = identityVersion) :
    size = (byteAt data expected).toNat ∧ bootId = UInt64.ofNat (field data (expected + 1) 8) ∧
      0 < size ∧ size ≤ 63 ∧ bootId ≠ 0 ∧ expected + 9 + size = data.length := by
  unfold decodeSource at run
  rw [if_neg (not_not.mpr identity)] at run
  split at run
  · cases run
  · dsimp only at run
    split at run
    · cases run
    · rename_i accepted
      simp only [not_or, Decidable.not_not, ne_eq] at accepted
      obtain ⟨nonempty, short, boot, whole⟩ := accepted
      obtain ⟨rfl, rfl⟩ := Prod.mk.inj (Option.some.inj run)
      exact ⟨rfl, rfl, by omega, by omega, boot, whole⟩

theorem delimited_of_decoded {transactionId : TransactionId} {data : List UInt8} {c : NetCommand}
    (decoded : decode transactionId data = .ok c) : transactionId ≠ 0 ∧ Delimited data := by
  unfold decode at decoded
  split at decoded
  · cases decoded
  rename_i enough
  split at decoded
  · cases decoded
  rename_i known
  dsimp only at decoded
  split at decoded
  · cases decoded
  rename_i accepted
  split at decoded
  · cases decoded
  rename_i sourceSize sourceBootId source
  split at decoded
  · cases decoded
  rename_i clean
  clear decoded
  simp only [not_or, not_and, Decidable.not_not, ne_eq] at enough known accepted
  obtain ⟨identified, -⟩ := enough
  obtain ⟨device, shortDevice, shortResource, name, shortName, shortBody, timeout, inside, whole⟩ :=
    accepted
  change decodeSource data (declaredEnd data) = _ at source
  change ¬ (declaredEnd data > data.length) at inside
  change _ → declaredEnd data = data.length at whole
  have within : headerSize + (byteAt data 1).toNat + (byteAt data 2).toNat + (byteAt data 3).toNat +
      field data 4 2 ≤ data.length := Nat.not_lt.mp inside
  refine ⟨identified, ?_, Nat.not_lt.mp inside, ?_⟩
  · constructor
    · simp only [wireOf]
      rw [slice_length (by omega)]
      omega
    · simp only [wireOf]
      rw [slice_length (by omega)]
      omega
    · simp only [wireOf]
      rw [slice_length (by omega)]
      omega
    · simp only [wireOf]
      rw [slice_length (by omega)]
      omega
    · exact timeout
    · intro identity present
      by_cases second : byteAt data 0 = identityVersion
      · obtain ⟨rfl, rfl, nonempty, short, boot, total⟩ := decodeSource_some source second
        simp only [wireOf, second, ↓reduceIte, Option.mem_def, Option.some.injEq] at present
        subst present
        rw [slice_length (Nat.le_of_eq total)]
        refine ⟨nonempty, short, boot, ?_⟩
        intro member
        exact clean (List.contains_iff_mem.mpr member)
      · simp [wireOf, second] at present
  · by_cases first : byteAt data 0 = version
    · exact Or.inl ⟨first, whole first⟩
    · have second := known first
      obtain ⟨rfl, _, _, _, _, total⟩ := decodeSource_some source second
      exact Or.inr ⟨second, total⟩

/- Texts cut at a NUL -/

/-- A text that is as long as the bytes it came from has lost none of them. -/
theorem clean_of_length {bytes : List UInt8} (long : (cString bytes).length = bytes.length) :
    0 ∉ bytes := by
  have whole : cString bytes = bytes :=
    (List.takeWhile_sublist _).eq_of_length long
  rw [← whole]
  exact BoundedText.cString_noNul bytes

theorem decoded_eq {transactionId : TransactionId} {data : List UInt8} {c : NetCommand}
    (decoded : decode transactionId data = .ok c) :
    c = (wireOf data).command transactionId ∧ c.Valid := by
  obtain ⟨identified, delimited⟩ := delimited_of_decoded decoded
  have reads := readsAs_bytes delimited.fits
  rw [bytes_wireOf delimited] at reads
  rw [decode_eq delimited.fits reads identified] at decoded
  split at decoded
  · rename_i valid
    obtain rfl := Except.ok.inj decoded
    exact ⟨rfl, valid⟩
  · cases decoded

theorem ofCommand_command {w : WireCommand} (fits : w.Fits) (clean : w.NulFree)
    (transactionId : TransactionId) : ofCommand (w.command transactionId) = w := by
  obtain ⟨device, resource, name, body, _, source⟩ := fits
  obtain ⟨cleanDevice, cleanResource, cleanName⟩ := clean
  obtain ⟨deviceBytes, resourceBytes, nameBytes, bodyBytes, timeoutMs, identity⟩ := w
  simp only [ofCommand, WireCommand.command, (assign_short device.2).2, (assign_short resource).2,
    (assign_short name.2).2, BoundedBytes.assign_fits body, cString_eq_self cleanDevice,
    cString_eq_self cleanResource, cString_eq_self cleanName]
  cases identity with
  | none => rfl
  | some identity =>
    obtain ⟨nonempty, short, _, cleanId⟩ := source identity rfl
    have stored := (assign_short short).2
    rw [cString_eq_self cleanId] at stored
    have filled : identity.1 ≠ [] := List.length_pos_iff.mp nonempty
    simp [BoundedText.size, stored, filled]

/-- An accepted payload is what its command encodes to, exactly if no text in it holds a NUL. -/
theorem accepted_payload_canonical_iff {transactionId : TransactionId} {data : List UInt8}
    {c : NetCommand} (decoded : decode transactionId data = .ok c) :
    (∃ payload, encode c = .ok payload ∧ payload.bytes = data) ↔ (wireOf data).NulFree := by
  obtain ⟨rfl, valid⟩ := decoded_eq decoded
  obtain ⟨_, delimited⟩ := delimited_of_decoded decoded
  have whole := bytes_wireOf delimited
  have fits := delimited.fits
  rw [encode_eq valid]
  constructor
  · rintro ⟨payload, encodes, same⟩
    obtain rfl := Except.ok.inj encodes
    -- both layouts declare the same sizes
    have written := readsAs_bytes (fits_ofCommand valid)
    have received := readsAs_bytes fits
    simp only at same
    rw [same] at written
    rw [whole] at received
    have device := written.deviceSize.symm.trans received.deviceSize
    have resource := written.resourceSize.symm.trans received.resourceSize
    have name := written.nameSize.symm.trans received.nameSize
    simp only [ofCommand, WireCommand.command, (assign_short fits.device.2).2,
      (assign_short fits.resource).2, (assign_short fits.name.2).2] at device resource name
    exact ⟨clean_of_length device, clean_of_length resource, clean_of_length name⟩
  · intro clean
    refine ⟨_, rfl, ?_⟩
    simp only [ofCommand_command fits clean, whole]

/-- A command named "B", and the same command with a NUL behind its name. -/
def namedCommand : List UInt8 := [1, 1, 0, 1, 0, 0, 0, 0, 3, 232, 65, 66]
def nulNamedCommand : List UInt8 := [1, 1, 0, 2, 0, 0, 0, 0, 3, 232, 65, 66, 0]

theorem named_command_canonical :
    (∃ payload, encode ((wireOf namedCommand).command 5) = .ok payload ∧
      payload.bytes = namedCommand) ↔ (wireOf namedCommand).NulFree :=
  accepted_payload_canonical_iff (show decode 5 namedCommand = _ from by rfl)

theorem nul_named_command_not_canonical :
    ∃ c, decode 5 nulNamedCommand = .ok c ∧ decode 5 namedCommand = .ok c ∧
      ¬ ∃ payload, encode c = .ok payload ∧ payload.bytes = nulNamedCommand := by
  refine ⟨(wireOf nulNamedCommand).command 5, by rfl, by rfl, ?_⟩
  rintro ⟨payload, encodes, same⟩
  have written : encode ((wireOf nulNamedCommand).command 5) =
      .ok ⟨namedCommand, by decide⟩ := by rfl
  rw [written] at encodes
  obtain rfl := Except.ok.inj encodes
  simp [namedCommand, nulNamedCommand] at same

end EspNowCommandCodec

end EspNowNet
