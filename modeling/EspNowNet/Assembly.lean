import EspNowNet.ProtocolRuntime

/- What the reassembler holds, and where it came from. Every recorded fragment stands in
   the buffer as one received frame carried it, so a complete message is put together
   from the frames of one peer that all carry its envelope. -/
namespace EspNowNet
open EspNowFrameCodec

/- The codec's round trip -/

theorem kind_ofByte_toByte (kind : EspNowFrameKind) :
    EspNowFrameKind.ofByte? kind.toByte = some kind := by
  cases kind <;> decide

/-- What a fragment says to the receiver. -/
def fragmentOf (envelope : EspNowFrameEnvelope) (message : List UInt8) (index : Nat) :
    FragmentFrame :=
  ⟨envelope, message.length, index, fragmentCount message.length, crc32 message,
    fragmentData message index⟩

section RoundTrip
variable (envelope : EspNowFrameEnvelope) (message : List UInt8) (index : Nat)

/-- The fields of a fragment's bytes, read at the offsets of the reassembler. -/
structure FieldsOf (frame : List UInt8) : Prop where
  length : frame.length = headerSize + (fragmentData message index).length
  magic : field frame 0 2 = EspNowFrameCodec.magic
  version : byteAt frame 2 = EspNowFrameCodec.version
  kind : byteAt frame 3 = envelope.kind.toByte
  flags : byteAt frame 4 = envelope.flags
  position : byteAt frame 5 = UInt8.ofNat index
  count : byteAt frame 6 = UInt8.ofNat (fragmentCount message.length)
  boot : field frame 8 8 = envelope.sourceBootId.toNat
  transaction : field frame 16 8 = envelope.transactionId.toNat
  sequence : field frame 24 4 = envelope.sequence.toNat
  size : field frame 28 2 = message.length
  part : field frame 30 2 = (fragmentData message index).length
  checksum : field frame 32 4 = (crc32 message).toNat
  data : frame.drop headerSize = fragmentData message index

theorem fieldsOf_fragmentFrame (small : message.length ≤ maxMessageSize) :
    FieldsOf envelope message index (fragmentFrame envelope message index).bytes := by
  have part : (fragmentData message index).length < 256 ^ 2 := by
    rw [fragmentData_length]
    simp only [maxFragmentData]
    omega
  have size : message.length < 256 ^ 2 := by
    simp only [maxMessageSize] at small
    omega
  -- the fields in front of each field, and everything behind it
  let bytes : List UInt8 := [EspNowFrameCodec.version, envelope.kind.toByte, envelope.flags,
    UInt8.ofNat index, UInt8.ofNat (fragmentCount message.length), 0]
  let front : List (List UInt8) := [BigEndian.write 2 EspNowFrameCodec.magic, bytes,
    BigEndian.write 8 envelope.sourceBootId.toNat, BigEndian.write 8 envelope.transactionId.toNat,
    BigEndian.write 4 envelope.sequence.toNat, BigEndian.write 2 message.length,
    BigEndian.write 2 (fragmentData message index).length,
    BigEndian.write 4 (crc32 message).toNat, fragmentData message index]
  have layout : (fragmentFrame envelope message index).bytes = front.flatten := by
    simp [fragmentFrame, header, front, bytes]
  have at' (n offset width value : Nat) (found : front[n]? = some (BigEndian.write width value))
      (place : (front.take n).flatten.length = offset) (bound : value < 256 ^ width) :
      field (fragmentFrame envelope message index).bytes offset width = value := by
    rw [field, layout]
    exact BigEndian.read_part n offset width found place bound
  refine
    { length := by simp [fragmentFrame]
      magic := at' 0 0 2 _ rfl (by simp) (by decide)
      version := rfl, kind := rfl, flags := rfl, position := rfl, count := rfl
      boot := at' 2 8 8 _ rfl (by simp [front, bytes]) (UInt64.toNat_lt _)
      transaction := at' 3 16 8 _ rfl (by simp [front, bytes]) (UInt64.toNat_lt _)
      sequence := at' 4 24 4 _ rfl (by simp [front, bytes]) (UInt32.toNat_lt _)
      size := at' 5 28 2 _ rfl (by simp [front, bytes]) size
      part := at' 6 30 2 _ rfl (by simp [front, bytes]) part
      checksum := at' 7 32 4 _ rfl (by simp [front, bytes]) (UInt32.toNat_lt _)
      data := ?_ }
  have counted := header_length envelope message index
  simp only [fragmentFrame]
  rw [← counted, List.drop_left]

end RoundTrip

/- What passes the checks -/

structure FragmentFrame.WellFormed (f : FragmentFrame) : Prop where
  identity : f.envelope.identity.Valid
  nonempty : 0 < f.messageSize
  small : f.messageSize ≤ maxMessageSize
  count : f.fragmentCount = EspNowFrameCodec.fragmentCount f.messageSize
  inside : f.fragmentIndex < f.fragmentCount
  length : f.data.length =
    min maxFragmentData (f.messageSize - f.fragmentIndex * maxFragmentData)

/-- What a frame that passes the checks is, read at the offsets of the checks. -/
structure ReadAs (frame : List UInt8) (f : FragmentFrame) : Prop where
  formed : f.WellFormed
  length : frame.length = headerSize + f.data.length
  magic : field frame 0 2 = EspNowFrameCodec.magic
  version : byteAt frame 2 = EspNowFrameCodec.version
  kind : EspNowFrameKind.ofByte? (byteAt frame 3) = some f.envelope.kind
  flags : byteAt frame 4 = f.envelope.flags
  position : (byteAt frame 5).toNat = f.fragmentIndex
  count : (byteAt frame 6).toNat = f.fragmentCount
  boot : UInt64.ofNat (field frame 8 8) = f.envelope.sourceBootId
  transaction : UInt64.ofNat (field frame 16 8) = f.envelope.transactionId
  sequence : UInt32.ofNat (field frame 24 4) = f.envelope.sequence
  size : field frame 28 2 = f.messageSize
  part : field frame 30 2 = f.data.length
  checksum : UInt32.ofNat (field frame 32 4) = f.checksum
  data : frame.drop headerSize = f.data

theorem readAs_of_validate {frame : List UInt8} {f : FragmentFrame}
    (run : EspNowFrameReassembler.validate frame = .ok f) : ReadAs frame f := by
  unfold EspNowFrameReassembler.validate at run
  split at run
  · cases run
  · split at run
    · cases run
    · rename_i marked
      split at run
      · cases run
      · rename_i versioned
        split at run
        · cases run
        · rename_i kind known
          unfold EspNowFrameReassembler.validateFields at run
          simp only at run
          split at run
          · cases run
          · rename_i shape
            split at run
            · cases run
            · rename_i part
              split at run
              · cases run
              · rename_i identity
                simp only [not_or, Decidable.not_not, ne_eq] at marked versioned shape part identity
                obtain rfl := Except.ok.inj run
                obtain ⟨nonempty, small, -, -, count, inside, -, long⟩ := shape
                have data : (frame.drop headerSize).length = field frame 30 2 := by
                  rw [List.length_drop, long, Nat.add_sub_cancel_left]
                exact
                  { formed := ⟨identity, Nat.pos_of_ne_zero nonempty, Nat.not_lt.mp small, count,
                      Nat.not_le.mp inside, data.trans part⟩
                    length := long.trans (by rw [data])
                    magic := marked, version := versioned, kind := known, part := data.symm
                    flags := rfl, position := rfl, count := rfl, boot := rfl, transaction := rfl
                    sequence := rfl, size := rfl, checksum := rfl, data := rfl }

theorem validate_of_readAs {frame : List UInt8} {f : FragmentFrame} (reads : ReadAs frame f) :
    EspNowFrameReassembler.validate frame = .ok f := by
  have formed := reads.formed
  have limit := fragmentCount_le f.messageSize
  have room : f.data.length ≤ maxFragmentData := by
    rw [formed.length]
    exact Nat.min_le_left _ _
  have sized : ¬ (frame.length < headerSize ∨ frame.length > maxFrameSize) := by
    rw [reads.length]
    simp only [maxFragmentData, headerSize, maxFrameSize] at *
    omega
  have shape : ¬ (f.messageSize = 0 ∨ f.messageSize > maxMessageSize ∨ f.fragmentCount = 0 ∨
      f.fragmentCount > maxFragments ∨ f.fragmentCount ≠ fragmentCount f.messageSize ∨
      f.fragmentIndex ≥ f.fragmentCount ∨ f.data.length > maxFragmentData ∨
      frame.length ≠ headerSize + f.data.length) := by
    obtain ⟨-, nonempty, small, count, inside, -⟩ := formed
    have length := reads.length
    omega
  have identity : ¬ (f.envelope.sourceBootId = 0 ∨ f.envelope.transactionId = 0 ∨
      f.envelope.sequence = 0) := by
    obtain ⟨boot, transaction, sequence⟩ := formed.identity
    simp only [EspNowFrameEnvelope.identity] at boot transaction sequence
    simp [boot, transaction, sequence]
  unfold EspNowFrameReassembler.validate EspNowFrameReassembler.validateFields
  rw [if_neg sized, if_neg (not_not.mpr reads.magic), if_neg (not_not.mpr reads.version), reads.kind]
  simp only [reads.position, reads.count, reads.size, reads.part, reads.flags, reads.boot,
    reads.transaction, reads.sequence, reads.checksum, reads.data]
  rw [if_neg shape, if_neg (not_not.mpr formed.length), if_neg identity]

theorem readAs_fragmentFrame {envelope : EspNowFrameEnvelope} {message : List UInt8}
    {index : Nat} (valid : envelope.identity.Valid)
    (inside : index < fragmentCount message.length) :
    ReadAs (fragmentFrame envelope message index).bytes (fragmentOf envelope message index) := by
  have counted : fragmentCount message.length ≠ 0 := by omega
  rw [Ne, fragmentCount_eq_zero_iff] at counted
  simp only [not_or, Nat.not_lt, gt_iff_lt] at counted
  have limit := fragmentCount_le message.length
  simp only [maxFragments] at limit
  have fields := fieldsOf_fragmentFrame envelope message index counted.2
  have part := fragmentData_length message index
  exact
    { formed := ⟨valid, Nat.pos_of_ne_zero counted.1, counted.2, rfl, inside, part⟩
      length := fields.length, magic := fields.magic, version := fields.version
      kind := by rw [fields.kind, kind_ofByte_toByte]; rfl
      flags := fields.flags
      position := by
        rw [fields.position]
        exact UInt8.toNat_ofNat_of_lt' (show index < 256 by omega)
      count := by
        rw [fields.count]
        exact UInt8.toNat_ofNat_of_lt' (show fragmentCount message.length < 256 by omega)
      boot := by rw [fields.boot, UInt64.ofNat_toNat]; rfl
      transaction := by rw [fields.transaction, UInt64.ofNat_toNat]; rfl
      sequence := by rw [fields.sequence, UInt32.ofNat_toNat]; rfl
      size := fields.size, part := fields.part
      checksum := by rw [fields.checksum, UInt32.ofNat_toNat]; rfl
      data := fields.data }

/-- A receiver reads from a fragment what the sender wrote. -/
theorem validate_fragmentFrame {envelope : EspNowFrameEnvelope} {message : List UInt8}
    {index : Nat} (valid : envelope.identity.Valid)
    (inside : index < fragmentCount message.length) :
    EspNowFrameReassembler.validate (fragmentFrame envelope message index).bytes =
      .ok (fragmentOf envelope message index) :=
  validate_of_readAs (readAs_fragmentFrame valid inside)

theorem validate_wellFormed {frame : List UInt8} {f : FragmentFrame}
    (run : EspNowFrameReassembler.validate frame = .ok f) : f.WellFormed :=
  (readAs_of_validate run).formed

/-- A fragment's bytes end inside the buffer. -/
theorem FragmentFrame.WellFormed.fits {f : FragmentFrame} (formed : f.WellFormed) :
    f.fragmentIndex * maxFragmentData + f.data.length ≤ 640 := by
  obtain ⟨_, nonempty, small, count, inside, length⟩ := formed
  rw [count, fragmentCount_eq nonempty small] at inside
  simp only [maxMessageSize, maxFragmentData] at *
  omega

namespace Buffer
variable {size offset : Nat} {source : List UInt8}

theorem memcpy_bytes (buffer : Buffer size) (fits : offset + source.length ≤ size) :
    (buffer.memcpy offset source).bytes =
      buffer.bytes.take offset ++ source ++ buffer.bytes.drop (offset + source.length) := by
  have sized := buffer.sized
  apply List.take_of_length_le
  simp only [List.length_append, List.length_take, List.length_drop]
  omega

theorem slice_memcpy_self (buffer : Buffer size) (fits : offset + source.length ≤ size) :
    (buffer.memcpy offset source).slice offset source.length = source := by
  have front : (buffer.bytes.take offset).length = offset := by
    rw [List.length_take, buffer.sized]
    omega
  rw [slice, memcpy_bytes buffer fits, List.append_assoc]
  nth_rewrite 1 [← front]
  rw [List.drop_left, List.take_left]

/-- Copying elsewhere leaves a slice alone. -/
theorem slice_memcpy_other (buffer : Buffer size) (fits : offset + source.length ≤ size)
    {start length : Nat} (apart : start + length ≤ offset ∨ offset + source.length ≤ start) :
    (buffer.memcpy offset source).slice start length = buffer.slice start length := by
  have sized := buffer.sized
  apply List.ext_getElem?
  intro i
  simp only [slice, List.getElem?_take, List.getElem?_drop]
  split
  · rename_i small
    rw [memcpy_bytes buffer fits, List.append_assoc]
    rcases apart with before | after
    · rw [List.getElem?_append_left (by rw [List.length_take]; omega), List.getElem?_take,
        if_pos (by omega)]
    · rw [List.getElem?_append_right (by rw [List.length_take]; omega), List.length_take,
        List.getElem?_append_right (by omega), List.getElem?_drop]
      congr 1
      omega
  · rfl

end Buffer

namespace EspNowFrameReassembler

/-- Each recorded fragment came in a frame that matches the assembly, and stands in the
    buffer. -/
def Gathered (came : List UInt8 → Prop) (r : EspNowFrameReassembler) : Prop :=
  ∀ i, r.receivedMask.testBit i = true →
    ∃ frame f, came frame ∧ validate frame = .ok f ∧ r.Matches f ∧ f.fragmentIndex = i ∧
      r.message.slice (i * maxFragmentData) f.data.length = f.data

variable {came : List UInt8 → Prop} {r : EspNowFrameReassembler}

theorem Gathered.mono {wider : List UInt8 → Prop} (gathered : r.Gathered came)
    (widens : ∀ frame, came frame → wider frame) : r.Gathered wider := by
  intro i bit
  obtain ⟨frame, f, from', rest⟩ := gathered i bit
  exact ⟨frame, f, widens frame from', rest⟩

theorem gathered_of_empty (empty : r.receivedMask = 0) : r.Gathered came := by
  intro i bit
  simp [empty] at bit

theorem store_mask (f : FragmentFrame) (i : Nat) :
    (r.store f).receivedMask.testBit i =
      (r.receivedMask.testBit i || decide (f.fragmentIndex = i)) := by
  simp [store, Nat.testBit_or, Nat.one_shiftLeft, Nat.testBit_two_pow]

/-- A stored fragment takes the place of an earlier one with its index, and of no other. -/
theorem gathered_replace {next : List UInt8 → Prop} {frame : List UInt8} {f : FragmentFrame}
    (gathered : r.Gathered came) (from' : next frame) (run : validate frame = .ok f)
    (agrees : r.Matches f)
    (others : ∀ other g, came other → validate other = .ok g →
      g.fragmentIndex ≠ f.fragmentIndex → next other) :
    (r.store f).Gathered next := by
  have formed := validate_wellFormed run
  intro i bit
  by_cases own : f.fragmentIndex = i
  · subst own
    exact ⟨frame, f, from', run, agrees, rfl, Buffer.slice_memcpy_self _ formed.fits⟩
  · rw [store_mask] at bit
    simp only [own, decide_false, Bool.or_false] at bit
    obtain ⟨other, g, came', valid, matching, rfl, stands⟩ := gathered i bit
    refine ⟨other, g, others other g came' valid (Ne.symm own), valid, matching, rfl, ?_⟩
    -- two fragments of one message do not overlap
    have otherFormed := validate_wellFormed valid
    have short := otherFormed.length
    have ownShort := formed.length
    refine (Buffer.slice_memcpy_other _ formed.fits ?_).trans stands
    simp only [maxFragmentData] at *
    omega

theorem gathered_store {frame : List UInt8} {f : FragmentFrame} (gathered : r.Gathered came)
    (from' : came frame) (run : validate frame = .ok f) (agrees : r.Matches f) :
    (r.store f).Gathered came :=
  gathered_replace gathered from' run agrees fun _ _ came' _ _ => came'

/-- An accepted frame either starts the assembly or belongs to it. -/
theorem accept_true {r' : EspNowFrameReassembler} {frame : List UInt8}
    (run : r.accept frame = (true, r')) :
    ∃ f, validate frame = .ok f ∧ (r.receivedMask = 0 ∧ r' = (r.begin f).store f ∨
      r.receivedMask ≠ 0 ∧ r.Matches f ∧ r' = r.store f) := by
  unfold accept at run
  split at run
  · simp at run
  · rename_i f valid
    refine ⟨f, valid, ?_⟩
    split at run
    · rename_i empty
      exact Or.inl ⟨empty, by simpa using run.symm⟩
    · rename_i started
      split at run
      · rename_i agrees
        exact Or.inr ⟨started, agrees, by simpa using run.symm⟩
      · simp at run

theorem accept_false {r' : EspNowFrameReassembler} {frame : List UInt8}
    (run : r.accept frame = (false, r')) : ∃ error, r' = r.fail error := by
  unfold accept at run
  split at run
  · exact ⟨_, by simpa using run.symm⟩
  · split at run
    · simp at run
    · split at run
      · simp at run
      · exact ⟨_, by simpa using run.symm⟩

theorem mask_of_refused {frame : List UInt8} (refused : (r.accept frame).1 = false) :
    (r.accept frame).2.receivedMask = r.receivedMask := by
  obtain ⟨error, same⟩ := accept_false (Prod.ext refused rfl)
  exact (congrArg EspNowFrameReassembler.receivedMask same).trans rfl

theorem gathered_accept {r' : EspNowFrameReassembler} {frame : List UInt8}
    (run : r.accept frame = (true, r')) (from' : came frame)
    (gathered : r.receivedMask ≠ 0 → r.Gathered came) :
    r'.Gathered came := by
  obtain ⟨f, valid, ⟨empty, rfl⟩ | ⟨started, agrees, rfl⟩⟩ := accept_true run
  · exact gathered_store (gathered_of_empty empty) from' valid ⟨rfl, rfl, rfl, rfl⟩
  · exact gathered_store (gathered started) from' valid agrees

end EspNowFrameReassembler

/-- A message all of whose fragments came in frames that carry its envelope. -/
structure Assembled (came : List UInt8 → Prop) (message : EspNowReassembledMessage) : Prop where
  identity : message.envelope.identity.Valid
  nonempty : 0 < message.data.size
  fragments : ∀ i, i < fragmentCount message.data.size →
    ∃ frame f, came frame ∧ EspNowFrameReassembler.validate frame = .ok f ∧
      f.envelope = message.envelope ∧ f.messageSize = message.data.size ∧ f.fragmentIndex = i ∧
      f.data = fragmentData message.data.bytes i

theorem Assembled.mono {came wider : List UInt8 → Prop} {message : EspNowReassembledMessage}
    (assembled : Assembled came message) (widens : ∀ frame, came frame → wider frame) :
    Assembled wider message := by
  refine ⟨assembled.identity, assembled.nonempty, fun i inside => ?_⟩
  obtain ⟨frame, f, from', rest⟩ := assembled.fragments i inside
  exact ⟨frame, f, widens frame from', rest⟩

/-- Fragments determine the message they are cut from. -/
theorem eq_of_fragmentData {a b : List UInt8} (length : a.length = b.length)
    (small : a.length ≤ maxMessageSize)
    (same : ∀ i, i < fragmentCount a.length → fragmentData a i = fragmentData b i) : a = b := by
  apply List.ext_getElem?
  intro i
  by_cases inside : i < a.length
  · have index : i / maxFragmentData < fragmentCount a.length := by
      rw [fragmentCount_eq (by omega) small]
      simp only [maxFragmentData]
      omega
    have offset := congrArg (fun part => part[i % maxFragmentData]?) (same _ index)
    have small : i % maxFragmentData < maxFragmentData := Nat.mod_lt _ (by decide)
    have place : i / maxFragmentData * maxFragmentData + i % maxFragmentData = i := by
      rw [Nat.mul_comm]
      exact Nat.div_add_mod i maxFragmentData
    simpa only [fragmentData, List.getElem?_take, small, ↓reduceIte, List.getElem?_drop, place]
      using offset
  · rw [List.getElem?_eq_none (by omega), List.getElem?_eq_none (by omega)]

namespace EspNowFrameReassembler
variable {came : List UInt8 → Prop} {r : EspNowFrameReassembler}

theorem complete_mask (complete : r.complete = true) {i : Nat} (inside : i < r.fragmentCount) :
    r.receivedMask.testBit i = true := by
  simp only [EspNowFrameReassembler.complete, Bool.and_eq_true, beq_iff_eq] at complete
  simp [complete.2, Nat.testBit_two_pow_sub_one, inside]

theorem complete_of_gathered (complete : r.complete = true) (gathered : r.Gathered came) :
    r.envelope.identity.Valid ∧ 0 < r.messageSize ∧ r.messageSize ≤ maxMessageSize ∧
      r.fragmentCount = EspNowFrameCodec.fragmentCount r.messageSize := by
  have counted : r.fragmentCount ≠ 0 := by
    simp only [EspNowFrameReassembler.complete, Bool.and_eq_true, decide_eq_true_eq] at complete
    exact complete.1
  obtain ⟨frame, f, _, valid, ⟨envelope, size, count, _⟩, _⟩ :=
    gathered 0 (complete_mask complete (Nat.pos_of_ne_zero counted))
  have formed := validate_wellFormed valid
  exact ⟨envelope ▸ formed.identity, size ▸ formed.nonempty, size ▸ formed.small,
    by rw [← count, ← size, formed.count]⟩

/-- The completed message as the mailbox hands it out. -/
theorem assembled_of_gathered (complete : r.complete = true) (gathered : r.Gathered came) :
    ∃ data : BoundedBytes 640, data.bytes = r.payload ∧ Assembled came ⟨r.envelope, data⟩ := by
  obtain ⟨identity, nonempty, small, count⟩ := complete_of_gathered complete gathered
  have long : r.payload.length = r.messageSize := by
    simp only [payload, List.length_take, r.message.sized, maxMessageSize] at small ⊢
    omega
  refine ⟨⟨r.payload, by rw [long]; exact small⟩, rfl, identity, ?_, ?_⟩
  · simpa only [BoundedBytes.size, long] using nonempty
  · intro i inside
    simp only [BoundedBytes.size, long, ← count] at inside
    obtain ⟨frame, f, from', valid, ⟨envelope, size, _, _⟩, rfl, stands⟩ :=
      gathered i (complete_mask complete inside)
    have formed := validate_wellFormed valid
    refine ⟨frame, f, from', valid, envelope, by rw [BoundedBytes.size, long, size], rfl, ?_⟩
    rw [← stands, formed.length, size]
    simp only [Buffer.slice, fragmentData, payload, List.drop_take, List.take_take]

theorem take_of_complete (data : BoundedBytes 640) (complete : r.complete = true)
    (checked : crc32 r.payload = r.checksum) (stored : r.payload = data.bytes) :
    r.take = (some ⟨r.envelope, data⟩, r.reset.fail .none) := by
  have checkedTrue : r.validateComplete = (true, r) := by
    rw [validateComplete, if_pos complete, if_pos checked]
  simp [take, checkedTrue, stored, BoundedBytes.assign_fits data.fits]

theorem take_of_incomplete (incomplete : r.complete = false) : r.take = (none, r) := by
  simp [take, validateComplete, incomplete]

theorem take_some {message : EspNowReassembledMessage} {last : EspNowFrameReassembler}
    (taken : r.take = (some message, last)) :
    r.complete = true ∧ crc32 r.payload = r.checksum ∧ message.envelope = r.envelope ∧
      message.data.bytes = r.payload := by
  unfold take validateComplete at taken
  by_cases complete : r.complete = true
  · by_cases checked : crc32 r.payload = r.checksum
    · rw [if_pos complete, if_pos checked] at taken
      simp only at taken
      split at taken
      · rename_i data stored
        obtain ⟨same, -⟩ := Prod.mk.inj taken
        obtain rfl := Option.some.inj same
        exact ⟨complete, checked, rfl, BoundedBytes.assign_true stored⟩
      · simp at taken
    · rw [if_pos complete, if_neg checked] at taken
      simp at taken
  · rw [if_neg complete] at taken
    simp at taken

end EspNowFrameReassembler

end EspNowNet
