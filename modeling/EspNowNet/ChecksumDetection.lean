import EspNowNet.ReassemblyOrder
import EspNowNet.Library.ShiftRegister

/- Frames whose headers belong to one message and whose bytes belong to another. If the two
   messages differ, and only within four consecutive bytes, the checksum tells them apart. -/
namespace EspNowNet
open EspNowFrameCodec ShiftRegister

/- The checksum -/

def crcPolynomial : BitVec 32 := 0xEDB88320

theorem crc32Bit_step (crc : UInt32) :
    (crc32Bit crc).toBitVec = step crcPolynomial crc.toBitVec := by
  have low : (crc &&& 1).toBitVec = (BitVec.ofBool (crc.toBitVec.getLsbD 0)).setWidth 32 := by
    rw [UInt32.toBitVec_and]
    exact BitVec.and_one_eq_setWidth_ofBool_getLsbD
  unfold crc32Bit step crcPolynomial
  rw [UInt32.toBitVec_xor, UInt32.toBitVec_shiftRight, UInt32.toBitVec_and, UInt32.toBitVec_sub,
    low]
  cases crc.toBitVec.getLsbD 0 <;> rfl

theorem crc32Byte_feed (crc : UInt32) (byte : UInt8) :
    (crc32Byte crc byte).toBitVec = feed crcPolynomial 8 crc.toBitVec byte.toUInt32.toBitVec := by
  have steps (n : Nat) (crc : UInt32) :
      (Nat.repeat crc32Bit n crc).toBitVec = Nat.repeat (step crcPolynomial) n crc.toBitVec := by
    induction n with
    | zero => rfl
    | succ n hyp => rw [Nat.repeat, Nat.repeat, crc32Bit_step, hyp]
  unfold crc32Byte feed
  rw [steps, UInt32.toBitVec_xor]

theorem fold_crc32Byte (data : List UInt8) (crc : UInt32) :
    (data.foldl crc32Byte crc).toBitVec =
      run crcPolynomial 8 crc.toBitVec (data.map fun byte => byte.toUInt32.toBitVec) := by
  induction data generalizing crc with
  | nil => rfl
  | cons byte data hyp =>
    simp only [List.foldl_cons, List.map_cons, run, hyp, crc32Byte_feed]

/-- An alteration that stays within four consecutive bytes changes the checksum. -/
theorem crc32_ne_of_burst {front a b back : List UInt8} (same : a.length = b.length)
    (short : a.length ≤ 4) (different : a ≠ b) :
    crc32 (front ++ a ++ back) ≠ crc32 (front ++ b ++ back) := by
  intro equal
  have folded := congrArg (fun crc : UInt32 => (~~~crc).toBitVec) equal
  simp only [crc32, UInt32.not_not, fold_crc32Byte, List.map_append] at folded
  refine run_ne_of_burst (by decide) _ (by simpa using same) ?_ (by simp; omega) ?_ folded
  · intro digit member
    obtain ⟨byte, _, rfl⟩ : ∃ byte ∈ a ++ b, byte.toUInt32.toBitVec = digit := by
      simpa only [← List.map_append, List.mem_map] using member
    have := byte.toNat_lt
    simpa using this
  · intro maps
    apply different
    refine List.map_injective_iff.mpr ?_ maps
    intro byte other wide
    have := congrArg BitVec.toNat wide
    simp at this
    exact UInt8.toNat_inj.mp this

namespace EspNowFrameReassembler

theorem byteAt_append {front : List UInt8} (rest : List UInt8) {index : Nat}
    (inside : index < front.length) : byteAt (front ++ rest) index = byteAt front index := by
  simp [byteAt, List.getElem?_append_left inside]

theorem field_append {front : List UInt8} (rest : List UInt8) {offset width : Nat}
    (inside : offset + width ≤ front.length) :
    field (front ++ rest) offset width = field front offset width := by
  unfold field
  rw [List.drop_append_of_le_length (by omega), List.take_append_of_le_length (by simp; omega)]

/-- The checks read the header and the length of what follows it. -/
theorem validate_append {front data other : List UInt8} (headed : front.length = headerSize)
    (same : other.length = data.length) {f : FragmentFrame}
    (run : validate (front ++ data) = .ok f) :
    validate (front ++ other) = .ok { f with data := other } := by
  have reads := readAs_of_validate run
  have bytes {index : Nat} (inside : index < headerSize) :
      byteAt (front ++ other) index = byteAt (front ++ data) index := by
    rw [byteAt_append other (headed ▸ inside), byteAt_append data (headed ▸ inside)]
  have fields {offset width : Nat} (inside : offset + width ≤ headerSize) :
      field (front ++ other) offset width = field (front ++ data) offset width := by
    rw [field_append other (headed ▸ inside), field_append data (headed ▸ inside)]
  have drops (rest : List UInt8) : (front ++ rest).drop headerSize = rest := by
    rw [← headed, List.drop_left]
  have long : other.length = f.data.length := by
    rw [same, ← reads.data, drops]
  apply validate_of_readAs
  exact
    { formed := { reads.formed with length := long.trans reads.formed.length }
      length := by rw [List.length_append, headed]
      magic := (fields (by decide)).trans reads.magic
      version := (bytes (by decide)).trans reads.version
      kind := by rw [bytes (by decide), reads.kind]
      flags := (bytes (by decide)).trans reads.flags
      position := by rw [bytes (by decide), reads.position]
      count := by rw [bytes (by decide), reads.count]
      boot := by rw [fields (by decide), reads.boot]
      transaction := by rw [fields (by decide), reads.transaction]
      sequence := by rw [fields (by decide), reads.sequence]
      size := (fields (by decide)).trans reads.size
      part := by rw [fields (by decide), reads.part, long]
      checksum := by rw [fields (by decide), reads.checksum]
      data := drops other }

end EspNowFrameReassembler

/- The frames -/

/-- A fragment with the header of one message and the bytes of another of its length. -/
def alteredFrame (envelope : EspNowFrameEnvelope) (message altered : List UInt8)
    (length : altered.length = message.length) (index : Nat) : EspNowRadioFrame :=
  ⟨header envelope message index ++ fragmentData altered index, by
    have fits := frame_fits envelope message index
    simpa only [List.length_append, fragmentData_length, length] using fits⟩

def AlteredFrameOf (envelope : EspNowFrameEnvelope) (message altered : List UInt8)
    (length : altered.length = message.length) (frame : List UInt8) : Prop :=
  ∃ index, index < fragmentCount message.length ∧
    frame = (alteredFrame envelope message altered length index).bytes

/-- Two payloads of one length that are equal outside four consecutive bytes. -/
structure BurstAlteration (message altered : List UInt8) : Prop where
  length : altered.length = message.length
  different : altered ≠ message
  burst : ∃ start, ∀ i, i < start ∨ start + 4 ≤ i → altered[i]? = message[i]?

theorem BurstAlteration.crc32_ne {message altered : List UInt8}
    (alteration : BurstAlteration message altered) : crc32 altered ≠ crc32 message := by
  obtain ⟨length, different, start, outside⟩ := alteration
  have split (bytes : List UInt8) :
      bytes = bytes.take start ++ (bytes.drop start).take 4 ++ bytes.drop (start + 4) := by
    rw [List.append_assoc, ← List.drop_drop, List.take_append_drop, List.take_append_drop]
  have front : altered.take start = message.take start := by
    apply List.ext_getElem?
    intro i
    simp only [List.getElem?_take]
    split
    · exact outside i (Or.inl ‹_›)
    · rfl
  have back : altered.drop (start + 4) = message.drop (start + 4) := by
    apply List.ext_getElem?
    intro i
    simp only [List.getElem?_drop]
    exact outside _ (Or.inr (by omega))
  have middle : (altered.drop start).take 4 ≠ (message.drop start).take 4 := by
    intro same
    apply different
    rw [split altered, split message, front, same, back]
  rw [split altered, split message, front, back]
  exact crc32_ne_of_burst (by simp [length]) (by simp) middle

theorem burstAlteration_append (front back : List UInt8) {a b : List UInt8}
    (same : b.length = a.length) (short : a.length ≤ 4) (different : b ≠ a) :
    BurstAlteration (front ++ a ++ back) (front ++ b ++ back) := by
  constructor
  · simp [same]
  · simpa using different
  · refine ⟨front.length, ?_⟩
    rintro i (before | after)
    · rw [List.append_assoc, List.append_assoc, List.getElem?_append_left before,
        List.getElem?_append_left before]
    · rw [List.getElem?_append_right (by simp; omega), List.getElem?_append_right (by simp; omega)]
      simp [same]

section Altered
variable {envelope : EspNowFrameEnvelope} {message altered : List UInt8}
  {length : altered.length = message.length} {r : EspNowFrameReassembler}

theorem validate_alteredFrame (valid : envelope.identity.Valid) {index : Nat}
    (inside : index < fragmentCount message.length) :
    EspNowFrameReassembler.validate (alteredFrame envelope message altered length index).bytes =
      .ok { fragmentOf envelope message index with data := fragmentData altered index } := by
  have reads : EspNowFrameReassembler.validate
      (header envelope message index ++ fragmentData message index) =
        .ok (fragmentOf envelope message index) := validate_fragmentFrame valid inside
  have same : (fragmentData altered index).length = (fragmentData message index).length := by
    simp only [fragmentData_length, length]
  exact EspNowFrameReassembler.validate_append (header_length envelope message index) same reads

namespace EspNowFrameReassembler

/-- Frames that differ in their bytes only leave the same assembly but for its bytes. -/
theorem accept_bytes {one other : List UInt8} {f : FragmentFrame} {data : List UInt8}
    (reads : validate one = .ok f) (alters : validate other = .ok { f with data })
    (buffer : Buffer 640) :
    ∃ buffer', { r with message := buffer }.accept other =
      ((r.accept one).1, { (r.accept one).2 with message := buffer' }) := by
  have agrees : { r with message := buffer }.Matches { f with data } ↔ r.Matches f := Iff.rfl
  let stored := buffer.memcpy (f.fragmentIndex * maxFragmentData) data
  unfold accept
  rw [reads, alters]
  by_cases empty : r.receivedMask = 0
  · refine ⟨stored, ?_⟩
    simp only [if_pos empty]
    rfl
  · by_cases matching : r.Matches f
    · refine ⟨stored, ?_⟩
      simp only [if_neg empty, agrees, if_pos matching]
      rfl
    · refine ⟨buffer, ?_⟩
      simp only [if_neg empty, agrees, if_neg matching]
      rfl

theorem acceptAll_altered (valid : envelope.identity.Valid) {indices : List Nat}
    (inside : ∀ index ∈ indices, index < EspNowFrameCodec.fragmentCount message.length)
    (buffer : Buffer 640) :
    ∃ buffer', { r with message := buffer }.acceptAll
        (indices.map (alteredFrame envelope message altered length)) =
      ((r.acceptAll (indices.map (fragmentFrame envelope message))).1,
        { (r.acceptAll (indices.map (fragmentFrame envelope message))).2 with
          message := buffer' }) := by
  induction indices generalizing r buffer with
  | nil => exact ⟨buffer, rfl⟩
  | cons index indices hyp =>
    have own := inside index List.mem_cons_self
    have alters : validate (alteredFrame envelope message altered length index).bytes = _ :=
      validate_alteredFrame valid own
    obtain ⟨buffer, first⟩ :=
      accept_bytes (r := r) (validate_fragmentFrame valid own) alters buffer
    obtain ⟨buffer, rest⟩ := hyp (r := (r.accept (fragmentFrame envelope message index).bytes).2)
      (fun other member => inside other (List.mem_cons_of_mem _ member)) buffer
    exact ⟨buffer, by simp only [List.map_cons, acceptAll, first, rest]⟩

theorem gathered_acceptAll {came : List UInt8 → Prop} (frames : List EspNowRadioFrame)
    (from' : ∀ frame ∈ frames, came frame.bytes) (gathered : r.Gathered came) :
    (r.acceptAll frames).2.Gathered came := by
  induction frames generalizing r with
  | nil => exact gathered
  | cons frame frames hyp =>
    have next : (r.accept frame.bytes).2.Gathered came := by
      cases accepted : (r.accept frame.bytes).1 with
      | true =>
        exact gathered_accept (Prod.ext accepted rfl) (from' frame List.mem_cons_self)
          fun _ => gathered
      | false =>
        have run : r.accept frame.bytes = (false, (r.accept frame.bytes).2) :=
          Prod.ext accepted rfl
        obtain ⟨error, refused⟩ := accept_false run
        rw [refused]
        exact gathered
    exact hyp (fun other member => from' other (List.mem_cons_of_mem _ member)) next

/-- What is put together from altered frames is the altered message, under the checksum of the
    original one. -/
theorem payload_of_altered (valid : envelope.identity.Valid) (complete : r.complete = true)
    (gathered : r.Gathered (AlteredFrameOf envelope message altered length)) :
    r.payload = altered ∧ r.checksum = crc32 message := by
  obtain ⟨-, -, small, -⟩ := complete_of_gathered complete gathered
  obtain ⟨data, stored, assembled⟩ := assembled_of_gathered complete gathered
  have reads {i : Nat} (inside : i < EspNowFrameCodec.fragmentCount data.bytes.length) :
      data.bytes.length = message.length ∧ fragmentData data.bytes i = fragmentData altered i := by
    obtain ⟨_, f, ⟨index, counted, rfl⟩, read, -, size, own, carries⟩ :=
      assembled.fragments i inside
    rw [validate_alteredFrame valid counted] at read
    obtain rfl := Except.ok.inj read
    obtain rfl : index = i := own
    exact ⟨size.symm, carries.symm⟩
  have counted := fragmentCount_bounds assembled.nonempty data.fits
  have sized := (reads counted.1).1
  constructor
  · rw [← stored]
    exact eq_of_fragmentData (sized.trans length.symm) data.fits fun i inside => (reads inside).2
  · have started : 0 < r.fragmentCount := by
      simp only [EspNowFrameReassembler.complete, Bool.and_eq_true, decide_eq_true_eq] at complete
      exact Nat.pos_of_ne_zero complete.1
    obtain ⟨_, f, ⟨index, counted, rfl⟩, read, ⟨-, -, -, checksum⟩, -⟩ :=
      gathered 0 (complete_mask complete started)
    rw [validate_alteredFrame valid counted] at read
    obtain rfl := Except.ok.inj read
    exact checksum.symm

/-- Frames with the original headers and an altered payload, in any order and number: each is
    accepted, and as soon as none is missing the alteration is found and everything dropped. -/
theorem altered_payload_detected (r : EspNowFrameReassembler) (envelope : EspNowFrameEnvelope)
    (message altered : List UInt8) (valid : envelope.identity.Valid)
    (nonempty : 1 ≤ message.length) (small : message.length ≤ 640)
    (alteration : BurstAlteration message altered) (indices : List Nat)
    (inside : ∀ index ∈ indices, index < EspNowFrameCodec.fragmentCount message.length) :
    ∃ last, r.reset.acceptAll
        (indices.map (alteredFrame envelope message altered alteration.length)) = (true, last) ∧
      last.take.1 = none ∧
      (last.complete = true ↔
        ∀ i, i < EspNowFrameCodec.fragmentCount message.length → i ∈ indices) ∧
      (last.complete = true →
        last.validateComplete = (false, last.reset.fail .checksumMismatch) ∧
          last.take = (none, last.reset.fail .checksumMismatch)) := by
  have produced : Produced envelope message indices
      (indices.map (fragmentFrame envelope message)) := by
    unfold Produced
    rw [List.forall₂_map_right_iff, List.forall₂_same]
    exact fun index member => encodeFragment_eq_ok valid (inside index member)
  obtain ⟨original, run, -, complete⟩ := collecting_complete r valid nonempty small produced
  obtain ⟨last, accepted, complete⟩ : ∃ last, r.reset.acceptAll
      (indices.map (alteredFrame envelope message altered alteration.length)) = (true, last) ∧
        (last.complete = true ↔
          ∀ i, i < EspNowFrameCodec.fragmentCount message.length → i ∈ indices) := by
    obtain ⟨buffer, alters⟩ := @acceptAll_altered envelope message altered alteration.length
      r.reset valid indices inside r.message
    rw [run] at alters
    exact ⟨{ original with message := buffer }, alters, complete⟩
  have gathered : last.Gathered (AlteredFrameOf envelope message altered alteration.length) := by
    have empty : r.reset.Gathered (AlteredFrameOf envelope message altered alteration.length) :=
      gathered_of_empty rfl
    have all := gathered_acceptAll
      (indices.map (alteredFrame envelope message altered alteration.length)) (fun frame member => by
        obtain ⟨index, listed, rfl⟩ := List.mem_map.mp member
        exact ⟨index, inside index listed, rfl⟩) empty
    rwa [accepted] at all
  have detected (whole : last.complete = true) :
      last.validateComplete = (false, last.reset.fail .checksumMismatch) := by
    obtain ⟨payload, checksum⟩ := payload_of_altered valid whole gathered
    rw [validateComplete, if_pos whole, if_neg]
    rw [payload, checksum]
    exact alteration.crc32_ne
  have dropped (whole : last.complete = true) :
      last.take = (none, last.reset.fail .checksumMismatch) := by
    simp [take, detected whole]
  refine ⟨last, accepted, ?_, complete, fun whole => ⟨detected whole, dropped whole⟩⟩
  cases whole : last.complete with
  | true => rw [dropped whole]
  | false => rw [take_of_incomplete whole]

/-- The two bytes at the boundary of the two fragments are altered. -/
def boundaryAltered : List UInt8 := List.replicate 213 7 ++ [8, 8]

theorem boundary_alteration : BurstAlteration twoFragments.bytes boundaryAltered := by
  have split : twoFragments.bytes = List.replicate 213 7 ++ [7, 7] ++ [] := by decide +kernel
  have altered : boundaryAltered = List.replicate 213 7 ++ [8, 8] ++ [] :=
    (List.append_nil _).symm
  rw [split, altered]
  exact burstAlteration_append _ _ rfl (by decide) (by decide)

theorem boundary_alteration_detected :
    ∃ last, ({} : EspNowFrameReassembler).reset.acceptAll ([1, 0].map (alteredFrame
        ⟨.result, 1, 2, 5, 1⟩ twoFragments.bytes boundaryAltered boundary_alteration.length)) =
          (true, last) ∧
      last.validateComplete = (false, last.reset.fail .checksumMismatch) := by
  obtain ⟨last, run, -, complete, detected⟩ :=
    altered_payload_detected {} ⟨.result, 1, 2, 5, 1⟩ twoFragments.bytes
      boundaryAltered (by decide) (by rw [twoFragments_length]; omega)
      twoFragments.fits boundary_alteration [1, 0] (by
        rw [twoFragments_count]
        decide)
  refine ⟨last, run, (detected (complete.mpr ?_)).1⟩
  intro i inside
  rw [twoFragments_count] at inside
  simp only [List.mem_cons, List.not_mem_nil, or_false]
  omega

end EspNowFrameReassembler
end Altered

end EspNowNet
