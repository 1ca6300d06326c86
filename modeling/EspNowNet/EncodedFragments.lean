import EspNowNet.CommandCanonical
import EspNowNet.RuntimeCalls

/- What the reassembler delivers is what the encoder could have sent. Arbitrary frames come in
   any order; those accepted last, one an index, are the encoder's frames of the message. -/
namespace EspNowNet
open EspNowFrameCodec
open EspNowCommandCodec (slice slice_append slice_length write_field field_lt byteAt_cons)

/- A frame that reads as a fragment is the fragment's frame, but for the reserved byte. -/

section Canonical
variable {envelope : EspNowFrameEnvelope} {message frame : List UInt8} {index : Nat}

theorem kind_toByte_ofByte {byte : UInt8} {kind : EspNowFrameKind}
    (known : EspNowFrameKind.ofByte? byte = some kind) : byte = kind.toByte := by
  unfold EspNowFrameKind.ofByte? at known
  split at known
  · rename_i same
    obtain rfl := Option.some.inj known
    exact same
  · split at known
    · rename_i same
      obtain rfl := Option.some.inj known
      exact same
    · split at known
      · rename_i same
        obtain rfl := Option.some.inj known
        exact same
      · cases known

theorem fieldsOf_readAs (read : ReadAs frame (fragmentOf envelope message index)) :
    FieldsOf envelope message index frame := by
  have long : 36 ≤ frame.length := by
    rw [read.length]
    exact Nat.le_add_right _ _
  constructor
  · exact read.length
  · exact read.magic
  · exact read.version
  · exact kind_toByte_ofByte read.kind
  · exact read.flags
  · exact (UInt8.ofNat_toNat (x := byteAt frame 5)).symm.trans (congrArg _ read.position)
  · exact (UInt8.ofNat_toNat (x := byteAt frame 6)).symm.trans (congrArg _ read.count)
  · exact (UInt64.toNat_ofNat_of_lt' (field_lt (by omega))).symm.trans (congrArg _ read.boot)
  · exact (UInt64.toNat_ofNat_of_lt' (field_lt (by omega))).symm.trans (congrArg _ read.transaction)
  · exact (UInt32.toNat_ofNat_of_lt' (field_lt (by omega))).symm.trans (congrArg _ read.sequence)
  · exact read.size
  · exact read.part
  · exact (UInt32.toNat_ofNat_of_lt' (field_lt (by omega))).symm.trans (congrArg _ read.checksum)
  · exact read.data

theorem bytes_of_fieldsOf (fields : FieldsOf envelope message index frame) :
    frame.set 7 0 = (fragmentFrame envelope message index).bytes := by
  have long : 36 ≤ frame.length := by
    rw [fields.length]
    exact Nat.le_add_right _ _
  have front : frame = byteAt frame 0 :: byteAt frame 1 :: byteAt frame 2 :: byteAt frame 3 ::
      byteAt frame 4 :: byteAt frame 5 :: byteAt frame 6 :: byteAt frame 7 :: frame.drop 8 := by
    rw [byteAt_cons (by omega), byteAt_cons (by omega), byteAt_cons (by omega),
      byteAt_cons (by omega), byteAt_cons (by omega), byteAt_cons (by omega),
      byteAt_cons (by omega), byteAt_cons (by omega), List.drop_zero]
  have marker : slice frame 0 2 = [byteAt frame 0, byteAt frame 1] := by
    conv_lhs => rw [front]
    rfl
  have reserved : frame.set 7 0 = byteAt frame 0 :: byteAt frame 1 :: byteAt frame 2 ::
      byteAt frame 3 :: byteAt frame 4 :: byteAt frame 5 :: byteAt frame 6 :: 0 ::
      frame.drop 8 := by
    conv_lhs => rw [front]
    rfl
  simp only [fragmentFrame, header]
  rw [← fields.magic, ← fields.version, ← fields.kind, ← fields.flags, ← fields.position,
    ← fields.count, ← fields.boot, ← fields.transaction, ← fields.sequence, ← fields.size,
    ← fields.part, ← fields.checksum, ← fields.data]
  rw [write_field (by omega), write_field (by omega), write_field (by omega),
    write_field (by omega), write_field (by omega), write_field (by omega), write_field (by omega),
    marker, reserved]
  rw [← slice_append frame 8 8, ← slice_append frame 16 8, ← slice_append frame 24 4,
    ← slice_append frame 28 2, ← slice_append frame 30 2, ← slice_append frame 32 4]
  simp [headerSize]

end Canonical

namespace EspNowFrameReassembler

/-- The frames are fed one after the other; the list keeps those that are accepted. -/
def acceptEach (r : EspNowFrameReassembler) :
    List (List UInt8) → List (List UInt8) × EspNowFrameReassembler
  | [] => ([], r)
  | frame :: later =>
    let (accepted, r) := r.accept frame
    let (rest, r) := r.acceptEach later
    (if accepted then frame :: rest else rest, r)

def frameIndex (frame : List UInt8) : Nat := (byteAt frame 5).toNat

/-- The last of the frames that carries the index. -/
def lastWith (index : Nat) (frames : List (List UInt8)) : Option (List UInt8) :=
  frames.reverse.find? fun frame => frameIndex frame = index

/-- No later frame carries the frame's index. -/
def Latest (frames : List (List UInt8)) (frame : List UInt8) : Prop :=
  lastWith (frameIndex frame) frames = some frame

theorem lastWith_append (index : Nat) (frames : List (List UInt8)) (frame : List UInt8) :
    lastWith index (frames ++ [frame]) =
      if frameIndex frame = index then some frame else lastWith index frames := by
  simp only [lastWith, List.reverse_append, List.reverse_cons, List.reverse_nil, List.nil_append,
    List.singleton_append, List.find?_cons]
  by_cases own : frameIndex frame = index
  · simp [own]
  · simp [own]

theorem latest_append_other {frames : List (List UInt8)} {frame other : List UInt8}
    (latest : Latest frames other) (apart : frameIndex other ≠ frameIndex frame) :
    Latest (frames ++ [frame]) other := by
  rw [Latest, lastWith_append, if_neg (Ne.symm apart)]
  exact latest

variable {r : EspNowFrameReassembler} {history : List (List UInt8)}

theorem latest_accept {r' : EspNowFrameReassembler} {frame : List UInt8}
    (run : r.accept frame = (true, r')) (gathered : r.Gathered (Latest history)) :
    r'.Gathered (Latest (history ++ [frame])) := by
  have own : Latest (history ++ [frame]) frame := by
    rw [Latest, lastWith_append, if_pos rfl]
  obtain ⟨f, valid, ⟨empty, rfl⟩ | ⟨-, agrees, rfl⟩⟩ := accept_true run
  · exact gathered_store (gathered_of_empty empty) own valid ⟨rfl, rfl, rfl, rfl⟩
  · apply gathered_replace gathered own valid agrees
    intro other g latest valid' apart
    rw [← (readAs_of_validate valid).position, ← (readAs_of_validate valid').position] at apart
    exact latest_append_other latest apart

/-- What is recorded came in the frame that was accepted last with its index. -/
theorem latest_acceptEach (frames : List (List UInt8)) (gathered : r.Gathered (Latest history)) :
    (r.acceptEach frames).2.Gathered (Latest (history ++ (r.acceptEach frames).1)) := by
  induction frames generalizing r history with
  | nil => simpa [acceptEach] using gathered
  | cons frame frames hyp =>
    obtain ⟨⟨accepted, r'⟩, run⟩ : ∃ next, r.accept frame = next := ⟨_, rfl⟩
    cases accepted with
    | true =>
      have rest := hyp (latest_accept run gathered)
      simpa [acceptEach, run] using rest
    | false =>
      obtain ⟨error, rfl⟩ := accept_false run
      have failed : (r.fail error).Gathered (Latest history) := gathered
      have rest := hyp failed
      simpa [acceptEach, run] using rest

/-- A taken message is made of the frames accepted last, and each of these is the encoder's
    frame of the message but for the reserved byte. -/
theorem taken_message_is_encoded (r last : EspNowFrameReassembler) (frames : List (List UInt8))
    (message : EspNowReassembledMessage)
    (taken : (r.reset.acceptEach frames).2.take = (some message, last)) (index : Nat)
    (inside : index < EspNowFrameCodec.fragmentCount message.data.size) :
    ∃ frame encoded, lastWith index (r.reset.acceptEach frames).1 = some frame ∧
      encodeFragment message.envelope message.data.bytes index = .ok encoded ∧
      frame.set 7 0 = encoded.bytes := by
  obtain ⟨complete, checked, envelope, stored⟩ := take_some taken
  have empty : r.reset.Gathered (Latest []) := gathered_of_empty rfl
  have gathered := latest_acceptEach frames empty
  rw [List.nil_append] at gathered
  obtain ⟨data, same, carried⟩ := carried_of_gathered complete gathered checked
  obtain ⟨message_envelope, message_data⟩ := message
  simp only at envelope stored
  obtain rfl : data = message_data := by
    cases data
    cases message_data
    simp only at same stored
    simp only [same, stored]
  subst envelope
  obtain ⟨identity, -⟩ := complete_of_gathered complete gathered
  obtain ⟨frame, latest, valid⟩ := carried.fragments index inside
  have read := readAs_of_validate valid
  have own : frameIndex frame = index := read.position
  refine ⟨frame, _, own ▸ latest, encodeFragment_eq_ok identity inside, ?_⟩
  exact bytes_of_fieldsOf (fieldsOf_readAs read)

/-- One byte, sent twice; its second frame has the reserved byte set. Two more frames are
    refused. -/
def reservedFrames : List (List UInt8) :=
  let encoded := fragmentFrame ⟨.result, 1, 2, 5, 1⟩ [9] 0
  [[], encoded.bytes, encoded.bytes.set 7 255, encoded.bytes.set 3 4]

theorem reservedFrames_encoded :
    ∃ frame encoded, lastWith 0 (({} : EspNowFrameReassembler).reset.acceptEach reservedFrames).1 =
        some frame ∧
      encodeFragment ⟨.result, 1, 2, 5, 1⟩ [9] 0 = .ok encoded ∧ frame.set 7 0 = encoded.bytes :=
  taken_message_is_encoded {} _ reservedFrames ⟨⟨.result, 1, 2, 5, 1⟩, ⟨[9], by decide⟩⟩
    (Prod.ext (by decide +kernel) rfl) 0 (by decide)

end EspNowFrameReassembler

end EspNowNet
