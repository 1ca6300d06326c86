import EspNowNet.Assembly

/- Fragments of one message in any order and with any repetitions. The assembly is complete
   as soon as every fragment has come once, and then it is the message. -/
namespace EspNowNet
open EspNowFrameCodec
namespace EspNowFrameReassembler

/-- The frames are accepted one after the other; the flag says whether all of them were. -/
def acceptAll (r : EspNowFrameReassembler) : List EspNowRadioFrame → Bool × EspNowFrameReassembler
  | [] => (true, r)
  | frame :: later =>
    let (accepted, r) := r.accept frame.bytes
    let (rest, r) := r.acceptAll later
    (accepted && rest, r)

/-- The frames are the message's fragments with these indices. -/
def Produced (envelope : EspNowFrameEnvelope) (message : List UInt8) (indices : List Nat)
    (frames : List EspNowRadioFrame) : Prop :=
  List.Forall₂ (fun index frame => encodeFragment envelope message index = .ok frame)
    indices frames

def FragmentFrameOf (envelope : EspNowFrameEnvelope) (message frame : List UInt8) : Prop :=
  ∃ index, index < EspNowFrameCodec.fragmentCount message.length ∧
    frame = (fragmentFrame envelope message index).bytes

/-- The assembly after the fragments `seen` of one message. -/
structure Collecting (envelope : EspNowFrameEnvelope) (message : List UInt8) (seen : List Nat)
    (r : EspNowFrameReassembler) : Prop where
  gathered : r.Gathered (FragmentFrameOf envelope message)
  recorded : ∀ i, r.receivedMask.testBit i = true ↔ i ∈ seen
  inside : ∀ i ∈ seen, i < EspNowFrameCodec.fragmentCount message.length
  belongs : seen ≠ [] → ∀ index, r.Matches (fragmentOf envelope message index)

variable {envelope : EspNowFrameEnvelope} {message : List UInt8} {seen : List Nat}
  {r : EspNowFrameReassembler}

theorem collecting_reset (envelope : EspNowFrameEnvelope) (message : List UInt8)
    (r : EspNowFrameReassembler) : r.reset.Collecting envelope message [] := by
  constructor
  · exact gathered_of_empty rfl
  · intro i
    simp [reset]
  · simp
  · intro started
    exact absurd rfl started

theorem mask_eq_zero_iff (collecting : r.Collecting envelope message seen) :
    r.receivedMask = 0 ↔ seen = [] := by
  constructor
  · intro empty
    apply List.eq_nil_iff_forall_not_mem.mpr
    intro i member
    have := (collecting.recorded i).mpr member
    simp [empty] at this
  · rintro rfl
    apply Nat.eq_of_testBit_eq
    intro i
    have := (collecting.recorded i).not.mpr (by simp)
    simpa using this

theorem collecting_store (valid : envelope.identity.Valid) {index : Nat}
    (inside : index < EspNowFrameCodec.fragmentCount message.length)
    (collecting : r.Collecting envelope message seen)
    (agrees : ∀ index, r.Matches (fragmentOf envelope message index)) :
    (r.store (fragmentOf envelope message index)).Collecting envelope message (seen ++ [index]) := by
  constructor
  · exact gathered_store collecting.gathered ⟨index, inside, rfl⟩
      (validate_fragmentFrame valid inside) (agrees index)
  · intro i
    rw [store_mask]
    simp only [Bool.or_eq_true, collecting.recorded, decide_eq_true_eq, List.mem_append,
      List.mem_singleton]
    exact or_congr Iff.rfl eq_comm
  · intro i member
    rcases List.mem_append.mp member with before | own
    · exact collecting.inside i before
    · exact List.mem_singleton.mp own ▸ inside
  · intro _
    exact agrees

theorem collecting_accept (valid : envelope.identity.Valid) {index : Nat}
    (inside : index < EspNowFrameCodec.fragmentCount message.length)
    (collecting : r.Collecting envelope message seen) :
    ∃ next, r.accept (fragmentFrame envelope message index).bytes = (true, next) ∧
      next.Collecting envelope message (seen ++ [index]) := by
  unfold accept
  rw [validate_fragmentFrame valid inside]
  by_cases started : seen = []
  · -- the first fragment sets what the later ones are compared with
    have empty := (mask_eq_zero_iff collecting).mpr started
    simp only [empty, ↓reduceIte]
    refine ⟨_, rfl, ?_⟩
    apply collecting_store valid inside
    · subst started
      constructor
      · exact gathered_of_empty empty
      · exact collecting.recorded
      · simp
      · intro impossible
        exact absurd rfl impossible
    · intro other
      exact ⟨rfl, rfl, rfl, rfl⟩
  · have nonzero := (mask_eq_zero_iff collecting).not.mpr started
    simp only [nonzero, collecting.belongs started index, ↓reduceIte]
    refine ⟨_, rfl, ?_⟩
    exact collecting_store valid inside collecting (collecting.belongs started)

theorem collecting_acceptAll (valid : envelope.identity.Valid) {indices : List Nat}
    {frames : List EspNowRadioFrame} (produced : Produced envelope message indices frames)
    (collecting : r.Collecting envelope message seen) :
    ∃ last, r.acceptAll frames = (true, last) ∧
      last.Collecting envelope message (seen ++ indices) := by
  induction produced generalizing r seen with
  | nil => exact ⟨r, rfl, by simpa using collecting⟩
  | @cons index frame indices frames encoded _ hyp =>
    obtain ⟨_, inside, rfl⟩ := (encodeFragment_ok_iff envelope message index frame).mp encoded
    obtain ⟨next, accepted, collecting⟩ := collecting_accept valid inside collecting
    obtain ⟨last, rest, collected⟩ := hyp collecting
    refine ⟨last, ?_, by simpa using collected⟩
    simp [acceptAll, accepted, rest]

theorem complete_iff (collecting : r.Collecting envelope message seen) (started : seen ≠ []) :
    r.complete = true ↔ ∀ i, i < EspNowFrameCodec.fragmentCount message.length → i ∈ seen := by
  obtain ⟨-, -, count, -⟩ := collecting.belongs started 0
  have count : r.fragmentCount = EspNowFrameCodec.fragmentCount message.length := count.symm
  constructor
  · intro complete i inside
    exact (collecting.recorded i).mp (complete_mask complete (count ▸ inside))
  · intro all
    have mask : r.receivedMask = 2 ^ r.fragmentCount - 1 := by
      apply Nat.eq_of_testBit_eq
      intro i
      rw [Nat.testBit_two_pow_sub_one, Bool.eq_iff_iff, collecting.recorded, decide_eq_true_eq,
        count]
      exact ⟨collecting.inside i, all i⟩
    have positive : r.fragmentCount ≠ 0 := by
      obtain ⟨i, member⟩ := List.exists_mem_of_ne_nil seen started
      have := collecting.inside i member
      omega
    simp [complete, mask, positive]

/-- A complete collection is the message. -/
theorem payload_of_complete (valid : envelope.identity.Valid)
    (collecting : r.Collecting envelope message seen) (started : seen ≠ [])
    (complete : r.complete = true) :
    r.envelope = envelope ∧ r.checksum = crc32 message ∧ r.payload = message := by
  obtain ⟨sameEnvelope, size, -, checksum⟩ := collecting.belongs started 0
  have size : r.messageSize = message.length := size.symm
  refine ⟨sameEnvelope.symm, checksum.symm, ?_⟩
  obtain ⟨data, stored, assembled⟩ := assembled_of_gathered complete collecting.gathered
  obtain ⟨-, -, small, -⟩ := complete_of_gathered complete collecting.gathered
  have long : data.bytes.length = message.length := by
    rw [stored, payload, List.length_take, r.message.sized, size]
    rw [size] at small
    exact Nat.min_eq_left small
  rw [← stored]
  apply eq_of_fragmentData long
  · rw [long, ← size]
    exact small
  · intro i inside
    obtain ⟨frame, f, ⟨index, inside, rfl⟩, read, -, -, own, carries⟩ :=
      assembled.fragments i inside
    rw [validate_fragmentFrame valid inside] at read
    obtain rfl := Except.ok.inj read
    obtain rfl : index = i := own
    exact carries.symm

/-- Fragments in any order and number are all accepted, and complete the assembly exactly when
    none is missing. -/
theorem collecting_complete (r : EspNowFrameReassembler) (valid : envelope.identity.Valid)
    (nonempty : 1 ≤ message.length) (small : message.length ≤ 640) {indices : List Nat}
    {frames : List EspNowRadioFrame} (produced : Produced envelope message indices frames) :
    ∃ last, r.reset.acceptAll frames = (true, last) ∧
      last.Collecting envelope message indices ∧
      (last.complete = true ↔
        ∀ i, i < EspNowFrameCodec.fragmentCount message.length → i ∈ indices) := by
  obtain ⟨last, run, collecting⟩ :=
    collecting_acceptAll valid produced (collecting_reset envelope message r)
  rw [List.nil_append] at collecting
  refine ⟨last, run, collecting, ?_⟩
  by_cases started : indices = []
  · subst started
    cases produced
    obtain ⟨-, rfl⟩ := Prod.mk.inj run
    have counted := (fragmentCount_bounds nonempty small).1
    constructor
    · intro complete
      simp [EspNowFrameReassembler.complete, reset] at complete
    · intro all
      exact absurd (all 0 counted) (by simp)
  · exact complete_iff collecting started

/-- Fragments in any order and number, fed to a reset reassembler: each is accepted, the
    assembly is complete exactly when none is missing, and only then it can be taken. -/
theorem fragments_reassemble_in_any_order (r : EspNowFrameReassembler)
    (envelope : EspNowFrameEnvelope) (message : List UInt8) (valid : envelope.identity.Valid)
    (nonempty : 1 ≤ message.length) (small : message.length ≤ 640)
    (indices : List Nat) (frames : List EspNowRadioFrame)
    (produced : Produced envelope message indices frames) :
    ∃ last, r.reset.acceptAll frames = (true, last) ∧
      (last.complete = true ↔
        ∀ i, i < EspNowFrameCodec.fragmentCount message.length → i ∈ indices) ∧
      (last.complete = false → last.take = (none, last)) ∧
      (last.complete = true →
        last.take = (some ⟨envelope, ⟨message, small⟩⟩, last.reset.fail .none)) := by
  obtain ⟨last, run, collecting, completes⟩ := collecting_complete r valid nonempty small produced
  refine ⟨last, run, completes, take_of_incomplete, ?_⟩
  intro complete
  have started : indices ≠ [] := by
    have counted := (fragmentCount_bounds nonempty small).1
    exact List.ne_nil_of_mem (completes.mp complete 0 counted)
  obtain ⟨sameEnvelope, checksum, same⟩ :=
    payload_of_complete valid collecting started complete
  rw [take_of_complete ⟨message, small⟩ complete (by rw [same, checksum]) same, sameEnvelope]

/-- A message of two fragments, of which the second comes first and comes again. -/
def twoFragments : BoundedBytes 640 := 
  ⟨List.replicate 215 7, by rw [List.length_replicate]; omega⟩

theorem twoFragments_length : twoFragments.bytes.length = 215 := List.length_replicate

theorem twoFragments_count : EspNowFrameCodec.fragmentCount twoFragments.bytes.length = 2 := by
  rw [twoFragments_length]
  decide

theorem repeated_fragments_reassemble :
    ∃ last, ({} : EspNowFrameReassembler).reset.acceptAll
        ([1, 0, 1].map (fragmentFrame ⟨.result, 1, 2, 5, 1⟩ twoFragments.bytes)) = (true, last) ∧
      last.take = (some ⟨⟨.result, 1, 2, 5, 1⟩, twoFragments⟩, last.reset.fail .none) := by
  have valid : (⟨.result, 1, 2, 5, 1⟩ : EspNowFrameEnvelope).identity.Valid := by decide
  have encodes {index : Nat} (inside : index < 2) :=
    encodeFragment_eq_ok valid (twoFragments_count ▸ inside)
  obtain ⟨last, run, complete, -, taken⟩ :=
    fragments_reassemble_in_any_order {} ⟨.result, 1, 2, 5, 1⟩ twoFragments.bytes valid
      (by rw [twoFragments_length]; omega) twoFragments.fits [1, 0, 1] _
      (.cons (encodes (by decide)) (.cons (encodes (by decide)) (.cons (encodes (by decide)) .nil)))
  refine ⟨last, run, taken (complete.mpr ?_)⟩
  intro i inside
  rw [twoFragments_count] at inside
  simp only [List.mem_cons, List.not_mem_nil, or_false]
  omega

end EspNowFrameReassembler

end EspNowNet
