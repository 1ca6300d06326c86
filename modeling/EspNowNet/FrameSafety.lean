import EspNowNet.Assembly

/- The reassembler with every access to memory checked. A read outside the frame, a write
   outside the message buffer and a difference below zero each end the run, and no run ends. -/
namespace EspNowNet
open EspNowFrameCodec

/- Checked accesses -/

def readByte (frame : List UInt8) (index : Nat) : Option UInt8 := frame[index]?

/-- The bytes are read one after the other, as the codec and `memcpy` do. -/
def readBytes (frame : List UInt8) (offset size : Nat) : Option (List UInt8) :=
  (List.range' offset size).mapM (readByte frame)

def readField (frame : List UInt8) (offset width : Nat) : Option Nat :=
  (readBytes frame offset width).map BigEndian.read

def subtract (a b : Nat) : Option Nat := if b ≤ a then some (a - b) else none

def Buffer.write {size : Nat} (buffer : Buffer size) (offset : Nat) (source : List UInt8) :
    Option (Buffer size) :=
  if offset + source.length ≤ size then some (buffer.memcpy offset source) else none

theorem readByte_inside {frame : List UInt8} {index : Nat} (inside : index < frame.length) :
    readByte frame index = some (byteAt frame index) := by
  simp [readByte, byteAt, inside]

theorem readBytes_inside {frame : List UInt8} {offset size : Nat}
    (inside : offset + size ≤ frame.length) :
    readBytes frame offset size = some ((frame.drop offset).take size) := by
  induction size generalizing offset with
  | zero => simp [readBytes]
  | succ size hyp =>
    have rest := @hyp (offset + 1) (by omega)
    have own : offset < frame.length := by omega
    unfold readBytes at rest ⊢
    rw [List.range'_succ, List.mapM_cons, rest, readByte, List.getElem?_eq_getElem own,
      List.drop_eq_getElem_cons own, List.take_succ_cons]
    rfl

theorem readField_inside {frame : List UInt8} {offset width : Nat}
    (inside : offset + width ≤ frame.length) :
    readField frame offset width = some (field frame offset width) := by
  rw [readField, readBytes_inside inside, Option.map_some, field]

theorem subtract_of_le {a b : Nat} (enough : b ≤ a) : subtract a b = some (a - b) := if_pos enough

theorem Buffer.write_fits {size offset : Nat} {source : List UInt8} (buffer : Buffer size)
    (fits : offset + source.length ≤ size) :
    buffer.write offset source = some (buffer.memcpy offset source) :=
  if_pos fits

namespace EspNowFrameReassembler

/-- The last part of `accept`: the frame is compared with the assembly and copied into it. -/
def storeChecked (r : EspNowFrameReassembler) (frame : List UInt8) (f : FragmentFrame)
    (offset fragmentSize : Nat) : Option (Bool × EspNowFrameReassembler) := do
  if r.receivedMask ≠ 0 ∧ ¬ r.Matches f then return (false, r.fail .correlationMismatch)
  let r := if r.receivedMask = 0 then r.begin f else r
  let message ← r.message.write offset (← readBytes frame headerSize fragmentSize)
  return (true, { r with
    message, receivedMask := r.receivedMask ||| (1 <<< f.fragmentIndex) % 256, lastError := .none })

def acceptFieldsChecked (r : EspNowFrameReassembler) (frame : List UInt8)
    (kind : EspNowFrameKind) : Option (Bool × EspNowFrameReassembler) := do
  let fragmentIndex := (← readByte frame 5).toNat
  let count := (← readByte frame 6).toNat
  let messageSize ← readField frame 28 2
  let fragmentSize ← readField frame 30 2
  if messageSize = 0 ∨ messageSize > maxMessageSize ∨ count = 0 ∨ count > maxFragments ∨
      count ≠ EspNowFrameCodec.fragmentCount messageSize ∨ fragmentIndex ≥ count ∨
      fragmentSize > maxFragmentData ∨ frame.length ≠ headerSize + fragmentSize then
    return (false, r.fail .invalidFragment)
  let offset := fragmentIndex * maxFragmentData
  if fragmentSize ≠ min maxFragmentData (← subtract messageSize offset) then
    return (false, r.fail .invalidFragment)
  let envelope : EspNowFrameEnvelope :=
    { kind, flags := ← readByte frame 4
      sourceBootId := UInt64.ofNat (← readField frame 8 8)
      transactionId := UInt64.ofNat (← readField frame 16 8)
      sequence := UInt32.ofNat (← readField frame 24 4) }
  let checksum := UInt32.ofNat (← readField frame 32 4)
  if envelope.sourceBootId = 0 ∨ envelope.transactionId = 0 ∨ envelope.sequence = 0 then
    return (false, r.fail .invalidFragment)
  r.storeChecked frame ⟨envelope, messageSize, fragmentIndex, count, checksum, []⟩ offset
    fragmentSize

/-- `accept` access by access; the outer option is empty where an access is bad. The frame is
    `none` for a null pointer. -/
def acceptChecked (r : EspNowFrameReassembler) (frame : Option (List UInt8)) :
    Option (Bool × EspNowFrameReassembler) := do
  let some frame := frame | return (false, r.fail .invalidFragment)
  if frame.length < headerSize ∨ frame.length > maxFrameSize then
    return (false, r.fail .invalidFragment)
  if (← readField frame 0 2) ≠ magic then return (false, r.fail .invalidMagic)
  if (← readByte frame 2) ≠ version then return (false, r.fail .unsupportedVersion)
  let some kind := EspNowFrameKind.ofByte? (← readByte frame 3)
    | return (false, r.fail .invalidKind)
  r.acceptFieldsChecked frame kind

/-- An index and sizes that pass the checks leave the fragment inside its message. -/
theorem offset_le {index size : Nat} (nonempty : size ≠ 0) (small : size ≤ maxMessageSize)
    (inside : index < EspNowFrameCodec.fragmentCount size) : index * maxFragmentData ≤ size := by
  rw [fragmentCount_eq (Nat.pos_of_ne_zero nonempty) small] at inside
  simp only [maxFragmentData] at *
  omega

section Accesses
variable {r : EspNowFrameReassembler} {frame : List UInt8}

theorem storeChecked_eq {f : FragmentFrame} (formed : f.WellFormed)
    (carried : f.data = frame.drop headerSize) (long : headerSize ≤ frame.length) :
    r.storeChecked frame { f with data := [] } (f.fragmentIndex * maxFragmentData) f.data.length =
      some (if r.receivedMask = 0 then (true, (r.begin f).store f)
        else if r.Matches f then (true, r.store f)
        else (false, r.fail .correlationMismatch)) := by
  have length : headerSize + f.data.length = frame.length := by
    rw [carried, List.length_drop]
    omega
  have read : readBytes frame headerSize f.data.length = some f.data := by
    rw [readBytes_inside (Nat.le_of_eq length), ← carried, List.take_length]
  have bit : (1 <<< f.fragmentIndex) % 256 = 1 <<< f.fragmentIndex := by
    have inside := formed.inside
    have limit := fragmentCount_le f.messageSize
    rw [formed.count] at inside
    simp only [maxFragments] at limit
    have cases : f.fragmentIndex = 0 ∨ f.fragmentIndex = 1 ∨ f.fragmentIndex = 2 := by omega
    rcases cases with h | h | h <;> rw [h] <;> rfl
  have writes (buffer : Buffer 640) := buffer.write_fits formed.fits
  unfold storeChecked
  simp only [read, Option.bind_eq_bind, Option.bind_some, bit, writes]
  by_cases empty : r.receivedMask = 0
  · simp only [empty, ne_eq, not_true_eq_false, false_and, if_true, if_false]
    rfl
  · have same : r.Matches { f with data := [] } ↔ r.Matches f := Iff.rfl
    by_cases agrees : r.Matches f
    · simp only [empty, same, agrees, ne_eq, not_false_eq_true, not_true_eq_false, and_false,
        if_true, if_false]
      rfl
    · simp only [empty, same, agrees, ne_eq, not_false_eq_true, and_self, if_true, if_false]
      rfl

theorem acceptFieldsChecked_eq {kind : EspNowFrameKind} (long : headerSize ≤ frame.length)
    (reads : validate frame = validateFields frame kind) :
    r.acceptFieldsChecked frame kind = some (r.accept frame) := by
  have bytes {index : Nat} (inside : index < headerSize) :
      readByte frame index = some (byteAt frame index) :=
    readByte_inside (Nat.lt_of_lt_of_le inside long)
  have fields {offset width : Nat} (inside : offset + width ≤ headerSize) :
      readField frame offset width = some (field frame offset width) :=
    readField_inside (Nat.le_trans inside long)
  have formed {f : FragmentFrame} (run : validateFields frame kind = .ok f) : f.WellFormed :=
    validate_wellFormed (reads.trans run)
  unfold accept
  rw [reads]
  unfold acceptFieldsChecked
  simp (disch := decide) only [bytes, fields, Option.bind_eq_bind, Option.bind_some]
  unfold validateFields at formed ⊢
  simp only at formed ⊢
  split
  · rfl
  · rename_i shape
    rw [if_neg shape] at formed
    obtain ⟨nonempty, small, -, -, count, inside, -, length⟩ : _ ∧ _ ∧ _ ∧ _ ∧ _ ∧ _ ∧ _ ∧ _ := by
      simpa only [not_or, Decidable.not_not, ne_eq] using shape
    have inMessage := offset_le nonempty (Nat.not_lt.mp small) (count ▸ Nat.not_le.mp inside)
    rw [subtract_of_le inMessage, Option.bind_some]
    split
    · rfl
    · rename_i part
      rw [if_neg part] at formed
      split
      · rfl
      · rename_i identity
        rw [if_neg identity] at formed
        have stored := storeChecked_eq (r := r) (formed rfl) rfl long
        rw [List.length_drop, length, Nat.add_sub_cancel_left] at stored
        exact stored

/-- Every access of `accept` is inside its memory, so checking them changes nothing. -/
theorem acceptChecked_some (r : EspNowFrameReassembler) (frame : List UInt8) :
    r.acceptChecked (some frame) = some (r.accept frame) := by
  unfold acceptChecked
  simp only
  split
  · rename_i sized
    simp [accept, validate, sized]
  · rename_i sized
    have long : headerSize ≤ frame.length := Nat.not_lt.mp fun short => sized (Or.inl short)
    have reads : validate frame = _ := if_neg sized
    rw [readField_inside (Nat.le_trans (by decide) long), Option.bind_eq_bind, Option.bind_some]
    split
    · rename_i marked
      rw [if_pos marked] at reads
      simp [accept, reads]
    · rename_i marked
      rw [if_neg marked] at reads
      rw [readByte_inside (Nat.lt_of_lt_of_le (by decide) long), Option.bind_eq_bind,
        Option.bind_some]
      split
      · rename_i versioned
        rw [if_pos versioned] at reads
        simp [accept, reads]
      · rename_i versioned
        rw [if_neg versioned] at reads
        rw [readByte_inside (Nat.lt_of_lt_of_le (by decide) long), Option.bind_some]
        cases known : EspNowFrameKind.ofByte? (byteAt frame 3) with
        | none =>
          rw [known] at reads
          simp [accept, reads]
        | some kind =>
          rw [known] at reads
          exact acceptFieldsChecked_eq long reads

end Accesses

/-- Only fragments that the assembly counts are recorded. -/
def Bounded (r : EspNowFrameReassembler) : Prop := r.receivedMask < 2 ^ r.fragmentCount

theorem bounded_reset (r : EspNowFrameReassembler) : r.reset.Bounded := by
  simp [Bounded, reset]

theorem bounded_store {r : EspNowFrameReassembler} {f : FragmentFrame} (bounded : r.Bounded)
    (inside : f.fragmentIndex < r.fragmentCount) : (r.store f).Bounded := by
  have bit : 1 <<< f.fragmentIndex < 2 ^ r.fragmentCount := by
    rw [Nat.one_shiftLeft]
    exact Nat.pow_lt_pow_right (by decide) inside
  exact Nat.or_lt_two_pow bounded bit

theorem bounded_accept {r r' : EspNowFrameReassembler} (bounded : r.Bounded) {frame : List UInt8}
    {accepted : Bool} (run : r.accept frame = (accepted, r')) : r'.Bounded := by
  cases accepted with
  | false =>
    obtain ⟨error, rfl⟩ := accept_false run
    exact bounded
  | true =>
    obtain ⟨f, valid, ⟨empty, rfl⟩ | ⟨-, agrees, rfl⟩⟩ := accept_true run
    · have inside := (validate_wellFormed valid).inside
      apply bounded_store _ inside
      have none : (r.begin f).receivedMask = 0 := empty
      rw [Bounded, none]
      exact Nat.two_pow_pos _
    · have inside := (validate_wellFormed valid).inside
      obtain ⟨-, -, count, -⟩ := agrees
      exact bounded_store bounded (count ▸ inside)

theorem bounded_validateComplete {r : EspNowFrameReassembler} (bounded : r.Bounded) :
    r.validateComplete.2.Bounded := by
  unfold validateComplete
  split
  · split
    · exact bounded
    · exact bounded_reset r
  · exact bounded

theorem bounded_take {r : EspNowFrameReassembler} (bounded : r.Bounded) : r.take.2.Bounded := by
  have checked := bounded_validateComplete bounded
  unfold take
  split
  · rename_i reassembler run
    rw [run] at checked
    exact checked
  · split
    · exact bounded_reset r
    · exact bounded_reset r

inductive Call where
  | accept (frame : Option (List UInt8))
  | validateComplete
  | take
  | releaseComplete
  | reset

/-- One call with checked accesses. -/
def call (r : EspNowFrameReassembler) : Call → Option EspNowFrameReassembler
  | .accept frame => (r.acceptChecked frame).map Prod.snd
  | .validateComplete => some r.validateComplete.2
  | .take => some r.take.2
  | .releaseComplete => some r.releaseComplete
  | .reset => some r.reset

theorem acceptChecked_bounded {r : EspNowFrameReassembler} (bounded : r.Bounded)
    (frame : Option (List UInt8)) :
    ∃ accepted r', r.acceptChecked frame = some (accepted, r') ∧ r'.Bounded ∧
      (accepted = false → r' = { r with lastError := r'.lastError }) := by
  cases frame with
  | none => exact ⟨false, r.fail .invalidFragment, rfl, bounded, fun _ => rfl⟩
  | some frame =>
    obtain ⟨⟨accepted, r'⟩, run⟩ : ∃ next, r.accept frame = next := ⟨_, rfl⟩
    refine ⟨accepted, r', by rw [acceptChecked_some, run], bounded_accept bounded run, ?_⟩
    rintro rfl
    obtain ⟨error, rfl⟩ := accept_false run
    rfl

theorem call_bounded {r : EspNowFrameReassembler} (bounded : r.Bounded) (made : Call) :
    ∃ r', r.call made = some r' ∧ r'.Bounded := by
  cases made with
  | accept frame =>
    obtain ⟨accepted, r', run, kept, -⟩ := acceptChecked_bounded bounded frame
    exact ⟨r', by simp [call, run], kept⟩
  | validateComplete => exact ⟨_, rfl, bounded_validateComplete bounded⟩
  | take => exact ⟨_, rfl, bounded_take bounded⟩
  | releaseComplete =>
    refine ⟨_, rfl, ?_⟩
    unfold releaseComplete
    split
    · exact bounded_reset r
    · exact bounded
  | reset => exact ⟨_, rfl, bounded_reset r⟩

theorem calls_bounded (made : List Call) {r : EspNowFrameReassembler} (bounded : r.Bounded) :
    ∃ r', made.foldlM call r = some r' ∧ r'.Bounded := by
  induction made generalizing r with
  | nil => exact ⟨r, rfl, bounded⟩
  | cons first later hyp =>
    obtain ⟨r', run, kept⟩ := call_bounded bounded first
    obtain ⟨last, rest, bounded⟩ := hyp kept
    exact ⟨last, by simp [run, rest], bounded⟩

/-- After any calls: no access of any of them was bad, and none of one more `accept` is. The
    mask stays below the number of fragments, and a refused frame changes the error only. -/
theorem accept_safe (made : List Call) (frame : Option (List UInt8)) :
    ∃ r, made.foldlM call ({} : EspNowFrameReassembler) = some r ∧
      r.receivedMask < 2 ^ r.fragmentCount ∧
      ∃ accepted r', r.acceptChecked frame = some (accepted, r') ∧
        (∀ bytes, frame = some bytes → (accepted, r') = r.accept bytes) ∧
        r'.receivedMask < 2 ^ r'.fragmentCount ∧
        (accepted = false → r' = { r with lastError := r'.lastError }) := by
  obtain ⟨r, run, bounded⟩ := calls_bounded made (bounded_reset {})
  obtain ⟨accepted, r', accept, kept, unchanged⟩ := acceptChecked_bounded bounded frame
  refine ⟨r, run, bounded, accepted, r', accept, ?_, kept, unchanged⟩
  rintro bytes rfl
  rw [acceptChecked_some] at accept
  exact (Option.some.inj accept).symm

end EspNowFrameReassembler

end EspNowNet
