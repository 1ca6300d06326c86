import EspNowNet.RuntimeInvariant
import Mathlib.Data.List.Induction

/- The runtime over whole sequences of calls. Frames of any peers come in any order, and
   the caller looks at the mailbox, takes from it and takes the ACKs whenever it likes. -/
namespace EspNowNet
open EspNowFrameCodec

inductive RuntimeCall where
  | configure (localBootId : UInt64)
  | accept (received : EspNowReceivedFrame)
  | peekApplicationMessage
  | takeApplicationMessage
  | takeDeliveryAck
  | takeApplicationAck
  deriving DecidableEq

namespace EspNowProtocolRuntime

def call (r : EspNowProtocolRuntime) : RuntimeCall → EspNowProtocolRuntime
  | .configure localBootId => (r.configure localBootId).2
  | .accept received => (r.accept received).2
  | .peekApplicationMessage => r
  | .takeApplicationMessage => r.takeApplicationMessage.2
  | .takeDeliveryAck => r.takeDeliveryAck.2
  | .takeApplicationAck => r.takeApplicationAck.2

def calls (r : EspNowProtocolRuntime) (made : List RuntimeCall) : EspNowProtocolRuntime :=
  made.foldl call r

/-- The runtime after some calls, from its construction on. -/
def after (localBootId : UInt64) (made : List RuntimeCall) : EspNowProtocolRuntime :=
  ({ localBootId } : EspNowProtocolRuntime).calls made

end EspNowProtocolRuntime

/-- The frame was fed to the runtime as a frame of the peer. -/
def Fed (made : List RuntimeCall) (peer : PeerIndex) (frame : List UInt8) : Prop :=
  ∃ received : EspNowReceivedFrame, .accept received ∈ made ∧ received.peerIndex = peer ∧
    received.frame.bytes = frame

/-- Every fragment of the message came in a frame that says what the message says: its
    envelope, its size, its number of fragments and its checksum. Every byte was carried by
    such a frame. -/
structure Carried (came : List UInt8 → Prop) (message : EspNowReassembledMessage) : Prop where
  nonempty : 0 < message.data.size
  fragments : ∀ i, i < fragmentCount message.data.size → ∃ frame, came frame ∧
    EspNowFrameReassembler.validate frame = .ok (fragmentOf message.envelope message.data.bytes i)
  bytes : ∀ k, k < message.data.size → ∃ frame, came frame ∧
    EspNowFrameReassembler.validate frame =
      .ok (fragmentOf message.envelope message.data.bytes (k / maxFragmentData)) ∧
    frame[headerSize + k % maxFragmentData]? = message.data.bytes[k]?

/-- What a completing frame of the peer makes the runtime say about the message. -/
inductive Announced (peer : PeerIndex) (message : EspNowReassembledMessage)
    (r : EspNowProtocolRuntime) : EspNowProtocolAcceptResult → Prop
  | applicationMessage
      (mailbox : r.peekApplicationMessage = some ⟨peer, message⟩)
      (reported : r.applicationMessagePeerIndex = peer)
      (answer : r.applicationAck = some ⟨peer, ⟨message.envelope.identity, .accepted⟩⟩) :
      Announced peer message r .applicationMessageReady
  | duplicate
      (answer : r.applicationAck = some ⟨peer, ⟨message.envelope.identity, .duplicate⟩⟩) :
      Announced peer message r .duplicateAckReady
  | deliveryAck {ack : EspNowAckPayload} (kind : message.envelope.kind = .ack)
      (decodes : EspNowAckCodec.decode message.data.bytes = some ack)
      (handed : r.deliveryAck = some ack) :
      Announced peer message r .deliveryAckReady

namespace EspNowFrameReassembler
variable {came : List UInt8 → Prop} {r : EspNowFrameReassembler}

/-- A complete assembly whose checksum is right is a message its frames carried. -/
theorem carried_of_gathered (complete : r.complete = true) (gathered : r.Gathered came)
    (checked : crc32 r.payload = r.checksum) :
    ∃ data : BoundedBytes 640, data.bytes = r.payload ∧ Carried came ⟨r.envelope, data⟩ := by
  obtain ⟨_, nonempty, small, count⟩ := complete_of_gathered complete gathered
  have long : r.payload.length = r.messageSize := by
    simp only [payload, List.length_take, r.message.sized, maxMessageSize] at small ⊢
    omega
  have fragments : ∀ i, i < EspNowFrameCodec.fragmentCount r.payload.length → ∃ frame, came frame ∧
      validate frame = .ok (fragmentOf r.envelope r.payload i) := by
    intro i inside
    rw [long, ← count] at inside
    obtain ⟨frame, f, from', valid, ⟨envelope, size, counted, checksum⟩, rfl, stands⟩ :=
      gathered i (complete_mask complete inside)
    have formed := validate_wellFormed valid
    have data : f.data = fragmentData r.payload f.fragmentIndex := by
      rw [← stands, formed.length, size]
      simp only [Buffer.slice, fragmentData, payload, List.drop_take, List.take_take]
    refine ⟨frame, from', ?_⟩
    rw [valid, fragmentOf, long, checked, ← count, ← data, ← envelope, ← size, ← counted,
      ← checksum]
  refine ⟨⟨r.payload, by rw [long]; exact small⟩, rfl, ?_, fragments, ?_⟩
  · simpa only [BoundedBytes.size, long] using nonempty
  · intro k inside
    simp only [BoundedBytes.size] at inside
    have index : k / maxFragmentData < EspNowFrameCodec.fragmentCount r.payload.length := by
      rw [long] at inside ⊢
      rw [fragmentCount_eq nonempty small]
      simp only [maxFragmentData]
      omega
    obtain ⟨frame, from', valid⟩ := fragments _ index
    refine ⟨frame, from', valid, ?_⟩
    have data : fragmentData r.payload (k / maxFragmentData) = frame.drop headerSize :=
      (readAs_of_validate valid).data.symm
    have short : k % maxFragmentData < maxFragmentData := Nat.mod_lt _ (by decide)
    have place : k / maxFragmentData * maxFragmentData + k % maxFragmentData = k := by
      rw [Nat.mul_comm]
      exact Nat.div_add_mod k maxFragmentData
    rw [← List.getElem?_drop, ← data]
    simp only [fragmentData, List.getElem?_take, short, ↓reduceIte, List.getElem?_drop, place]

end EspNowFrameReassembler

namespace EspNowProtocolRuntime
variable {came : PeerIndex → List UInt8 → Prop} {r r' : EspNowProtocolRuntime}

theorem sound_call (sound : r.Sound came) (made : RuntimeCall)
    (from' : ∀ received, made = .accept received → came received.peerIndex received.frame.bytes) :
    (r.call made).Sound came := by
  cases made with
  | configure localBootId => exact sound_configure sound localBootId
  | accept received => exact (accept_effect sound (from' received rfl) rfl).1
  | peekApplicationMessage => exact sound
  | takeApplicationMessage => exact sound_takeApplicationMessage sound rfl
  | takeDeliveryAck => exact sound_handed sound none r.applicationAck
  | takeApplicationAck => exact sound_handed sound r.deliveryAck none

/-- The assembly is always sound for the frames fed so far. -/
theorem sound_after (localBootId : UInt64) (made : List RuntimeCall) :
    (after localBootId made).Sound (Fed made) := by
  induction made using List.reverseRecOn with
  | nil =>
    exact ⟨EspNowFrameReassembler.gathered_of_empty rfl, fun _ _ => rfl, by simp [after, calls]⟩
  | append_singleton earlier last hyp =>
    have step : after localBootId (earlier ++ [last]) = (after localBootId earlier).call last := by
      simp [after, calls]
    rw [step]
    apply sound_call
    · apply hyp.mono
      rintro peer frame ⟨received, member, rest⟩
      exact ⟨received, List.mem_append_left _ member, rest⟩
    · rintro received rfl
      exact ⟨received, by simp, rfl, rfl⟩

theorem validateComplete_true {reassembler : EspNowFrameReassembler}
    (run : r.reassembler.validateComplete = (true, reassembler)) :
    r.reassembler.complete = true ∧ crc32 r.reassembler.payload = r.reassembler.checksum := by
  unfold EspNowFrameReassembler.validateComplete at run
  split at run
  · rename_i complete
    split at run
    · rename_i checked
      exact ⟨complete, checked⟩
    · simp at run
  · simp at run

/-- The results that say a message has completed. -/
def Completes (result : EspNowProtocolAcceptResult) : Prop :=
  result = .applicationMessageReady ∨ result = .duplicateAckReady ∨ result = .deliveryAckReady

theorem acceptDeliveryAck_announces {peer : PeerIndex} {message : EspNowReassembledMessage}
    {result : EspNowProtocolAcceptResult} (kind : message.envelope.kind = .ack)
    (given : r.reassembler.completeData = message.data.bytes)
    (run : r.acceptDeliveryAck = (result, r')) (completes : Completes result) :
    Announced peer message r' result := by
  unfold acceptDeliveryAck at run
  rw [given] at run
  split at run
  · obtain ⟨rfl, rfl⟩ := Prod.mk.inj run
    simp [Completes] at completes
  · rename_i ack decodes
    split at run
    · obtain ⟨rfl, rfl⟩ := Prod.mk.inj run
      simp [Completes] at completes
    · obtain ⟨rfl, rfl⟩ := Prod.mk.inj run
      exact .deliveryAck kind decodes rfl

theorem acceptApplicationMessage_announces {message : EspNowReassembledMessage}
    {result : EspNowProtocolAcceptResult} (complete : r.reassembler.complete = true)
    (given : r.reassembler.completeData = message.data.bytes)
    (same : r.reassembler.envelope = message.envelope)
    (run : r.acceptApplicationMessage message.envelope = (result, r'))
    (completes : Completes result) : Announced r.activePeerIndex message r' result := by
  unfold acceptApplicationMessage at run
  simp only at run
  split at run
  · obtain ⟨rfl, rfl⟩ := Prod.mk.inj run
    simp [Completes] at completes
  · split at run
    · obtain ⟨rfl, rfl⟩ := Prod.mk.inj run
      exact .duplicate rfl
    · split at run
      · obtain ⟨rfl, rfl⟩ := Prod.mk.inj run
        refine .applicationMessage ?_ rfl rfl
        simp only [peekApplicationMessage, EspNowFrameReassembler.completeEnvelope, complete,
          given, same, not_true_eq_false, ↓reduceIte, BoundedBytes.assign_fits message.data.fits]
      · obtain ⟨rfl, rfl⟩ := Prod.mk.inj run
        simp [Completes] at completes

/-- A completed assembly is announced as the message its peer's frames carried. -/
theorem deliverComplete_announces {result : EspNowProtocolAcceptResult}
    (gathered : r.reassembler.Gathered (came r.activePeerIndex))
    (run : r.deliverComplete = (result, r')) (completes : Completes result) :
    ∃ message, Carried (came r.activePeerIndex) message ∧
      Announced r.activePeerIndex message r' result := by
  rcases deliverComplete_cases r with invalid | ⟨envelope, valid, found, ends⟩
  · rw [run] at invalid
    obtain rfl : result = .invalidFrame := invalid
    simp [Completes] at completes
  · obtain ⟨complete, checked⟩ := validateComplete_true valid
    obtain ⟨data, stored, carried⟩ :=
      EspNowFrameReassembler.carried_of_gathered complete gathered checked
    have given : r.reassembler.completeData = data.bytes := by
      rw [EspNowFrameReassembler.completeData, if_pos complete, stored]
    obtain rfl : r.reassembler.envelope = envelope := by
      simpa [EspNowFrameReassembler.completeEnvelope, complete] using found
    refine ⟨_, carried, ?_⟩
    rcases ends with ⟨kind, same⟩ | ⟨_, same⟩
    · exact acceptDeliveryAck_announces kind given (same ▸ run) completes
    · exact @acceptApplicationMessage_announces r r' ⟨_, data⟩ result complete given rfl
        (same ▸ run) completes

/-- Nothing completes while the mailbox is full. -/
theorem accept_free {received : EspNowReceivedFrame} {result : EspNowProtocolAcceptResult}
    (run : r.accept received = (result, r')) (completes : Completes result) :
    r.applicationMessageReady = false := by
  by_contra full
  have refused : result = .invalidFrame := by
    unfold accept at run
    split at run
    · exact (Prod.mk.inj run).1.symm
    · rw [if_pos (Or.inl (by simpa using full))] at run
      exact (Prod.mk.inj run).1.symm
  simp [Completes, refused] at completes

/-- Whenever a frame completes a message, in any sequence of frames and calls, the message
    was carried by frames of the completing frame's peer alone, and is reported as its. -/
theorem completed_messages_come_from_peer (localBootId : UInt64) (made : List RuntimeCall)
    (received : EspNowReceivedFrame) {result : EspNowProtocolAcceptResult}
    (run : (after localBootId made).accept received = (result, r'))
    (completes : Completes result) :
    ∃ message, Carried (Fed (made ++ [.accept received]) received.peerIndex) message ∧
      Announced received.peerIndex message r' result := by
  have sound : (after localBootId made).Sound (Fed (made ++ [.accept received])) := by
    apply (sound_after localBootId made).mono
    rintro peer frame ⟨earlier, member, rest⟩
    exact ⟨earlier, List.mem_append_left _ member, rest⟩
  have from' : Fed (made ++ [.accept received]) received.peerIndex received.frame.bytes :=
    ⟨received, by simp, rfl, rfl⟩
  have free := accept_free run completes
  rcases accept_cases run with invalid | fragment | ⟨collected, gathered, completed⟩
  · simp [Completes, invalid] at completes
  · simp [Completes, fragment] at completes
  · obtain ⟨reassembler, assembling, whole, same⟩ := collect_true sound free from' gathered
    rw [same] at completed
    exact deliverComplete_announces
      (r := { after localBootId made with
        reassembler, assembling := false, activePeerIndex := received.peerIndex })
      whole completed completes

/-- A fragment of a command that takes two, as any peer may send it. -/
def commandFragment (peerIndex : PeerIndex) (index : Nat) : EspNowReceivedFrame :=
  { peerIndex
    frame := fragmentFrame ⟨.command, flagAckRequired, 2, 5, 1⟩ (List.replicate 215 7) index }

/-- The fragment of peer 5 would complete the message of peer 3, were the two not kept apart. -/
def interruptedCommand : List RuntimeCall :=
  [.accept (commandFragment 3 0), .accept (commandFragment 5 1), .accept (commandFragment 3 1)]

theorem interrupted_command_comes_from_peer :
    ∃ message, Carried (Fed (interruptedCommand ++ [.accept (commandFragment 3 0)]) 3) message ∧
      Announced 3 message ((after 1 interruptedCommand).accept (commandFragment 3 0)).2
        .applicationMessageReady := by
  have completes : ((after 1 interruptedCommand).accept (commandFragment 3 0)).1 =
      .applicationMessageReady := by decide +kernel
  rcases run : (after 1 interruptedCommand).accept (commandFragment 3 0) with ⟨result, runtime⟩
  rw [run] at completes
  subst completes
  exact completed_messages_come_from_peer 1 interruptedCommand (commandFragment 3 0) run (Or.inl rfl)

end EspNowProtocolRuntime

/- The mailbox and the assembly -/

namespace EspNowFrameReassembler
variable {r : EspNowFrameReassembler}

def Present (r : EspNowFrameReassembler) (i : Nat) : Prop :=
  i < r.fragmentCount ∧ r.receivedMask.testBit i = true

def Missing (r : EspNowFrameReassembler) (i : Nat) : Prop :=
  i < r.fragmentCount ∧ r.receivedMask.testBit i = false

/-- The frame's own checks never say that it does not match. -/
theorem validate_error {frame : List UInt8} {error : EspNowFrameError}
    (run : validate frame = .error error) : error ≠ .correlationMismatch := by
  unfold validate validateFields at run
  simp only at run
  repeat' split at run
  all_goals first
    | (obtain rfl := Except.error.inj run; decide)
    | simp at run

theorem mismatch_of_refused {frame : List UInt8} {refused : EspNowFrameReassembler}
    (run : r.accept frame = (false, refused)) (mismatch : refused.lastError = .correlationMismatch) :
    refused = r.fail .correlationMismatch ∧ ∃ f, validate frame = .ok f := by
  unfold accept at run
  split at run
  · rename_i error invalid
    obtain ⟨-, rfl⟩ := Prod.mk.inj run
    exact absurd mismatch (validate_error invalid)
  · rename_i f valid
    split at run
    · simp at run
    · split at run
      · simp at run
      · exact ⟨(Prod.mk.inj run).2.symm, f, valid⟩

/-- A frame that only fails to match starts a new assembly. -/
theorem accept_after_mismatch {frame : List UInt8} {refused : EspNowFrameReassembler}
    (run : r.accept frame = (false, refused)) (mismatch : refused.lastError = .correlationMismatch) :
    (refused.reset.accept frame).1 = true := by
  obtain ⟨_, f, valid⟩ := mismatch_of_refused run mismatch
  simp [accept, valid, reset]

theorem store_started (r : EspNowFrameReassembler) (f : FragmentFrame) :
    (r.store f).receivedMask ≠ 0 := by
  intro empty
  have own := store_mask (r := r) f f.fragmentIndex
  simp [empty] at own

theorem mask_of_accepted {frame : List UInt8} {accepted : EspNowFrameReassembler}
    (run : r.accept frame = (true, accepted)) : accepted.receivedMask ≠ 0 := by
  obtain ⟨f, _, ⟨_, rfl⟩ | ⟨_, _, rfl⟩⟩ := accept_true run
  · exact store_started _ f
  · exact store_started _ f

theorem complete_of_empty (empty : r.receivedMask = 0) : r.complete = false := by
  simp only [complete, empty, Bool.and_eq_false_iff, decide_eq_false_iff_not, Decidable.not_not,
    beq_eq_false_iff_ne]
  by_cases none : r.fragmentCount = 0
  · exact Or.inl none
  · have := Nat.one_lt_two_pow none
    exact Or.inr (by omega)

/-- A started assembly that is not complete lacks a fragment. -/
theorem partial_iff {came : List UInt8 → Prop} (gathered : r.Gathered came) :
    (r.receivedMask ≠ 0 ∧ r.complete = false) ↔ (∃ i, r.Present i) ∧ ∃ i, r.Missing i := by
  have within : ∀ i, r.receivedMask.testBit i = true → i < r.fragmentCount := by
    intro i bit
    obtain ⟨frame, f, _, valid, ⟨_, _, count, _⟩, rfl, _⟩ := gathered i bit
    exact count ▸ (validate_wellFormed valid).inside
  constructor
  · rintro ⟨started, incomplete⟩
    obtain ⟨i, bit⟩ := Nat.exists_testBit_of_ne_zero started
    refine ⟨⟨i, within i bit, bit⟩, ?_⟩
    by_contra full
    have counted : r.fragmentCount ≠ 0 := by
      have := within i bit
      omega
    have mask : r.receivedMask = 2 ^ r.fragmentCount - 1 := by
      apply Nat.eq_of_testBit_eq
      intro j
      rw [Nat.testBit_two_pow_sub_one]
      by_cases inside : j < r.fragmentCount
      · rw [decide_eq_true inside]
        by_contra missing
        exact full ⟨j, inside, by simpa using missing⟩
      · rw [decide_eq_false inside]
        by_contra present
        exact inside (within j (by simpa using present))
    simp [complete, counted, mask] at incomplete
  · rintro ⟨⟨i, _, present⟩, j, inside, missing⟩
    constructor
    · intro empty
      simp [empty] at present
    · by_contra full
      rw [complete_mask (by simpa using full) inside] at missing
      exact Bool.noConfusion missing

end EspNowFrameReassembler

namespace EspNowProtocolRuntime
variable {r r' : EspNowProtocolRuntime}

/-- What the runtime's flags say about the assembly between two calls. -/
structure Linked (r : EspNowProtocolRuntime) : Prop where
  ready : r.applicationMessageReady = true ↔ r.reassembler.complete = true
  retained : r.applicationMessageReady = true →
    (r.reassembler.envelope.kind = .command ∨ r.reassembler.envelope.kind = .result) ∧
      r.reassembler.envelope.flags &&& flagAckRequired ≠ 0 ∧
      crc32 r.reassembler.payload = r.reassembler.checksum
  assembling : r.assembling = true ↔
    r.reassembler.receivedMask ≠ 0 ∧ r.reassembler.complete = false

/-- An empty mailbox over an empty assembly. -/
theorem linked_of_vacant (unread : r.applicationMessageReady = false) (quiet : r.assembling = false)
    (empty : r.reassembler.receivedMask = 0) : r.Linked := by
  have incomplete := EspNowFrameReassembler.complete_of_empty empty
  constructor
  · simp [unread, incomplete]
  · simp [unread]
  · simp [quiet, empty]

theorem linked_of_partial (unread : r.applicationMessageReady = false)
    (assembling : r.assembling = true) (started : r.reassembler.receivedMask ≠ 0)
    (incomplete : r.reassembler.complete = false) : r.Linked := by
  constructor
  · simp [unread, incomplete]
  · simp [unread]
  · simp [assembling, started, incomplete]

theorem kind_of_ne_ack {kind : EspNowFrameKind} (other : kind ≠ .ack) :
    kind = .command ∨ kind = .result := by
  cases kind with
  | command => exact Or.inl rfl
  | result => exact Or.inr rfl
  | ack => exact absurd rfl other

theorem linked_acceptDeliveryAck (complete : r.reassembler.complete = true)
    (unread : r.applicationMessageReady = false) (quiet : r.assembling = false) :
    r.acceptDeliveryAck.2.Linked := by
  have vacated := releaseComplete_mask complete
  unfold acceptDeliveryAck
  simp only
  split
  · exact linked_of_vacant unread quiet vacated
  · split
    · exact linked_of_vacant unread quiet vacated
    · exact linked_of_vacant unread quiet vacated

theorem linked_acceptApplicationMessage (complete : r.reassembler.complete = true)
    (checked : crc32 r.reassembler.payload = r.reassembler.checksum)
    (unread : r.applicationMessageReady = false) (quiet : r.assembling = false) :
    (r.acceptApplicationMessage r.reassembler.envelope).2.Linked := by
  have vacated := releaseComplete_mask complete
  unfold acceptApplicationMessage
  simp only
  split
  · exact linked_of_vacant unread quiet vacated
  · rename_i required
    split
    · exact linked_of_vacant unread quiet vacated
    · split
      · rename_i delivered
        constructor
        · simp [complete]
        · intro _
          exact ⟨kind_of_ne_ack delivered.2, required, checked⟩
        · simp [complete, quiet]
      · exact linked_of_vacant unread quiet vacated

/-- What collecting a frame does to the link: a refused frame leaves the assembly or drops
    it, an accepted one leaves a started assembly. -/
theorem collect_linked {received : EspNowReceivedFrame} {accepted : Bool} (linked : r.Linked)
    (unread : r.applicationMessageReady = false)
    (run : r.collect received = (accepted, r')) :
    r'.applicationMessageReady = false ∧
      (accepted = false → r'.Linked) ∧
      (accepted = true → r'.reassembler.receivedMask ≠ 0) := by
  have incomplete : r.reassembler.complete = false := by
    by_contra complete
    simp [linked.ready.mpr (by simpa using complete)] at unread
  unfold collect at run
  by_cases foreign : r.assembling = true ∧ received.peerIndex ≠ r.activePeerIndex
  · simp only [foreign.1, foreign.2, ne_eq, not_false_eq_true, and_self, ↓reduceIte] at run
    split at run
    · rename_i reassembler stored
      obtain ⟨rfl, rfl⟩ := Prod.mk.inj run
      exact ⟨unread, by simp, fun _ => EspNowFrameReassembler.mask_of_accepted stored⟩
    · rename_i reassembler refused
      obtain ⟨error, rfl⟩ := EspNowFrameReassembler.accept_false refused
      split at run
      · obtain ⟨rfl, rfl⟩ := Prod.mk.inj run
        exact ⟨unread, fun _ => linked_of_vacant unread rfl rfl, by simp⟩
      · rename_i mismatch
        have again := EspNowFrameReassembler.accept_after_mismatch refused (by simpa using mismatch)
        obtain ⟨rfl, rfl⟩ := Prod.mk.inj run
        exact ⟨unread, by simp [again],
          fun _ => EspNowFrameReassembler.mask_of_accepted (Prod.ext again rfl)⟩
  · simp only [foreign, ↓reduceIte] at run
    split at run
    · rename_i reassembler stored
      obtain ⟨rfl, rfl⟩ := Prod.mk.inj run
      exact ⟨unread, by simp, fun _ => EspNowFrameReassembler.mask_of_accepted stored⟩
    · rename_i reassembler refused
      obtain ⟨error, rfl⟩ := EspNowFrameReassembler.accept_false refused
      split at run
      · obtain ⟨rfl, rfl⟩ := Prod.mk.inj run
        exact ⟨unread, fun _ => ⟨linked.ready, linked.retained, linked.assembling⟩, by simp⟩
      · rename_i mismatch
        have again := EspNowFrameReassembler.accept_after_mismatch refused (by simpa using mismatch)
        obtain ⟨rfl, rfl⟩ := Prod.mk.inj run
        exact ⟨unread, by simp [again],
          fun _ => EspNowFrameReassembler.mask_of_accepted (Prod.ext again rfl)⟩

/-- A completed assembly is either released or kept as the message of the mailbox. -/
theorem linked_deliverComplete (complete : r.reassembler.complete = true)
    (unread : r.applicationMessageReady = false) (quiet : r.assembling = false) :
    r.deliverComplete.2.Linked := by
  unfold deliverComplete EspNowFrameReassembler.validateComplete
  simp only [complete, ↓reduceIte, EspNowFrameReassembler.completeEnvelope]
  by_cases checked : crc32 r.reassembler.payload = r.reassembler.checksum
  · simp only [checked, ↓reduceIte]
    split
    · exact linked_acceptDeliveryAck complete unread quiet
    · exact linked_acceptApplicationMessage complete checked unread quiet
  · simp only [checked, ↓reduceIte]
    exact linked_of_vacant unread quiet rfl

theorem linked_accept (linked : r.Linked) (received : EspNowReceivedFrame) :
    (r.accept received).2.Linked := by
  unfold accept
  split
  · exact linked
  · split
    · exact ⟨linked.ready, linked.retained, linked.assembling⟩
    · rename_i free
      have unread : r.applicationMessageReady = false := by
        by_contra full
        exact free (Or.inl (by simpa using full))
      split
      · rename_i collected
        exact (collect_linked linked unread collected).2.1 rfl
      · rename_i collected
        obtain ⟨unread, -, started⟩ := collect_linked linked unread collected
        have started := started rfl
        rename_i active _
        have sameReassembler : (active.activate received.peerIndex).reassembler =
            active.reassembler := by
          unfold activate
          split <;> rfl
        have sameMailbox : (active.activate received.peerIndex).applicationMessageReady =
            active.applicationMessageReady := by
          unfold activate
          split <;> rfl
        unfold assembled
        simp only
        split
        · rename_i incomplete
          apply linked_of_partial
          · exact sameMailbox.trans unread
          · rfl
          · exact sameReassembler ▸ started
          · simpa using incomplete
        · rename_i complete
          apply linked_deliverComplete
          · simpa using complete
          · exact sameMailbox.trans unread
          · rfl

theorem linked_takeApplicationMessage (linked : r.Linked) :
    r.takeApplicationMessage.2.Linked := by
  unfold takeApplicationMessage
  split
  · exact linked
  · rename_i message peeked
    have ready : r.applicationMessageReady = true := by
      by_contra unread
      simp [peekApplicationMessage, unread] at peeked
    have complete := linked.ready.mp ready
    have quiet : r.assembling = false := by
      by_contra assembling
      have := (linked.assembling.mp (by simpa using assembling)).2
      simp [complete] at this
    exact linked_of_vacant rfl quiet (releaseComplete_mask complete)

theorem linked_call (linked : r.Linked) (made : RuntimeCall) : (r.call made).Linked := by
  cases made with
  | configure localBootId =>
    obtain ⟨_, same⟩ := configure_eq r localBootId
    simp only [call, same]
    exact ⟨linked.ready, linked.retained, linked.assembling⟩
  | accept received => exact linked_accept linked received
  | peekApplicationMessage => exact linked
  | takeApplicationMessage => exact linked_takeApplicationMessage linked
  | takeDeliveryAck => exact ⟨linked.ready, linked.retained, linked.assembling⟩
  | takeApplicationAck => exact ⟨linked.ready, linked.retained, linked.assembling⟩

theorem linked_calls (linked : r.Linked) (made : List RuntimeCall) : (r.calls made).Linked := by
  induction made generalizing r with
  | nil => exact linked
  | cons first later hyp => exact hyp (linked_call linked first)

/-- A retained message stands as it is until it is taken. -/
theorem peek_call (ready : r.applicationMessageReady = true)
    {made : RuntimeCall} (other : made ≠ .takeApplicationMessage) :
    (r.call made).applicationMessageReady = true ∧
      (r.call made).peekApplicationMessage = r.peekApplicationMessage := by
  cases made with
  | configure localBootId =>
    obtain ⟨_, same⟩ := configure_eq r localBootId
    simp only [call, same]
    exact ⟨ready, rfl⟩
  | accept received =>
    simp only [call, accept]
    split
    · exact ⟨ready, rfl⟩
    · rw [if_pos (Or.inl ready)]
      exact ⟨ready, rfl⟩
  | peekApplicationMessage => exact ⟨ready, rfl⟩
  | takeApplicationMessage => exact absurd rfl other
  | takeDeliveryAck => exact ⟨ready, rfl⟩
  | takeApplicationAck => exact ⟨ready, rfl⟩

theorem peek_calls (ready : r.applicationMessageReady = true)
    {later : List RuntimeCall} (untaken : .takeApplicationMessage ∉ later) :
    (r.calls later).peekApplicationMessage = r.peekApplicationMessage := by
  induction later generalizing r with
  | nil => rfl
  | cons first later hyp =>
    simp only [List.mem_cons, not_or] at untaken
    obtain ⟨stands, same⟩ := peek_call ready (Ne.symm untaken.1)
    exact (hyp stands untaken.2).trans same

theorem peek_of_linked (linked : r.Linked) (ready : r.applicationMessageReady = true) :
    ∃ data : BoundedBytes 640, data.bytes = r.reassembler.payload ∧
      r.peekApplicationMessage = some ⟨r.applicationPeerIndex, ⟨r.reassembler.envelope, data⟩⟩ := by
  have complete := linked.ready.mp ready
  have sized : r.reassembler.payload.length ≤ 640 := by
    rw [EspNowFrameReassembler.payload, List.length_take, r.reassembler.message.sized]
    exact Nat.min_le_right _ _
  refine ⟨⟨r.reassembler.payload, sized⟩, rfl, ?_⟩
  simp [peekApplicationMessage, ready, EspNowFrameReassembler.completeEnvelope,
    EspNowFrameReassembler.completeData, complete, BoundedBytes.assign_fits sized]

/-- The mailbox without a copy: what its flags promise about the assembly behind it. -/
structure MailboxKept (r : EspNowProtocolRuntime) : Prop where
  linked : r.Linked
  assembling : r.assembling = true ↔
    (∃ i, r.reassembler.Present i) ∧ ∃ i, r.reassembler.Missing i
  restart : ∀ reassembler : EspNowFrameReassembler, ∀ frame refused,
    reassembler.accept frame = (false, refused) → refused.lastError = .correlationMismatch →
    (refused.reset.accept frame).1 = true
  readable : r.applicationMessageReady = true → ∃ message,
    r.peekApplicationMessage = some message ∧ r.takeApplicationMessage.1 = some message
  stable : r.applicationMessageReady = true → ∀ later, .takeApplicationMessage ∉ later →
    (r.calls later).peekApplicationMessage = r.peekApplicationMessage

/-- Between any two calls the mailbox and the assembly agree. -/
theorem mailbox_agrees_with_assembly (localBootId : UInt64) (made : List RuntimeCall) :
    (after localBootId made).MailboxKept := by
  have linked : (after localBootId made).Linked := linked_calls (linked_of_vacant rfl rfl rfl) made
  have sound := sound_after localBootId made
  generalize after localBootId made = r at *
  constructor
  · exact linked
  · rw [linked.assembling]
    exact EspNowFrameReassembler.partial_iff sound.gathered
  · intro reassembler frame refused run mismatch
    exact EspNowFrameReassembler.accept_after_mismatch run mismatch
  · intro ready
    obtain ⟨data, _, peeked⟩ := peek_of_linked linked ready
    exact ⟨_, peeked, by rw [takeApplicationMessage, peeked]⟩
  · intro ready later untaken
    exact peek_calls ready untaken

end EspNowProtocolRuntime

end EspNowNet
