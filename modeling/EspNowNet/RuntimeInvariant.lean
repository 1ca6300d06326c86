import EspNowNet.Assembly

/- The runtime's assembly always belongs to its active peer. One lemma says everything an
   accepted frame can do, in terms of the message it completes. -/
namespace EspNowNet
open EspNowFrameCodec
namespace EspNowProtocolRuntime

/-- `came peer frame` says that the frame came from the peer. -/
structure Sound (came : PeerIndex → List UInt8 → Prop) (r : EspNowProtocolRuntime) : Prop where
  gathered : r.reassembler.Gathered (came r.activePeerIndex)
  vacant : r.assembling = false → r.applicationMessageReady = false →
    r.reassembler.receivedMask = 0
  ready : r.applicationMessageReady = true → r.assembling = false ∧
    r.applicationPeerIndex = r.activePeerIndex ∧ r.reassembler.complete = true

variable {came : PeerIndex → List UInt8 → Prop} {r : EspNowProtocolRuntime}

theorem Sound.mono {wider : PeerIndex → List UInt8 → Prop} (sound : r.Sound came)
    (widens : ∀ peer frame, came peer frame → wider peer frame) : r.Sound wider :=
  ⟨sound.gathered.mono (widens _), sound.vacant, sound.ready⟩

theorem sound_fresh : ({} : EspNowProtocolRuntime).Sound came :=
  ⟨EspNowFrameReassembler.gathered_of_empty rfl, fun _ _ => rfl, by simp⟩

/-- Configuring changes the boot id only. -/
theorem configure_eq (r : EspNowProtocolRuntime) (bootId : UInt64) :
    ∃ localBootId, (r.configure bootId).2 = { r with localBootId } := by
  unfold configure
  split
  · exact ⟨_, rfl⟩
  · exact ⟨_, rfl⟩

theorem sound_configure (sound : r.Sound came) (bootId : UInt64) :
    (r.configure bootId).2.Sound came := by
  obtain ⟨localBootId, same⟩ := configure_eq r bootId
  rw [same]
  exact ⟨sound.gathered, sound.vacant, sound.ready⟩

/-- The effect of one frame on everything but the assembly. No frame is answered with a
    rejection: a message only completes while the mailbox is empty. -/
inductive AcceptEffect (came : PeerIndex → List UInt8 → Prop) (peer : PeerIndex)
    (r r' : EspNowProtocolRuntime) : EspNowProtocolAcceptResult → Prop
  | silent {result : EspNowProtocolAcceptResult}
      (nothing : result = .invalidFrame ∨ result = .fragmentAccepted)
      (mailbox : r'.applicationMessageReady = r.applicationMessageReady)
      (remembers : r'.duplicates = r.duplicates) (handed : r'.deliveryAck = r.deliveryAck)
      (answer : r'.applicationAck = r.applicationAck) : AcceptEffect came peer r r' result
  | deliveryAck {message : EspNowReassembledMessage} {ack : EspNowAckPayload}
      (assembled : Assembled (came peer) message)
      (kind : message.envelope.kind = .ack)
      (decodes : EspNowAckCodec.decode message.data.bytes = some ack)
      (mailbox : r'.applicationMessageReady = false)
      (remembers : r'.duplicates = r.duplicates) (handed : r'.deliveryAck = some ack)
      (answer : r'.applicationAck = none) : AcceptEffect came peer r r' .deliveryAckReady
  | duplicate {key : DeliveryIdentity} (known : r.duplicates.contains key = true)
      (mailbox : r'.applicationMessageReady = false)
      (remembers : r'.duplicates = r.duplicates) (handed : r'.deliveryAck = r.deliveryAck)
      (answer : r'.applicationAck = some ⟨peer, ⟨key, .duplicate⟩⟩) :
      AcceptEffect came peer r r' .duplicateAckReady
  | ready {message : EspNowReassembledMessage} (assembled : Assembled (came peer) message)
      (kind : message.envelope.kind ≠ .ack)
      (unknown : r.duplicates.contains message.envelope.identity = false)
      (mailbox : r'.peekApplicationMessage = some ⟨peer, message⟩)
      (remembers : r'.duplicates = (r.duplicates.observe message.envelope.identity).2)
      (handed : r'.deliveryAck = r.deliveryAck)
      (answer : r'.applicationAck = some ⟨peer, ⟨message.envelope.identity, .accepted⟩⟩) :
      AcceptEffect came peer r r' .applicationMessageReady

variable {received : EspNowReceivedFrame} {result : EspNowProtocolAcceptResult}
  {r' : EspNowProtocolRuntime}

/-- A collected frame leaves an assembly of its own peer. -/
theorem collect_true (sound : r.Sound came) (unread : r.applicationMessageReady = false)
    (from' : came received.peerIndex received.frame.bytes)
    (run : r.collect received = (true, r')) :
    ∃ reassembler assembling, reassembler.Gathered (came received.peerIndex) ∧
      r'.activate received.peerIndex =
        { r with reassembler, assembling, activePeerIndex := received.peerIndex } := by
  unfold collect at run
  -- another peer's partial assembly is dropped first
  by_cases foreign : r.assembling = true ∧ received.peerIndex ≠ r.activePeerIndex
  · simp only [foreign.1, foreign.2, ne_eq, not_false_eq_true, and_self, ↓reduceIte] at run
    split at run
    · rename_i reassembler accepted
      simp only [Prod.mk.injEq, true_and] at run
      subst run
      refine ⟨reassembler, false, ?_, rfl⟩
      exact EspNowFrameReassembler.gathered_accept accepted from' fun started =>
        absurd rfl started
    · split at run
      · simp at run
      · simp only [Prod.mk.injEq] at run
        obtain ⟨accepted, rfl⟩ := run
        refine ⟨_, false, ?_, rfl⟩
        exact EspNowFrameReassembler.gathered_accept (Prod.ext accepted rfl) from'
          fun started => absurd rfl started
  · simp only [foreign, ↓reduceIte] at run
    split at run
    · rename_i reassembler accepted
      simp only [Prod.mk.injEq, true_and] at run
      subst run
      refine ⟨reassembler, r.assembling, ?_, ?_⟩
      · refine EspNowFrameReassembler.gathered_accept accepted from' fun started => ?_
        have assembling : r.assembling = true := by
          by_contra quiet
          exact started (sound.vacant (by simpa using quiet) unread)
        have own : received.peerIndex = r.activePeerIndex := by
          by_contra other
          exact foreign ⟨assembling, other⟩
        exact own ▸ sound.gathered
      · unfold activate
        split
        · rename_i assembling
          have own : received.peerIndex = r.activePeerIndex := by
            by_contra other
            exact foreign ⟨assembling, other⟩
          simp [own]
        · rfl
    · split at run
      · simp at run
      · simp only [Prod.mk.injEq] at run
        obtain ⟨accepted, rfl⟩ := run
        refine ⟨_, false, ?_, rfl⟩
        exact EspNowFrameReassembler.gathered_accept (Prod.ext accepted rfl) from'
          fun started => absurd rfl started

theorem sound_of_vacant {reassembler : EspNowFrameReassembler} {assembling : Bool}
    (unread : r.applicationMessageReady = false) (vacant : reassembler.receivedMask = 0) :
    { r with reassembler, assembling }.Sound came :=
  ⟨EspNowFrameReassembler.gathered_of_empty vacant, fun _ _ => vacant, by simp [unread]⟩

theorem collect_false (sound : r.Sound came) (unread : r.applicationMessageReady = false)
    (run : r.collect received = (false, r')) :
    r'.Sound came ∧ ∃ reassembler assembling, r' = { r with reassembler, assembling } := by
  unfold collect at run
  by_cases foreign : r.assembling = true ∧ received.peerIndex ≠ r.activePeerIndex
  · simp only [foreign.1, foreign.2, ne_eq, not_false_eq_true, and_self, ↓reduceIte] at run
    split at run
    · simp at run
    · rename_i refused
      obtain ⟨error, rfl⟩ := EspNowFrameReassembler.accept_false refused
      split at run
      · simp only [Prod.mk.injEq, true_and] at run
        subst run
        exact ⟨sound_of_vacant unread rfl, _, _, rfl⟩
      · simp only [Prod.mk.injEq] at run
        obtain ⟨again, rfl⟩ := run
        exact ⟨sound_of_vacant unread (EspNowFrameReassembler.mask_of_refused again), _, _, rfl⟩
  · simp only [foreign, ↓reduceIte] at run
    split at run
    · simp at run
    · rename_i refused
      obtain ⟨error, rfl⟩ := EspNowFrameReassembler.accept_false refused
      split at run
      · simp only [Prod.mk.injEq, true_and] at run
        subst run
        exact ⟨⟨sound.gathered, sound.vacant, sound.ready⟩, _, _, rfl⟩
      · simp only [Prod.mk.injEq] at run
        obtain ⟨again, rfl⟩ := run
        exact ⟨sound_of_vacant unread (EspNowFrameReassembler.mask_of_refused again), _, _, rfl⟩

theorem releaseComplete_mask (complete : r.reassembler.complete = true) :
    r.reassembler.releaseComplete.receivedMask = 0 := by
  simp [EspNowFrameReassembler.releaseComplete, complete, EspNowFrameReassembler.reset]

/-- A completed assembly ends with nothing recorded, or in the mailbox. -/
theorem deliverComplete_effect (gathered : r.reassembler.Gathered (came r.activePeerIndex))
    (complete : r.reassembler.complete = true) (unread : r.applicationMessageReady = false)
    (quiet : r.assembling = false) (unanswered : r.applicationAck = none)
    (run : r.deliverComplete = (result, r')) :
    r'.Sound came ∧ AcceptEffect came r.activePeerIndex r r' result := by
  obtain ⟨data, stored, assembled⟩ :=
    EspNowFrameReassembler.assembled_of_gathered complete gathered
  have vacated := releaseComplete_mask complete
  have valid := assembled.identity
  have given : r.reassembler.completeData = data.bytes := by
    rw [EspNowFrameReassembler.completeData, if_pos complete, stored]
  unfold deliverComplete EspNowFrameReassembler.validateComplete at run
  simp only [complete, ↓reduceIte, EspNowFrameReassembler.completeEnvelope] at run
  split at run
  · rename_i reassembler checked
    have empty : reassembler.receivedMask = 0 := by
      split at checked
      · simp at checked
      · simp only [Prod.mk.injEq, true_and] at checked
        rw [← checked]
        rfl
    simp only [Prod.mk.injEq] at run
    obtain ⟨rfl, rfl⟩ := run
    exact ⟨⟨EspNowFrameReassembler.gathered_of_empty empty, fun _ _ => empty, by simp [unread]⟩,
      .silent (Or.inl rfl) rfl rfl rfl rfl⟩
  · split at run
    · -- a delivery ACK
      rename_i ackKind
      unfold acceptDeliveryAck at run
      rw [given] at run
      have kept (invalidFrameCount rejectedCount : UInt32)
          (deliveryAck : Option EspNowAckPayload) : Sound came { r with
            reassembler := r.reassembler.releaseComplete, invalidFrameCount, rejectedCount
            deliveryAck } :=
        ⟨EspNowFrameReassembler.gathered_of_empty vacated, fun _ _ => vacated, by simp [unread]⟩
      split at run
      · simp only [Prod.mk.injEq] at run
        obtain ⟨rfl, rfl⟩ := run
        exact ⟨kept _ _ _, .silent (Or.inl rfl) rfl rfl rfl rfl⟩
      · rename_i decoded decodes
        split at run
        · simp only [Prod.mk.injEq] at run
          obtain ⟨rfl, rfl⟩ := run
          exact ⟨kept _ _ _, .silent (Or.inl rfl) rfl rfl rfl rfl⟩
        · simp only [Prod.mk.injEq] at run
          obtain ⟨rfl, rfl⟩ := run
          exact ⟨kept _ _ _, .deliveryAck assembled ackKind decodes unread rfl rfl unanswered⟩
    · rename_i messageKind
      unfold acceptApplicationMessage at run
      simp only at run
      split at run
      · simp only [Prod.mk.injEq] at run
        obtain ⟨rfl, rfl⟩ := run
        exact ⟨⟨EspNowFrameReassembler.gathered_of_empty vacated, fun _ _ => vacated,
          by simp [unread]⟩, .silent (Or.inl rfl) rfl rfl rfl rfl⟩
      · split at run
        · rename_i known
          simp only [Prod.mk.injEq] at run
          obtain ⟨rfl, rfl⟩ := run
          exact ⟨⟨EspNowFrameReassembler.gathered_of_empty vacated, fun _ _ => vacated,
            by simp [unread]⟩, .duplicate known unread rfl rfl rfl⟩
        · rename_i unknown
          rw [if_pos ⟨by simp [unread], messageKind⟩] at run
          simp only [Prod.mk.injEq] at run
          obtain ⟨rfl, rfl⟩ := run
          refine ⟨⟨gathered, by simp, fun _ => ⟨quiet, rfl, complete⟩⟩, ?_⟩
          refine .ready assembled messageKind (by simpa using unknown) ?_ rfl rfl rfl
          simp only [peekApplicationMessage, EspNowFrameReassembler.completeEnvelope, complete,
            given, not_true_eq_false, ↓reduceIte, BoundedBytes.assign_fits data.fits]

/-- One frame from its peer: the runtime stays sound, and the frame had one of four effects. -/
theorem accept_effect (sound : r.Sound came)
    (from' : came received.peerIndex received.frame.bytes)
    (run : r.accept received = (result, r')) :
    r'.Sound came ∧ AcceptEffect came received.peerIndex r r' result := by
  unfold accept at run
  split at run
  · simp only [Prod.mk.injEq] at run
    obtain ⟨rfl, rfl⟩ := run
    exact ⟨sound, .silent (Or.inl rfl) rfl rfl rfl rfl⟩
  · split at run
    · simp only [Prod.mk.injEq] at run
      obtain ⟨rfl, rfl⟩ := run
      exact ⟨⟨sound.gathered, sound.vacant, sound.ready⟩, .silent (Or.inl rfl) rfl rfl rfl rfl⟩
    · rename_i free
      simp only [not_or, Bool.not_eq_true, Option.isSome_eq_false_iff, Option.isNone_iff_eq_none]
        at free
      obtain ⟨unread, unanswered⟩ := free
      split at run
      · rename_i collected
        simp only [Prod.mk.injEq] at run
        obtain ⟨rfl, rfl⟩ := run
        obtain ⟨kept, reassembler, assembling, rfl⟩ := collect_false sound unread collected
        exact ⟨kept, .silent (Or.inl rfl) rfl rfl rfl rfl⟩
      · rename_i collected
        obtain ⟨reassembler, assembling, gathered, same⟩ := collect_true sound unread from' collected
        unfold assembled at run
        simp only [same] at run
        split at run
        · simp only [Prod.mk.injEq] at run
          obtain ⟨rfl, rfl⟩ := run
          exact ⟨⟨gathered, by simp, by simp [unread]⟩, .silent (Or.inr rfl) rfl rfl rfl rfl⟩
        · rename_i complete
          obtain ⟨kept, effect⟩ := deliverComplete_effect
            (r := { r with reassembler, assembling := false, activePeerIndex := received.peerIndex })
            gathered (by simpa using complete) unread rfl unanswered run
          refine ⟨kept, ?_⟩
          cases effect with
          | silent nothing mailbox remembers handed answer =>
            exact .silent nothing mailbox remembers handed answer
          | deliveryAck assembled kind decodes mailbox remembers handed answer =>
            exact .deliveryAck assembled kind decodes mailbox remembers handed answer
          | duplicate known mailbox remembers handed answer =>
            exact .duplicate known mailbox remembers handed answer
          | ready assembled kind unknown mailbox remembers handed answer =>
            exact .ready assembled kind unknown mailbox remembers handed answer

/-- A taken message empties the mailbox and the assembly. -/
theorem sound_takeApplicationMessage {message : Option EspNowInboundApplicationMessage}
    (sound : r.Sound came) (run : r.takeApplicationMessage = (message, r')) : r'.Sound came := by
  unfold takeApplicationMessage at run
  split at run
  · simp only [Prod.mk.injEq] at run
    exact run.2 ▸ sound
  · rename_i taken peeked
    simp only [Prod.mk.injEq] at run
    obtain ⟨rfl, rfl⟩ := run
    have ready : r.applicationMessageReady = true := by
      by_contra unread
      simp [peekApplicationMessage, unread] at peeked
    have empty := releaseComplete_mask (sound.ready ready).2.2
    exact ⟨EspNowFrameReassembler.gathered_of_empty empty, fun _ _ => empty, by simp⟩

theorem takeApplicationMessage_eq {message : Option EspNowInboundApplicationMessage}
    (run : r.takeApplicationMessage = (message, r')) :
    ∃ reassembler applicationMessageReady,
      r' = { r with reassembler, applicationMessageReady } := by
  unfold takeApplicationMessage at run
  split at run
  · exact ⟨_, _, (congrArg Prod.snd run).symm⟩
  · exact ⟨_, _, (congrArg Prod.snd run).symm⟩

theorem sound_handed (sound : r.Sound came) (deliveryAck : Option EspNowAckPayload)
    (applicationAck : Option EspNowPendingApplicationAck) :
    { r with deliveryAck, applicationAck }.Sound came :=
  ⟨sound.gathered, sound.vacant, sound.ready⟩

end EspNowProtocolRuntime

end EspNowNet
