import EspNowNet.RuntimeCalls

/- What the runtime answers to one more frame, after any calls. A message that completes is new
   or a duplicate by the keys delivered last; a frame that is malformed completes nothing. -/
namespace EspNowNet
open EspNowFrameCodec
namespace EspNowProtocolRuntime

/-- The runtime lets no frame in: it is not configured, or still has an answer to hand over. -/
def Closed (r : EspNowProtocolRuntime) (received : EspNowReceivedFrame) : Prop :=
  r.localBootId = 0 ∨ received.frame.isEmpty ∨ r.applicationMessageReady ∨ r.applicationAck.isSome

instance decidableClosed (r : EspNowProtocolRuntime) (received : EspNowReceivedFrame) :
    Decidable (r.Closed received) :=
  inferInstanceAs (Decidable (_ ∨ _))

/-- The message that a frame completes, if it is let in and the checksum is right. -/
def completion (r : EspNowProtocolRuntime) (received : EspNowReceivedFrame) :
    Option EspNowReassembledMessage :=
  if r.Closed received then none
  else
    match r.collect received with
    | (false, _) => none
    | (true, collected) => collected.reassembler.take.1

/-- The key of the message that a call puts into the mailbox. -/
def deliveredBy (r : EspNowProtocolRuntime) : RuntimeCall → Option DeliveryIdentity
  | .accept received =>
    match r.accept received with
    | (.applicationMessageReady, r) =>
      r.peekApplicationMessage.map fun inbound => inbound.message.envelope.identity
    | _ => none
  | _ => none

def deliveredSince (r : EspNowProtocolRuntime) (keys : List DeliveryIdentity) :
    List RuntimeCall → List DeliveryIdentity
  | [] => keys
  | made :: later => (r.call made).deliveredSince ((r.deliveredBy made).toList ++ keys) later

/-- The delivered keys of some calls, newest first. -/
def delivered (localBootId : UInt64) (made : List RuntimeCall) : List DeliveryIdentity :=
  ({ localBootId } : EspNowProtocolRuntime).deliveredSince [] made

/-- A COMMAND or RESULT message that asks for an ACK. -/
def Answerable (message : EspNowReassembledMessage) : Prop :=
  message.envelope.kind ≠ .ack ∧ message.envelope.flags &&& flagAckRequired ≠ 0

/-- What the runtime does with a frame of the peer, by the keys delivered before. -/
structure Answers (keys : List DeliveryIdentity) (received : EspNowReceivedFrame)
    (r r' : EspNowProtocolRuntime) (result : EspNowProtocolAcceptResult) : Prop where
  unrejected : result ≠ .rejectedAckReady
  duplicate : ∀ message, r.completion received = some message → Answerable message →
    message.envelope.identity ∈ keys.take EspNowDuplicateCache.capacity →
    result = .duplicateAckReady ∧ r'.applicationMessageReady = false ∧ r'.applicationAck =
      some ⟨received.peerIndex, ⟨message.envelope.identity, .duplicate⟩⟩
  new : ∀ message, r.completion received = some message → Answerable message →
    message.envelope.identity ∉ keys.take EspNowDuplicateCache.capacity →
    result = .applicationMessageReady ∧
      r'.peekApplicationMessage = some ⟨received.peerIndex, message⟩ ∧ r'.applicationAck =
        some ⟨received.peerIndex, ⟨message.envelope.identity, .accepted⟩⟩
  other : (∀ message, r.completion received = some message → ¬ Answerable message) →
    result ≠ .duplicateAckReady ∧ result ≠ .applicationMessageReady ∧
      r'.applicationAck = r.applicationAck

variable {came : PeerIndex → List UInt8 → Prop} {r : EspNowProtocolRuntime}
  {received : EspNowReceivedFrame} {message : EspNowReassembledMessage}

/- The delivered keys -/

theorem tracks_call (sound : r.Sound fun _ _ => True) {keys : List DeliveryIdentity}
    (tracks : RecentWindow.Tracks EspNowDuplicateCache.capacity r.duplicates.ring keys)
    (made : RuntimeCall) :
    (r.call made).Sound (fun _ _ => True) ∧
      RecentWindow.Tracks EspNowDuplicateCache.capacity (r.call made).duplicates.ring
        ((r.deliveredBy made).toList ++ keys) := by
  refine ⟨sound_call sound made fun _ _ => trivial, ?_⟩
  cases made with
  | configure localBootId =>
    obtain ⟨_, same⟩ := configure_eq r localBootId
    simpa [call, same, deliveredBy] using tracks
  | peekApplicationMessage | takeDeliveryAck | takeApplicationAck => exact tracks
  | takeApplicationMessage =>
    obtain ⟨⟨message, r'⟩, run⟩ : ∃ next, r.takeApplicationMessage = next := ⟨_, rfl⟩
    obtain ⟨_, _, rfl⟩ := takeApplicationMessage_eq run
    simpa [call, run, deliveredBy] using tracks
  | accept received =>
    obtain ⟨⟨result, r'⟩, run⟩ : ∃ next, r.accept received = next := ⟨_, rfl⟩
    obtain ⟨-, effect⟩ := accept_effect sound trivial run
    simp only [call, deliveredBy, run]
    cases effect with
    | silent nothing mailbox remembers =>
      rcases nothing with rfl | rfl <;> simpa [remembers] using tracks
    | deliveryAck assembled kind decodes mailbox remembers => simpa [remembers] using tracks
    | duplicate known mailbox remembers => simpa [remembers] using tracks
    | ready assembled kind unknown mailbox remembers =>
      have pushed := (EspNowDuplicateCache.observe_tracks tracks assembled.identity unknown).2
      simpa [mailbox, remembers] using pushed

theorem tracks_calls (sound : r.Sound fun _ _ => True) {keys : List DeliveryIdentity}
    (tracks : RecentWindow.Tracks EspNowDuplicateCache.capacity r.duplicates.ring keys)
    (made : List RuntimeCall) :
    RecentWindow.Tracks EspNowDuplicateCache.capacity (r.calls made).duplicates.ring
      (r.deliveredSince keys made) := by
  induction made generalizing r keys with
  | nil => exact tracks
  | cons first later hyp =>
    obtain ⟨sound, tracks⟩ := tracks_call sound tracks first
    exact hyp sound tracks

/- The completing frame -/

theorem payload_length (reassembler : EspNowFrameReassembler) :
    reassembler.payload.length ≤ 640 := by
  rw [EspNowFrameReassembler.payload, List.length_take, reassembler.message.sized]
  exact Nat.min_le_right _ _

theorem take_isSome_iff (reassembler : EspNowFrameReassembler) :
    (∃ message, reassembler.take.1 = some message) ↔
      reassembler.complete = true ∧ crc32 reassembler.payload = reassembler.checksum := by
  constructor
  · rintro ⟨message, taken⟩
    obtain ⟨⟨taken', last⟩, run⟩ : ∃ next, reassembler.take = next := ⟨_, rfl⟩
    rw [run] at taken
    subst taken
    obtain ⟨complete, checked, -⟩ := EspNowFrameReassembler.take_some run
    exact ⟨complete, checked⟩
  · rintro ⟨complete, checked⟩
    have taken := EspNowFrameReassembler.take_of_complete ⟨_, payload_length reassembler⟩ complete
      checked rfl
    exact ⟨_, congrArg Prod.fst taken⟩

theorem collected_active (sound : r.Sound came) (unread : r.applicationMessageReady = false)
    (from' : came received.peerIndex received.frame.bytes) {collected : EspNowProtocolRuntime}
    (run : r.collect received = (true, collected)) :
    collected.reassembler.Gathered (came received.peerIndex) ∧
      ∃ assembling, collected.activate received.peerIndex =
        { r with
          reassembler := collected.reassembler, assembling
          activePeerIndex := received.peerIndex } := by
  obtain ⟨reassembler, assembling, gathered, active⟩ := collect_true sound unread from' run
  have same : (collected.activate received.peerIndex).reassembler = collected.reassembler := by
    unfold activate
    split <;> rfl
  obtain rfl : collected.reassembler = reassembler := by rw [← same, active]
  exact ⟨gathered, assembling, active⟩

theorem accept_closed (closed : r.Closed received) :
    ∃ rejectedCount, r.accept received = (.invalidFrame, { r with rejectedCount }) := by
  unfold accept
  by_cases unopened : r.localBootId = 0 ∨ received.frame.isEmpty
  · rw [if_pos unopened]
    exact ⟨_, rfl⟩
  · have full : r.applicationMessageReady ∨ r.applicationAck.isSome := by
      rw [Closed, ← or_assoc] at closed
      exact closed.resolve_left unopened
    rw [if_neg unopened, if_pos full]
    exact ⟨_, rfl⟩

theorem accept_open (open' : ¬ r.Closed received) :
    r.accept received = match r.collect received with
      | (false, r) => (.invalidFrame, r)
      | (true, r) => r.assembled received.peerIndex := by
  rw [Closed, not_or, not_or] at open'
  obtain ⟨boot, frame, free⟩ := open'
  have opened : ¬ (r.localBootId = 0 ∨ received.frame.isEmpty) := by simp [boot, frame]
  unfold accept
  exact (if_neg opened).trans (if_neg free)

theorem open_facts (open' : ¬ r.Closed received) :
    r.localBootId ≠ 0 ∧ received.frame.bytes ≠ [] ∧ r.applicationMessageReady = false ∧
      r.applicationAck = none := by
  simp only [Closed, not_or, Bool.not_eq_true, Option.isSome_eq_false_iff,
    Option.isNone_iff_eq_none] at open'
  obtain ⟨boot, frame, unread, unanswered⟩ := open'
  refine ⟨boot, ?_, unread, unanswered⟩
  intro empty
  simp [BoundedBytes.isEmpty, empty] at frame

/-- A frame that is let in ends in the runtime that delivers a complete message. -/
theorem accept_collected (sound : r.Sound came)
    (from' : came received.peerIndex received.frame.bytes) {collected : EspNowProtocolRuntime}
    (open' : ¬ r.Closed received) (run : r.collect received = (true, collected)) :
    (collected.reassembler.complete = false ∧ (r.accept received).1 = .fragmentAccepted ∧
      (r.accept received).2.localBootId = r.localBootId ∧
      (r.accept received).2.applicationAck = r.applicationAck) ∨
    (collected.reassembler.complete = true ∧
      r.accept received = { r with
        reassembler := collected.reassembler, assembling := false
        activePeerIndex := received.peerIndex }.deliverComplete) := by
  have unread := (open_facts open').2.2.1
  obtain ⟨-, assembling, active⟩ := collected_active sound unread from' run
  have entered : r.accept received = collected.assembled received.peerIndex := by
    rw [accept_open open', run]
  cases complete : collected.reassembler.complete with
  | false =>
    left
    rw [entered, assembled, active]
    simp [complete]
  | true =>
    refine Or.inr ⟨rfl, ?_⟩
    rw [entered, assembled, active]
    simp only [complete, not_true_eq_false, ↓reduceIte]

/-- A frame that completes no message is answered by nothing. -/
theorem accept_of_no_completion (sound : r.Sound came)
    (from' : came received.peerIndex received.frame.bytes) (none : r.completion received = none) :
    ((r.accept received).1 = .invalidFrame ∨ (r.accept received).1 = .fragmentAccepted) ∧
      (r.accept received).2.applicationAck = r.applicationAck := by
  by_cases closed : r.Closed received
  · obtain ⟨_, same⟩ := accept_closed closed
    rw [same]
    exact ⟨Or.inl rfl, rfl⟩
  · rw [completion, if_neg closed] at none
    obtain ⟨⟨accepted, collected⟩, run⟩ : ∃ next, r.collect received = next := ⟨_, rfl⟩
    cases accepted with
    | false =>
      obtain ⟨-, _, _, rfl⟩ := collect_false sound (open_facts closed).2.2.1 run
      rw [accept_open closed, run]
      exact ⟨Or.inl rfl, rfl⟩
    | true =>
      rcases accept_collected sound from' closed run with ⟨-, result, -, answer⟩ | ⟨complete, same⟩
      · exact ⟨Or.inr result, answer⟩
      · rw [run] at none
        have unchecked : crc32 collected.reassembler.payload ≠ collected.reassembler.checksum := by
          intro checked
          obtain ⟨message, taken⟩ := (take_isSome_iff _).mpr ⟨complete, checked⟩
          simp [taken] at none
        rw [same]
        simp [deliverComplete, EspNowFrameReassembler.validateComplete, complete, unchecked]

/-- A completed message is handed to one of the two ends. -/
theorem accept_of_completion (sound : r.Sound came)
    (from' : came received.peerIndex received.frame.bytes)
    (completes : r.completion received = some message) :
    r.applicationAck = none ∧ message.envelope.identity.Valid ∧ ∃ active : EspNowProtocolRuntime,
      active.reassembler.complete = true ∧ active.reassembler.envelope = message.envelope ∧
      active.reassembler.payload = message.data.bytes ∧
      active.activePeerIndex = received.peerIndex ∧ active.duplicates = r.duplicates ∧
      active.applicationMessageReady = false ∧ active.applicationAck = none ∧
      r.accept received = if message.envelope.kind = .ack then active.acceptDeliveryAck
        else active.acceptApplicationMessage message.envelope := by
  by_cases closed : r.Closed received
  · rw [completion, if_pos closed] at completes
    cases completes
  · obtain ⟨⟨accepted, collected⟩, run⟩ : ∃ next, r.collect received = next := ⟨_, rfl⟩
    rw [completion, if_neg closed, run] at completes
    cases accepted with
    | false => cases completes
    | true =>
      obtain ⟨⟨taken, last⟩, took⟩ : ∃ next, collected.reassembler.take = next := ⟨_, rfl⟩
      simp only [took] at completes
      subst completes
      obtain ⟨complete, checked, envelope, data⟩ := EspNowFrameReassembler.take_some took
      rcases accept_collected sound from' closed run with ⟨incomplete, -⟩ | ⟨-, same⟩
      · simp [complete] at incomplete
      obtain ⟨-, -, unread, unanswered⟩ := open_facts closed
      obtain ⟨gathered, -⟩ := collected_active sound unread from' run
      obtain ⟨valid, -⟩ := EspNowFrameReassembler.complete_of_gathered complete gathered
      refine ⟨unanswered, envelope ▸ valid, { r with
        reassembler := collected.reassembler, assembling := false
        activePeerIndex := received.peerIndex }, complete, envelope.symm, data.symm, rfl, rfl,
        unread, unanswered, ?_⟩
      rw [same, envelope]
      simp [deliverComplete, EspNowFrameReassembler.validateComplete, complete, checked,
        EspNowFrameReassembler.completeEnvelope]

theorem acceptDeliveryAck_quiet (r : EspNowProtocolRuntime) :
    (r.acceptDeliveryAck.1 = .invalidFrame ∨ r.acceptDeliveryAck.1 = .deliveryAckReady) ∧
      r.acceptDeliveryAck.2.applicationAck = r.applicationAck := by
  unfold acceptDeliveryAck
  simp only
  split
  · exact ⟨Or.inl rfl, rfl⟩
  · split
    · exact ⟨Or.inl rfl, rfl⟩
    · exact ⟨Or.inr rfl, rfl⟩

/-- The runtime knows a key exactly while it is one of the keys delivered last. -/
theorem contains_delivered_iff (localBootId : UInt64) (made : List RuntimeCall)
    (key : DeliveryIdentity) (valid : key.Valid) :
    (after localBootId made).duplicates.contains key = true ↔
      key ∈ (delivered localBootId made).take EspNowDuplicateCache.capacity := by
  have sound : EspNowProtocolRuntime.Sound (fun _ _ => True) { localBootId } :=
    (sound_after localBootId []).mono fun _ _ _ => trivial
  have tracks := tracks_calls sound (RecentWindow.tracks_nil _ rfl) made
  exact (EspNowDuplicateCache.contains_iff tracks key).trans (and_iff_right valid)

/-- After any calls, every completed message that asks for an ACK is a duplicate if its key is one
    of the eight delivered last, and else is delivered; nothing else is answered. -/
theorem completions_answered (localBootId : UInt64) (made : List RuntimeCall)
    (received : EspNowReceivedFrame) :
    Answers (delivered localBootId made) received (after localBootId made)
      ((after localBootId made).accept received).2
      ((after localBootId made).accept received).1 := by
  have sound : (after localBootId made).Sound fun _ _ => True :=
    (sound_after localBootId made).mono fun _ _ _ => trivial
  have known := contains_delivered_iff localBootId made
  generalize after localBootId made = r at *
  generalize delivered localBootId made = keys at *
  constructor
  · obtain ⟨⟨result, r'⟩, run⟩ : ∃ next, r.accept received = next := ⟨_, rfl⟩
    obtain ⟨-, effect⟩ := accept_effect sound trivial run
    rw [run]
    cases effect with
    | silent nothing => rcases nothing with rfl | rfl <;> simp
    | deliveryAck | duplicate | ready => simp
  · intro message completes wanted recent
    obtain ⟨kind, flag⟩ := wanted
    obtain ⟨-, valid, active, -, -, -, peer, duplicates, unread, -, run⟩ :=
      accept_of_completion sound trivial completes
    have contained := (known _ valid).mpr recent
    rw [if_neg kind] at run
    rw [run, acceptApplicationMessage, if_neg flag, duplicates, if_pos contained, peer]
    exact ⟨rfl, unread, rfl⟩
  · intro message completes wanted absent
    obtain ⟨kind, flag⟩ := wanted
    obtain ⟨-, valid, active, complete, envelope, payload, peer, duplicates, unread, -, run⟩ :=
      accept_of_completion sound trivial completes
    have unknown := (known _ valid).not.mpr absent
    rw [if_neg kind] at run
    rw [run, acceptApplicationMessage, if_neg flag, duplicates, if_neg unknown,
      if_pos ⟨by simp [unread], kind⟩, peer]
    refine ⟨rfl, ?_, rfl⟩
    simp [peekApplicationMessage, EspNowFrameReassembler.completeEnvelope,
      EspNowFrameReassembler.completeData, complete, envelope, payload,
      BoundedBytes.assign_fits message.data.fits]
  · intro unanswerable
    cases completes : r.completion received with
    | none =>
      obtain ⟨result, answer⟩ := accept_of_no_completion sound trivial completes
      refine ⟨?_, ?_, answer⟩
      · rcases result with result | result <;> simp [result]
      · rcases result with result | result <;> simp [result]
    | some message =>
      obtain ⟨before, valid, active, -, -, -, -, -, -, unanswered, run⟩ :=
        accept_of_completion sound trivial completes
      have quiet := unanswerable message completes
      rw [before, run]
      by_cases kind : message.envelope.kind = .ack
      · rw [if_pos kind]
        obtain ⟨result, answer⟩ := acceptDeliveryAck_quiet active
        exact ⟨fun same => by simp [same] at result, fun same => by simp [same] at result,
          answer.trans unanswered⟩
      · have flag : message.envelope.flags &&& flagAckRequired = 0 := by
          by_contra asked
          exact quiet ⟨kind, asked⟩
        rw [if_neg kind, acceptApplicationMessage, if_pos flag]
        exact ⟨by simp, by simp, unanswered⟩

/- Malformed frames -/

/-- Everything a malformed frame could disturb; only the reassembler's last error may change. -/
structure Kept (r r' : EspNowProtocolRuntime) : Prop where
  assembly : r'.reassembler = { r.reassembler with lastError := r'.reassembler.lastError }
  assembling : r'.assembling = r.assembling
  activePeer : r'.activePeerIndex = r.activePeerIndex
  mailbox : r'.applicationMessageReady = r.applicationMessageReady ∧
    r'.applicationPeerIndex = r.applicationPeerIndex
  deliveryAck : r'.deliveryAck = r.deliveryAck
  applicationAck : r'.applicationAck = r.applicationAck
  duplicates : r'.duplicates = r.duplicates

/-- While fragments are collected no answer is pending. -/
structure Exclusive (r : EspNowProtocolRuntime) : Prop where
  boot : r.assembling = true → r.localBootId ≠ 0
  unanswered : r.assembling = true → r.applicationAck = none

theorem exclusive_of_quiet (quiet : r.assembling = false) : r.Exclusive := by
  constructor <;> intro assembling <;> simp [quiet] at assembling

theorem deliverComplete_assembling (r : EspNowProtocolRuntime) :
    r.deliverComplete.2.assembling = r.assembling := by
  unfold deliverComplete
  split
  · rfl
  · split
    · rfl
    · split
      · unfold acceptDeliveryAck
        simp only
        split
        · rfl
        · split <;> rfl
      · unfold acceptApplicationMessage
        simp only
        split
        · rfl
        · split
          · rfl
          · split <;> rfl

theorem exclusive_accept (sound : r.Sound fun _ _ => True) (exclusive : r.Exclusive)
    (received : EspNowReceivedFrame) : (r.accept received).2.Exclusive := by
  by_cases closed : r.Closed received
  · obtain ⟨_, same⟩ := accept_closed closed
    rw [same]
    exact ⟨exclusive.boot, exclusive.unanswered⟩
  · obtain ⟨boot, -, unread, unanswered⟩ := open_facts closed
    obtain ⟨⟨accepted, collected⟩, run⟩ : ∃ next, r.collect received = next := ⟨_, rfl⟩
    cases accepted with
    | false =>
      obtain ⟨-, _, _, rfl⟩ := collect_false sound unread run
      rw [accept_open closed, run]
      exact ⟨fun _ => boot, fun _ => unanswered⟩
    | true =>
      rcases accept_collected sound trivial closed run with ⟨-, -, sameBoot, answer⟩ | ⟨-, same⟩
      · exact ⟨fun _ => sameBoot ▸ boot, fun _ => answer.trans unanswered⟩
      · rw [same]
        exact exclusive_of_quiet (deliverComplete_assembling _)

theorem exclusive_call (sound : r.Sound fun _ _ => True) (exclusive : r.Exclusive)
    (made : RuntimeCall) : (r.call made).Exclusive := by
  cases made with
  | configure localBootId =>
    cases collecting : r.assembling with
    | false =>
      obtain ⟨_, same⟩ := configure_eq r localBootId
      simp only [call, same]
      exact exclusive_of_quiet collecting
    | true =>
      have refused : r.configure localBootId = (false, r) := by simp [configure, collecting]
      simp only [call, refused]
      exact exclusive
  | accept received => exact exclusive_accept sound exclusive received
  | peekApplicationMessage => exact exclusive
  | takeApplicationMessage =>
    obtain ⟨⟨message, r'⟩, run⟩ : ∃ next, r.takeApplicationMessage = next := ⟨_, rfl⟩
    obtain ⟨_, _, rfl⟩ := takeApplicationMessage_eq run
    simp only [call, run]
    exact ⟨exclusive.boot, exclusive.unanswered⟩
  | takeDeliveryAck => exact ⟨exclusive.boot, exclusive.unanswered⟩
  | takeApplicationAck => exact ⟨exclusive.boot, fun _ => rfl⟩

theorem exclusive_calls (sound : r.Sound fun _ _ => True) (exclusive : r.Exclusive)
    (made : List RuntimeCall) : (r.calls made).Exclusive := by
  induction made generalizing r with
  | nil => exact exclusive
  | cons first later hyp =>
    exact hyp (sound_call sound first fun _ _ => trivial) (exclusive_call sound exclusive first)

theorem collect_malformed {error : EspNowFrameError}
    (malformed : EspNowFrameReassembler.validate received.frame.bytes = .error error) :
    r.collect received = (false,
      if r.assembling ∧ received.peerIndex ≠ r.activePeerIndex then
        { r with reassembler := r.reassembler.reset.fail error, assembling := false }
      else { r with reassembler := r.reassembler.fail error }) := by
  have other := EspNowFrameReassembler.validate_error malformed
  have refused (reassembler : EspNowFrameReassembler) :
      reassembler.accept received.frame.bytes = (false, reassembler.fail error) := by
    rw [EspNowFrameReassembler.accept, malformed]
  have reported (reassembler : EspNowFrameReassembler) :
      (reassembler.fail error).lastError ≠ .correlationMismatch := other
  unfold collect
  by_cases foreign : r.assembling ∧ received.peerIndex ≠ r.activePeerIndex
  · simp only [if_pos foreign, refused, if_pos (reported _)]
  · simp only [if_neg foreign, refused, if_pos (reported _)]

/-- A malformed frame is refused, and everything stays exactly when it does not come from
    another peer into a partial assembly. -/
theorem malformed_frame_kept_iff (localBootId : UInt64) (made : List RuntimeCall)
    (received : EspNowReceivedFrame) (error : EspNowFrameError)
    (malformed : EspNowFrameReassembler.validate received.frame.bytes = .error error) :
    (((after localBootId made).accept received).1 = .invalidFrame ∧
      Kept (after localBootId made) ((after localBootId made).accept received).2) ↔
        ((after localBootId made).assembling = false ∨
          received.peerIndex = (after localBootId made).activePeerIndex ∨
            received.frame.bytes = []) := by
  have linked : (after localBootId made).Linked := linked_calls (linked_of_vacant rfl rfl rfl) made
  have exclusive : (after localBootId made).Exclusive :=
    exclusive_calls ((sound_after localBootId []).mono fun _ _ _ => trivial)
      (exclusive_of_quiet rfl) made
  generalize after localBootId made = r at *
  by_cases closed : r.Closed received
  · obtain ⟨_, same⟩ := accept_closed closed
    rw [same]
    constructor
    · intro _
      cases collecting : r.assembling with
      | false => exact Or.inl rfl
      | true =>
        -- a frame that finds an assembly is only let out when it is empty
        have incomplete := (linked.assembling.mp collecting).2
        rcases closed with boot | empty | full | answered
        · exact absurd boot (exclusive.boot collecting)
        · exact Or.inr (Or.inr (by simpa [BoundedBytes.isEmpty] using empty))
        · rw [linked.ready.mp full] at incomplete
          cases incomplete
        · rw [exclusive.unanswered collecting] at answered
          cases answered
    · intro _
      exact ⟨rfl, rfl, rfl, rfl, ⟨rfl, rfl⟩, rfl, rfl, rfl⟩
  · obtain ⟨boot, nonempty, -, -⟩ := open_facts closed
    rw [accept_open closed, collect_malformed malformed]
    simp only
    by_cases foreign : r.assembling ∧ received.peerIndex ≠ r.activePeerIndex
    · rw [if_pos foreign]
      constructor
      · rintro ⟨-, kept⟩
        have dropped := kept.assembling
        simp [foreign.1] at dropped
      · rintro (quiet | own | empty)
        · simp [foreign.1] at quiet
        · exact absurd own foreign.2
        · exact absurd empty nonempty
    · rw [if_neg foreign]
      constructor
      · intro _
        by_cases collecting : r.assembling = true
        · exact Or.inr (Or.inl (by_contra fun other => foreign ⟨collecting, other⟩))
        · exact Or.inl (by simpa using collecting)
      · intro _
        exact ⟨trivial, rfl, rfl, rfl, ⟨rfl, rfl⟩, rfl, rfl, rfl⟩

/-- The second fragment of a message of 215 bytes, from peer 3. -/
def secondFragment : EspNowReceivedFrame where
  peerIndex := 3
  frame := ⟨[0x54, 0x58, 1, 1, 1, 1, 2, 0] ++ [0, 0, 0, 0, 0, 0, 0, 2] ++
    [0, 0, 0, 0, 0, 0, 0, 5] ++ [0, 0, 0, 1] ++ [0, 215] ++ [0, 1] ++ [0, 0, 0, 0] ++ [7], by decide⟩

/-- A single byte from peer 5. -/
def strayByte : EspNowReceivedFrame := ⟨5, ⟨[0], by decide⟩⟩

theorem strayByte_iff :
    (((after 1 [.accept secondFragment]).accept strayByte).1 = .invalidFrame ∧
      Kept (after 1 [.accept secondFragment])
        ((after 1 [.accept secondFragment]).accept strayByte).2) ↔
        ((after 1 [.accept secondFragment]).assembling = false ∨
          (5 : PeerIndex) = (after 1 [.accept secondFragment]).activePeerIndex ∨
            ([0] : List UInt8) = []) :=
  malformed_frame_kept_iff 1 [.accept secondFragment] strayByte .invalidFragment rfl

/-- A stray byte of one peer drops the partial message of another. -/
theorem stray_byte_drops_assembly :
    ¬ ∀ (localBootId : UInt64) (made : List RuntimeCall) (received : EspNowReceivedFrame)
      (error : EspNowFrameError),
      EspNowFrameReassembler.validate received.frame.bytes = .error error →
      ((after localBootId made).accept received).1 = .invalidFrame ∧
        Kept (after localBootId made) ((after localBootId made).accept received).2 := by
  intro holds
  obtain ⟨-, kept⟩ := holds 1 [.accept secondFragment] strayByte .invalidFragment rfl
  have before : (after 1 [.accept secondFragment]).assembling = true := by decide +kernel
  have dropped : ((after 1 [.accept secondFragment]).accept strayByte).2.assembling = false := by
    decide +kernel
  have same := kept.assembling
  rw [before, dropped] at same
  cases same

end EspNowProtocolRuntime

end EspNowNet
