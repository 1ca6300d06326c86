import EspNowNet.DeliveryTrace

/- Endpoints joined by a channel that may lose, repeat, delay and reorder frames, and that
   neither changes a frame nor makes one up. An acknowledged message has been reported by
   its peer. -/
namespace EspNowNet
open EspNowNetProtocolComponent EspNowFrameCodec Relation

/-- Every endpoint has its own boot id. Two may have one address: a node that has rebooted is
    another endpoint at the same address. -/
structure Deployment (ι : Type) where
  address : ι → Vector UInt8 6
  config : ι → Configuration
  random : ι → UInt64
  bootIdsDistinct : Function.Injective fun i => (setup (config i) (random i)).localBootId

abbrev Network (ι : Type) := ι → EspNowNetProtocolComponent

namespace Deployment
variable {ι : Type}

def begin (d : Deployment ι) : Network ι := fun i => setup (d.config i) (d.random i)

/-- The address an endpoint has configured for a peer. -/
def peerAddress (d : Deployment ι) (i : ι) (peer : PeerIndex) : Option (Vector UInt8 6) :=
  ((d.config i).peers.peer peer).map (·.address)

/-- Another endpoint, with that address, has sent the frame to this one. -/
def Carries (d : Deployment ι) (n : Network ι) (i : ι) (address : Vector UInt8 6)
    (data : List UInt8) : Prop :=
  ∃ j peer, .frameSent peer data ∈ (n j).history ∧
    d.peerAddress j peer = some (d.address i) ∧ d.address j = address

end Deployment

section Network
variable {ι : Type} {d : Deployment ι} {n n' : Network ι}

theorem Deployment.Carries.grow {i : ι} {address : Vector UInt8 6} {data : List UInt8}
    (carries : d.Carries n i address data) (grown : ∀ j, (n j).history ⊆ (n' j).history) :
    d.Carries n' i address data := by
  obtain ⟨j, peer, sent, rest⟩ := carries
  exact ⟨j, peer, grown j sent, rest⟩

/-- An endpoint does nothing but run, and receives nothing but what is carried to it. -/
structure Consistent (d : Deployment ι) (n : Network ι) : Prop where
  runs : ∀ i, EndpointMoves (setup (d.config i) (d.random i)) (n i)
  carried : ∀ i address data, .frameReceived address data ∈ (n i).history →
    d.Carries n i address data

variable [DecidableEq ι]

/-- One endpoint makes a move, and has received only what was sent to it. -/
inductive NetworkMove (d : Deployment ι) (n : Network ι) : Network ι → Prop
  | move (i : ι) {e' : EspNowNetProtocolComponent} (move : EndpointMove (n i) e')
      (carried : ∀ address data, .frameReceived address data ∈ e'.history →
        d.Carries n i address data) : NetworkMove d n (Function.update n i e')

abbrev NetworkMoves (d : Deployment ι) := ReflTransGen (NetworkMove d)

theorem update_grows (i : ι) {e' : EspNowNetProtocolComponent}
    (grown : (n i).history ⊆ e'.history) (j : ι) :
    (n j).history ⊆ (Function.update n i e' j).history := by
  by_cases same : j = i
  · subst same
    simpa using grown
  · rw [Function.update_of_ne same]
    exact List.Subset.refl _

theorem update_grows_back {i : ι} {e' : EspNowNetProtocolComponent} {j : ι}
    {event : EndpointEvent} (member : event ∈ (Function.update n i e' j).history) :
    event ∈ (n j).history ∨ j = i ∧ event ∈ e'.history := by
  by_cases same : j = i
  · subst same
    exact Or.inr ⟨rfl, by simpa using member⟩
  · rw [Function.update_of_ne same] at member
    exact Or.inl member

theorem consistent_moves (run : NetworkMoves d d.begin n) : Consistent d n := by
  refine GuardedInvariant.preserved _ ?_ run ⟨fun i => .refl, ?_⟩
  · rintro n n' ⟨runs, before⟩ ⟨i, move, carried⟩
    have grown := update_grows i (move_extends _ _ move).subset
    refine ⟨fun j => ?_, fun j address data member => ?_⟩
    · by_cases same : j = i
      · subst same
        rw [Function.update_self]
        exact (runs j).tail move
      · rw [Function.update_of_ne same]
        exact runs j
    · rcases update_grows_back member with old | ⟨rfl, own⟩
      · exact (before j address data old).grow grown
      · exact (carried address data own).grow grown
  · intro i address data member
    simp [Deployment.begin, setup] at member

/-- Whatever one endpoint does is a sequence of moves of the network, if the network lets this
    endpoint move, as long as it has received only what was sent to it. -/
theorem endpoint_run {moves : Network ι → Network ι → Prop} (i : ι)
    (lets : ∀ (n : Network ι) {e' : EspNowNetProtocolComponent}, EndpointMove (n i) e' →
      (∀ address data, .frameReceived address data ∈ e'.history → d.Carries n i address data) →
        moves n (Function.update n i e'))
    {last : EspNowNetProtocolComponent} (run : EndpointMoves (n i) last)
    (carried : ∀ address data, .frameReceived address data ∈ last.history →
      d.Carries n i address data) : ReflTransGen moves n (Function.update n i last) := by
  induction run with
  | refl =>
    rw [Function.update_eq_self]
  | @tail middle last earlier move ih =>
    have grown := (move_extends _ _ move).subset
    have before := ih fun address data member => carried address data (grown member)
    have own := update_grows i (GuardedInvariant.extends_run move_extends earlier).subset
    have next : moves (Function.update n i middle)
        (Function.update (Function.update n i middle) i last) :=
      lets _ (by rwa [Function.update_self]) fun address data member =>
        (carried address data member).grow own
    rw [Function.update_idem] at next
    exact before.tail next

theorem endpoint_networkMoves (i : ι) {last : EspNowNetProtocolComponent}
    (run : EndpointMoves (n i) last)
    (carried : ∀ address data, .frameReceived address data ∈ last.history →
      d.Carries n i address data) : NetworkMoves d n (Function.update n i last) :=
  endpoint_run i (fun _ _ => .move i) run carried

end Network

/- Frames read back -/

theorem emitted_validated {history : List EndpointEvent} {peer : PeerIndex} {data : List UInt8}
    {f : FragmentFrame} {bootId : UInt64}
    (started : ∀ message ∈ startedMessages history, message.envelope.identity.Valid ∧
      message.envelope.kind ≠ .ack ∧ message.envelope.sourceBootId = bootId ∧
      message.data.length ≤ maxMessageSize)
    (emitted : Emitted history peer data) (valid : EspNowFrameReassembler.validate data = .ok f) :
    (∃ message ∈ startedMessages history, ∃ index, message.peerIndex = peer ∧
        f = fragmentOf message.envelope message.data index) ∨
      ∃ payload envelope, payload.acknowledged ∈ readyIdentities history ∧
        payload.acknowledged.Valid ∧ envelope.kind = .ack ∧
        f = fragmentOf envelope (EspNowAckCodec.encodedBytes payload) 0 := by
  cases emitted with
  | @fragment message index member inside =>
    rw [validate_fragmentFrame (started message member).1 inside] at valid
    exact Or.inl ⟨message, member, index, rfl, (Except.ok.inj valid).symm⟩
  | @ack peer payload envelope known key kind identity =>
    rw [validate_fragmentFrame identity (by simp [EspNowAckCodec.encodedSize]; decide)] at valid
    exact Or.inr ⟨payload, envelope, known, key, kind, (Except.ok.inj valid).symm⟩
  | heartbeat peer packet =>
    have short : packet.encode.length < headerSize := by
      simp [HeartbeatPacket.encode, HeartbeatPacket.littleEndian, HeartbeatPacket.magic, headerSize]
    unfold EspNowFrameReassembler.validate at valid
    rw [if_pos (Or.inl short)] at valid
    simp at valid

section Delivery
variable {ι : Type} {d : Deployment ι} {n : Network ι}

theorem Consistent.traced (consistent : Consistent d n) (i : ι) :
    Traced (d.config i) (d.random i) (n i) :=
  traced_moves (consistent.runs i)

/-- Where a frame that an endpoint received and checked was emitted. -/
theorem Consistent.emitter (consistent : Consistent d n) {i : ι} {peer : PeerIndex}
    {frame : List UInt8} {f : FragmentFrame}
    (came : Came (n i).radio.peers (n i).history peer frame)
    (valid : EspNowFrameReassembler.validate frame = .ok f) :
    ∃ j out, Emitted (n j).history out frame ∧ d.peerAddress j out = some (d.address i) ∧
      (d.config i).peers.indexForAddress (d.address j) = peer := by
  rcases came with rfl | ⟨address, received, same⟩
  · simp [EspNowFrameReassembler.validate, headerSize] at valid
  · obtain ⟨j, out, sent, addressed, rfl⟩ := consistent.carried i address frame received
    rw [(consistent.traced i).peers] at same
    exact ⟨j, out, (consistent.traced j).outbox.sent out frame sent, addressed, same⟩

theorem fragmentData_zero {message : List UInt8} (short : message.length ≤ maxFragmentData) :
    fragmentData message 0 = message := by
  rw [fragmentData, Nat.zero_mul, List.drop_zero, List.take_of_length_le short]

theorem decode_length {data : List UInt8} {ack : EspNowAckPayload}
    (decodes : EspNowAckCodec.decode data = some ack) : data.length = EspNowAckCodec.encodedSize := by
  unfold EspNowAckCodec.decode at decodes
  split at decodes
  · simp at decodes
  · rename_i shape
    simp only [not_or, Decidable.not_not] at shape
    exact shape.1

/-- An ACK comes from an endpoint that has reported the acknowledged identity. -/
theorem Consistent.acknowledger (consistent : Consistent d n) {a : ι} {key : DeliveryIdentity}
    (received : AckReceived (n a).radio.peers (n a).history key) :
    ∃ b, key ∈ readyIdentities (n b).history := by
  obtain ⟨peer, message, ack, assembled, kind, decodes, rfl⟩ := received
  have size := decode_length decodes
  -- an ACK is one fragment, and that fragment is the whole ACK
  obtain ⟨frame, f, came, valid, envelope, _, _, data⟩ := assembled.fragments 0 (by
    simp only [BoundedBytes.size, size]
    decide)
  rw [fragmentData_zero (by rw [size]; decide)] at data
  obtain ⟨b, out, emitted, _, _⟩ := consistent.emitter came valid
  rcases emitted_validated (consistent.traced b).outbox.started emitted valid with
    ⟨started, member, index, _, rfl⟩ | ⟨payload, other, known, key, _, rfl⟩
  · have notAck := ((consistent.traced b).outbox.started started member).2.1
    exact absurd ((congrArg EspNowFrameEnvelope.kind envelope).trans kind) notAck
  · have whole : message.data.bytes = EspNowAckCodec.encodedBytes payload :=
      data.symm.trans (fragmentData_zero (by simp [EspNowAckCodec.encodedSize, maxFragmentData]))
    rw [whole, EspNowAckCodec.decode_encodedBytes key] at decodes
    exact ⟨b, Option.some.inj decodes ▸ known⟩

theorem Numbered.unique {sequence : UInt32} {messages : List OutboundMessage}
    (numbered : Numbered sequence messages) {one other : OutboundMessage} (first : one ∈ messages)
    (second : other ∈ messages) (same : one.envelope.sequence = other.envelope.sequence) :
    one = other := by
  have apart := numbered.distinct
  exact List.Pairwise.forall_of_forall_of_flip
    (R := fun one other : OutboundMessage =>
      one.envelope.sequence = other.envelope.sequence → one = other)
    (fun _ _ _ => rfl) (apart.imp fun apart same => absurd same apart)
    (apart.imp fun apart same => absurd same.symm apart) first second same

/-- The boot id of a reported message is that of an endpoint with a peer at the address of the
    one that reports it. -/
theorem Consistent.sender (consistent : Consistent d n) {b : ι}
    {inbound : EspNowInboundApplicationMessage} (ready : inbound ∈ readyMessages (n b).history) :
    ∃ a out, inbound.message.envelope.sourceBootId =
        (setup (d.config a) (d.random a)).localBootId ∧
      d.peerAddress a out = some (d.address b) := by
  obtain ⟨assembled, notAck⟩ := (consistent.traced b).inbox.ready inbound ready
  have small : inbound.message.data.bytes.length ≤ maxMessageSize := inbound.message.data.fits
  obtain ⟨frame, f, came, valid, envelope, _⟩ :=
    assembled.fragments 0 (fragmentCount_bounds assembled.nonempty small).1
  obtain ⟨a, out, emitted, addressed, _⟩ := consistent.emitter came valid
  refine ⟨a, out, ?_, addressed⟩
  rcases emitted_validated (consistent.traced a).outbox.started emitted valid with
    ⟨message, member, _, _, rfl⟩ | ⟨_, other, _, _, kind, rfl⟩
  · have boot := ((consistent.traced a).outbox.started message member).2.2.1
    rw [← envelope, ← (consistent.traced a).boot]
    exact boot
  · exact absurd ((congrArg EspNowFrameEnvelope.kind envelope).symm.trans kind) notAck

/-- A reported message with an endpoint's boot id is a message that endpoint has started, for
    the endpoint that reports it. -/
theorem Consistent.origin (consistent : Consistent d n) {a b : ι}
    (few : (startedMessages (n a).history).length < 2 ^ 32 - 1)
    {inbound : EspNowInboundApplicationMessage} (ready : inbound ∈ readyMessages (n b).history)
    (own : inbound.message.envelope.sourceBootId = (setup (d.config a) (d.random a)).localBootId) :
    ∃ message ∈ startedMessages (n a).history, message.envelope = inbound.message.envelope ∧
      message.data = inbound.message.data.bytes ∧
      d.peerAddress a message.peerIndex = some (d.address b) ∧
      (d.config b).peers.indexForAddress (d.address a) = inbound.peerIndex := by
  obtain ⟨assembled, notAck⟩ := (consistent.traced b).inbox.ready inbound ready
  have numbered := (consistent.traced a).outbox.numbered few
  -- each fragment was emitted by the endpoint whose boot id the envelope carries
  have part (i : Nat) (inside : i < fragmentCount inbound.message.data.size) :
      ∃ message ∈ startedMessages (n a).history, message.envelope = inbound.message.envelope ∧
        message.data.length = inbound.message.data.bytes.length ∧
        fragmentData message.data i = fragmentData inbound.message.data.bytes i ∧
        d.peerAddress a message.peerIndex = some (d.address b) ∧
        (d.config b).peers.indexForAddress (d.address a) = inbound.peerIndex := by
    obtain ⟨frame, f, came, valid, envelope, size, index, data⟩ := assembled.fragments i inside
    obtain ⟨j, out, emitted, addressed, from'⟩ := consistent.emitter came valid
    rcases emitted_validated (consistent.traced j).outbox.started emitted valid with
      ⟨message, member, position, rfl, rfl⟩ | ⟨payload, other, _, _, kind, rfl⟩
    · have boot := ((consistent.traced j).outbox.started message member).2.2.1
      have same : j = a := by
        apply d.bootIdsDistinct
        change (setup (d.config j) (d.random j)).localBootId =
          (setup (d.config a) (d.random a)).localBootId
        rw [← own, ← envelope, ← (consistent.traced j).boot]
        exact boot.symm
      subst same
      exact ⟨message, member, envelope, size, index ▸ data, addressed, from'⟩
    · exact absurd ((congrArg EspNowFrameEnvelope.kind envelope).symm.trans kind) notAck
  have small : inbound.message.data.bytes.length ≤ maxMessageSize := inbound.message.data.fits
  have counted := (fragmentCount_bounds assembled.nonempty small).1
  obtain ⟨message, member, envelope, length, _, addressed, from'⟩ := part 0 counted
  refine ⟨message, member, envelope, ?_, addressed, from'⟩
  refine eq_of_fragmentData length (by rw [length]; exact small) fun i inside => ?_
  rw [length] at inside
  obtain ⟨other, second, envelope', _, same, _⟩ := part i inside
  rw [numbered.unique member second (by rw [envelope, envelope'])]
  exact same

/-- Whenever a sender is acknowledged, the peer it sent to has reported exactly its message,
    under the sender's own peer index. -/
theorem acknowledged_message_ready [DecidableEq ι] (run : NetworkMoves d d.begin n)
    (few : ∀ i, (startedMessages (n i).history).length < 2 ^ 32 - 1) (a : ι)
    (acknowledged : (n a).sender.state = .acknowledged) :
    ∃ b, d.peerAddress a (n a).sender.peerIndex = some (d.address b) ∧
      .messageReady ⟨(d.config b).peers.indexForAddress (d.address a),
        ⟨(n a).sender.envelope, (n a).sender.message⟩⟩ ∈ (n b).history := by
  have consistent := consistent_moves run
  have traced := consistent.traced a
  have busy := traced.outbox.busy (by simp [acknowledged])
  obtain ⟨b, known⟩ := consistent.acknowledger (traced.outbox.acknowledged acknowledged)
  obtain ⟨inbound, ready, identity⟩ := List.mem_map.mp known
  have boot : inbound.message.envelope.sourceBootId = (n a).sender.envelope.sourceBootId :=
    congrArg DeliveryIdentity.sourceBootId identity
  have sequence : inbound.message.envelope.sequence = (n a).sender.envelope.sequence :=
    congrArg DeliveryIdentity.sequence identity
  obtain ⟨message, member, envelope, data, addressed, from'⟩ :=
    consistent.origin (few a) ready
      (boot.trans ((traced.outbox.started _ busy).2.2.1.trans traced.boot))
  obtain rfl := (traced.outbox.numbered (few a)).unique member busy
    ((congrArg EspNowFrameEnvelope.sequence envelope).trans sequence)
  refine ⟨b, addressed, ?_⟩
  rw [mem_readyMessages] at ready
  have whole : inbound = ⟨(d.config b).peers.indexForAddress (d.address a),
      ⟨(n a).sender.envelope, (n a).sender.message⟩⟩ := by
    obtain ⟨peerIndex, ⟨env, ⟨bytes, fits⟩⟩⟩ := inbound
    simp only [ReliableMessageSender.outbound] at envelope data from'
    subst envelope data from'
    rfl
  rwa [← whole]

end Delivery

/- Runs of a whole network that can be computed -/

def EndpointEvent.receivedFrame : EndpointEvent → Option (Vector UInt8 6 × List UInt8)
  | .frameReceived address data => some (address, data)
  | _ => none

theorem carried_of_received {ι : Type} {d : Deployment ι} {n : Network ι} {i : ι}
    {history : List EndpointEvent} (frames : List (Vector UInt8 6 × List UInt8))
    (received : history.filterMap EndpointEvent.receivedFrame = frames)
    (carries : ∀ frame ∈ frames, d.Carries n i frame.1 frame.2) :
    ∀ address data, .frameReceived address data ∈ history → d.Carries n i address data := by
  intro address data member
  refine carries (address, data) ?_
  rw [← received]
  exact List.mem_filterMap.mpr ⟨_, member, rfl⟩

section Play
variable {ι : Type} {d : Deployment ι} {senders : List ι}

/-- One of the senders has sent the frame to this endpoint. -/
def Deployment.supplies (d : Deployment ι) (senders : List ι) (n : Network ι) (i : ι)
    (frame : Vector UInt8 6 × List UInt8) : Bool :=
  senders.any fun j => d.address j = frame.1 && (n j).history.any fun event =>
    match event with
    | .frameSent peer data => data = frame.2 && d.peerAddress j peer = some (d.address i)
    | _ => false

theorem carries_of_supplies {n : Network ι} {i : ι} {frame : Vector UInt8 6 × List UInt8}
    (supplied : d.supplies senders n i frame = true) : d.Carries n i frame.1 frame.2 := by
  obtain ⟨j, _, found⟩ := List.any_eq_true.mp supplied
  obtain ⟨address, sends⟩ := Bool.and_eq_true_iff.mp found
  obtain ⟨event, member, sent⟩ := List.any_eq_true.mp sends
  cases event with
  | frameSent peer data =>
    obtain ⟨same, reaches⟩ := Bool.and_eq_true_iff.mp sent
    exact ⟨j, peer, of_decide_eq_true same ▸ member, of_decide_eq_true reaches,
      of_decide_eq_true address⟩
  | _ => cases sent

variable [DecidableEq ι]

def Network.play (n : Network ι) : List (ι × List EndpointOperation) → Network ι
  | [] => n
  | (i, operations) :: rest => Network.play (Function.update n i ((n i).run operations)) rest

def Deployment.plays (d : Deployment ι) (senders : List ι) (n : Network ι) :
    List (ι × List EndpointOperation) → Bool
  | [] => true
  | (i, operations) :: rest =>
    let last := (n i).run operations
    (last.history.filterMap EndpointEvent.receivedFrame).all (d.supplies senders n i) &&
      d.plays senders (Function.update n i last) rest

theorem play_run {moves : Network ι → Network ι → Prop}
    {stretches : List (ι × List EndpointOperation)} {n : Network ι}
    (plays : d.plays senders n stretches = true)
    (lets : ∀ stretch ∈ stretches, ∀ (n : Network ι) {e' : EspNowNetProtocolComponent},
      EndpointMove (n stretch.1) e' →
        (∀ address data, .frameReceived address data ∈ e'.history →
          d.Carries n stretch.1 address data) →
        moves n (Function.update n stretch.1 e')) :
    ReflTransGen moves n (n.play stretches) := by
  induction stretches generalizing n with
  | nil => exact .refl
  | cons stretch rest hyp =>
    obtain ⟨i, operations⟩ := stretch
    obtain ⟨supplied, later⟩ := Bool.and_eq_true_iff.mp plays
    have first : ReflTransGen moves n (Function.update n i ((n i).run operations)) := by
      apply endpoint_run i (lets (i, operations) List.mem_cons_self) (run_moves _ _)
      apply carried_of_received _ rfl
      intro frame member
      exact carries_of_supplies (List.all_eq_true.mp supplied frame member)
    exact first.trans (hyp later fun other member => lets other (List.mem_cons_of_mem _ member))

end Play

/- Two endpoints, the first of which sends a message to the second -/

def sampleAddress (second : Bool) : Vector UInt8 6 :=
  if second then nodeAddress 1 else nodeAddress 0

def sampleDeployment : Deployment Bool where
  address := sampleAddress
  config second := { peers := peerAt (sampleAddress !second) }
  random second := if second then 2 else 1
  bootIdsDistinct := by
    unfold Function.Injective
    decide

def sampleFrame : List UInt8 :=
  (fragmentFrame ⟨.command, flagAckRequired, 1, 7, 1⟩ [1] 0).bytes

def sampleAck : List UInt8 :=
  (fragmentFrame ⟨.ack, 0, 2, 7, 1⟩ (EspNowAckCodec.encodedBytes ⟨⟨1, 7, 1⟩, .accepted⟩) 0).bytes

def senderStarted : EspNowNetProtocolComponent :=
  (sampleDeployment.begin false).run (radioReady ++ startAndSend 5251)

def receiverAnswered : EspNowNetProtocolComponent :=
  (sampleDeployment.begin true).run (radioReady ++
    [.driver (.receiveCallback (sampleAddress false) sampleFrame), .loop { nowMs := 5252 }])

def senderAcknowledged : EspNowNetProtocolComponent :=
  senderStarted.run [.driver (.sendCallback 0 true),
    .driver (.receiveCallback (sampleAddress true) sampleAck), .loop { nowMs := 5253 }]

def sampleNetwork : Network Bool :=
  Function.update (Function.update (Function.update sampleDeployment.begin false senderStarted)
    true receiverAnswered) false senderAcknowledged

theorem sampleNetwork_moves : NetworkMoves sampleDeployment sampleDeployment.begin sampleNetwork := by
  have started : NetworkMoves sampleDeployment sampleDeployment.begin
      (Function.update sampleDeployment.begin false senderStarted) :=
    endpoint_networkMoves false (run_moves _ _)
      (carried_of_received [] (by decide +kernel) (by simp))
  have answered := endpoint_networkMoves (d := sampleDeployment)
    (n := Function.update sampleDeployment.begin false senderStarted) true
    (run_moves _ _ : EndpointMoves _ receiverAnswered)
    (carried_of_received [(sampleAddress false, sampleFrame)] (by decide +kernel) (by
      intro frame member
      obtain rfl := List.mem_singleton.mp member
      exact ⟨false, 0, by decide +kernel, by decide +kernel, rfl⟩))
  have acknowledged := endpoint_networkMoves (d := sampleDeployment)
    (n := Function.update (Function.update sampleDeployment.begin false senderStarted) true
      receiverAnswered) false
    (run_moves _ _ : EndpointMoves _ senderAcknowledged)
    (carried_of_received [(sampleAddress true, sampleAck)] (by decide +kernel) (by
      intro frame member
      obtain rfl := List.mem_singleton.mp member
      exact ⟨true, 0, by decide +kernel, by decide +kernel, rfl⟩))
  exact (started.trans answered).trans acknowledged

theorem acknowledged_message_ready_two_endpoints :
    ∃ b, sampleDeployment.peerAddress false (sampleNetwork false).sender.peerIndex =
        some (sampleDeployment.address b) ∧
      .messageReady ⟨(sampleDeployment.config b).peers.indexForAddress
          (sampleDeployment.address false),
        ⟨(sampleNetwork false).sender.envelope, (sampleNetwork false).sender.message⟩⟩ ∈
          (sampleNetwork b).history :=
  acknowledged_message_ready sampleNetwork_moves
    (by
      intro i
      cases i <;> decide +kernel)
    false (by decide +kernel)

end EspNowNet
