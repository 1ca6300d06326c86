import EspNowNet.EventOrigins

/- Whose command the application's observer is told about. The source a command names is only
   a claim of its sender; it reaches the observer when it is the one configured for the peer
   whose frames the command came in. -/
namespace EspNowNet
open EspNowNetProtocolComponent

theorem PeerApplicationIdentity.matched_of_check {identities : PeerApplicationIdentity}
    {peer : PeerIndex} {sourceId : BoundedText 63} {bootId : UInt64}
    (checked : identities.check peer sourceId bootId = .matched) :
    ∃ source, identities.expected peer = some source ∧ sourceId.chars = cString source ∧
      bootId ≠ 0 := by
  unfold check at checked
  split at checked
  · cases checked
  · rename_i source expected
    repeat' split at checked
    · cases checked
    · cases checked
    · rename_i _ named same
      exact ⟨source, expected, same.symm, fun zero => named (Or.inr zero)⟩
    · cases checked

def ReceivedFrom (peers : PeerRegistry) (history : List EndpointEvent) (peer : PeerIndex)
    (frame : List UInt8) : Prop :=
  ∃ address, .frameReceived address frame ∈ history ∧ peers.indexForAddress address = peer

theorem receivedFrom_of_came {peers : PeerRegistry} {history : List EndpointEvent}
    {peer : PeerIndex} {message : EspNowReassembledMessage}
    (assembled : Assembled (Came peers history peer) message) :
    Assembled (ReceivedFrom peers history peer) message := by
  constructor
  · exact assembled.identity
  · exact assembled.nonempty
  · intro i inside
    obtain ⟨frame, f, came, valid, rest⟩ := assembled.fragments i inside
    rcases came with rfl | received
    · cases valid
    · exact ⟨frame, f, received, valid, rest⟩

/-- The command was put together from frames of this peer and names the peer's source. -/
structure CommandOf (config : Configuration) (history : List EndpointEvent) (peer : PeerIndex)
    (command : NetCommand) : Prop where
  frames : ∃ message, Assembled (ReceivedFrom config.peers history peer) message ∧
    message.envelope.kind = .command ∧
    EspNowCommandCodec.decode message.envelope.transactionId message.data.bytes = .ok command
  source : ∃ source, config.peerApplicationIdentity.expected peer = some source ∧
    command.sourceDeviceId.chars = cString source
  boot : command.sourceBootId ≠ 0

/-- In every run the observer is only told of commands of the peer it is told of. If the source
    is that of one peer alone, it is this peer. -/
theorem verified_commands_of_peer (config : Configuration) (random : UInt64)
    (operations : List EndpointOperation) {peer : PeerIndex} {command : NetCommand}
    (verified : .commandVerified peer command ∈ ((setup config random).run operations).history) :
    CommandOf config ((setup config random).run operations).history peer command ∧
      ∀ owner source, (∀ other expected,
          config.peerApplicationIdentity.expected other = some expected →
          cString expected = cString source → other = owner) →
        command.sourceDeviceId.chars = cString source → peer = owner := by
  have moves := run_moves (setup config random) operations
  have explained := (accounted_moves moves).explained
  obtain ⟨lane, inbound, accepted, rfl, decodes, checked⟩ := explained _ verified
  obtain ⟨ready, kind⟩ := explained _ accepted
  have traced := traced_moves moves
  obtain ⟨assembled, _⟩ := traced.inbox.ready inbound (mem_readyMessages.mpr ready)
  rw [traced.peers] at assembled
  obtain ⟨expected, configured, same, boot⟩ :=
    PeerApplicationIdentity.matched_of_check checked
  constructor
  · constructor
    · exact ⟨inbound.message, receivedFrom_of_came assembled, kind, decodes⟩
    · exact ⟨expected, configured, same⟩
    · exact boot
  · intro owner source alone named
    exact alone inbound.peerIndex expected configured (same.symm.trans named)

def namedConfiguration : Configuration where
  build := { identityObservation := true }
  observeApplicationIdentity := true
  verifiedCommandObserver := true
  peerApplicationIdentity :=
    { expected := fun peer => if peer = 0 then some [112, 97, 110] else none }
  peers := samplePeers

def namedCommand : NetCommand :=
  { sampleCommand with sourceDeviceId := (BoundedText.assign [112, 97, 110]).2, sourceBootId := 9 }

def namedDelivery : List EndpointOperation :=
  let payload := (EspNowCommandCodec.encode namedCommand).toOption.elim [] (·.bytes)
  let frame := (EspNowFrameCodec.fragmentFrame
    ⟨.command, EspNowFrameCodec.flagAckRequired, 2, 7, 1⟩ payload 0).bytes
  radioReady ++
    [.driver (.receiveCallback (nodeAddress 1) frame), .loop { nowMs := 5251 }]

theorem named_command_of_peer :
    CommandOf namedConfiguration ((setup namedConfiguration 1).run namedDelivery).history 0
      namedCommand :=
  have verified : .commandVerified 0 namedCommand ∈
      ((setup namedConfiguration 1).run namedDelivery).history := by decide +kernel
  (verified_commands_of_peer namedConfiguration 1 namedDelivery verified).1

end EspNowNet
