import EspNowNet.AttemptOrder
import EspNowNet.DeliverySettlement
import EspNowNet.HeartbeatTrace
import EspNowNet.Network

/- Messages of several fragments. Every iteration of an endpoint rewinds its sender before it takes
   a frame, so that an endpoint only ever sends first fragments, and a longer message is never
   complete at its receiver. -/
namespace EspNowNet
open EspNowNetProtocolComponent EspNowFrameCodec ReliableMessageSender Relation

/-- Every fragment that was sent is the first of its message. -/
def SendsFirst (history : List EndpointEvent) : Prop :=
  ∀ peer data, .frameSent peer data ∈ history →
    ∀ f, EspNowFrameReassembler.validate data = .ok f → f.fragmentIndex = 0

theorem SendsFirst.unsent {history events : List EndpointEvent} (first : SendsFirst history)
    (unsent : ∀ event ∈ events, event.Unsent) : SendsFirst (events ++ history) := by
  intro peer data member
  exact first peer data ((List.mem_append.mp member).resolve_left fun new => unsent _ new)

theorem SendsFirst.sent {history : List EndpointEvent} (first : SendsFirst history)
    {peer : PeerIndex} {data : List UInt8}
    (own : ∀ f, EspNowFrameReassembler.validate data = .ok f → f.fragmentIndex = 0) :
    SendsFirst (.frameSent peer data :: history) := by
  intro other sent member
  rcases List.mem_cons.mp member with new | old
  · obtain ⟨rfl, rfl⟩ := EndpointEvent.frameSent.inj new
    exact own
  · exact first other sent old

/-- A first fragment is read as one. -/
theorem fragmentFrame_first {envelope : EspNowFrameEnvelope} {message : List UInt8}
    (valid : envelope.identity.Valid) (inside : 0 < fragmentCount message.length)
    {f : FragmentFrame}
    (read : EspNowFrameReassembler.validate (fragmentFrame envelope message 0).bytes = .ok f) :
    f.fragmentIndex = 0 := by
  rw [validate_fragmentFrame valid inside] at read
  exact (Except.ok.inj read) ▸ rfl

/-- A heartbeat packet is too short for a fragment. -/
theorem packet_unread (packet : HeartbeatPacket) (f : FragmentFrame) :
    EspNowFrameReassembler.validate packet.encode ≠ .ok f := by
  have short : packet.encode.length < headerSize := by
    simp [HeartbeatPacket.encode, HeartbeatPacket.littleEndian, HeartbeatPacket.magic, headerSize]
  unfold EspNowFrameReassembler.validate
  rw [if_pos (Or.inl short)]
  simp

/- The sender between two frames -/

theorem loop_rewinds {s : ReliableMessageSender} (coupled : s.Coupled) (nowMs : UInt32) :
    ¬ BetweenFragments (s.loop nowMs) := by
  rintro ⟨ready, further⟩
  by_cases before : s.state = .ready
  · rw [loop_of_ready coupled before] at further
    exact further rfl
  · rcases ReliableMessageSender.loop_cases coupled nowMs with
      same | ⟨own, _⟩ | ⟨_, _, next⟩ | ⟨_, next⟩
    · rw [same] at ready
      exact before ready
    · exact before own
    · rw [next] at further
      exact further rfl
    · rw [next] at ready
      cases ready

theorem start_rewound {s : ReliableMessageSender} (rewound : ¬ BetweenFragments s)
    (peer : PeerIndex) (kind : EspNowFrameKind) (transactionId : TransactionId)
    (data : Option (List UInt8)) :
    ¬ BetweenFragments (s.start peer kind transactionId data).2 := by
  unfold start
  split
  · exact rewound
  · split
    · exact rewound
    · split
      · exact rewound
      · split
        · exact rewound
        · simp only
          split
          · exact fun between => between.2 rfl
          · exact fun between => between.2 rfl

variable {e e' : EspNowNetProtocolComponent}

/-- Quiet steps may start a message or reset the sender, but do not take it further. -/
theorem QuietSteps.rewound (steps : QuietSteps e e') (rewound : ¬ BetweenFragments e.sender) :
    ¬ BetweenFragments e'.sender := by
  induction steps with
  | refl => exact rewound
  | tail _ step ih =>
    cases step with
    | noted sender => exact sender ▸ ih
    | @refused peer kind transactionId data sender run same =>
      rw [same]
      have started := start_rewound ih peer kind transactionId data
      rw [run] at started
      exact started
    | @started peer kind transactionId data sender run same =>
      rw [same]
      have started := start_rewound ih peer kind transactionId data
      rw [run] at started
      exact started
    | reset sender =>
      rw [sender]
      exact fun between => between.2 rfl

/- The frames of an iteration -/

theorem processReceivedFrame_unsent (e : EspNowNetProtocolComponent) (receivedMs : UInt32) :
    ∃ events, (e.processReceivedFrame receivedMs).history = events ++ e.history ∧
      ∀ event ∈ events, event.Unsent := by
  unfold processReceivedFrame
  split
  · exact ⟨[], rfl, by simp⟩
  · rename_i received radio _
    have accepted := (acceptProtocolFrame_aside { e with radio } received).history
    simp only
    split
    · split
      · exact ⟨[], rfl, by simp⟩
      · exact accepted
    · exact accepted

theorem sendsFirst_dispatchApplicationAck (first : SendsFirst e.history) (accepted : Bool) :
    SendsFirst (e.dispatchApplicationAck accepted).history ∧
      (e.dispatchApplicationAck accepted).sender = e.sender := by
  unfold dispatchApplicationAck
  split
  · exact ⟨first, rfl⟩
  · split
    · exact ⟨first, rfl⟩
    · rename_i pending runtime _
      simp only
      split
      · exact ⟨first, rfl⟩
      · split
        · exact ⟨first, rfl⟩
        · rename_i encodes
          obtain ⟨valid, inside, rfl⟩ := (encodeFragment_ok_iff _ _ _ _).mp encodes
          rcases transmit_cases { e with runtime, ackSequence := nextSequence e.ackSequence } .ack
              pending.peerIndex _ accepted with same | ⟨radio, _, same⟩
          · rw [same]
            exact ⟨first, rfl⟩
          · rw [same]
            exact ⟨first.sent fun f read => fragmentFrame_first valid inside read, rfl⟩

/-- A rewound sender hands out the first fragment. -/
theorem takeFrame_first {s t : ReliableMessageSender} (coupled : s.Coupled)
    (rewound : ¬ BetweenFragments s) {peer : PeerIndex} {frame : EspNowRadioFrame}
    (taken : s.takeFrame = (some (peer, frame), t)) {f : FragmentFrame}
    (read : EspNowFrameReassembler.validate frame.bytes = .ok f) : f.fragmentIndex = 0 := by
  rcases takeFrame_cases coupled with ⟨_, same⟩ | ⟨ready, _, same⟩
  · rw [taken] at same
    cases same
  · have start : s.fragmentIndex = 0 := by
      by_contra further
      exact rewound ⟨ready, further⟩
    have loaded := coupled.loaded (coupled.state_ne_idle (by simp [ready]))
    have nonempty : 0 < fragmentCount s.message.bytes.length := by
      have counted := loaded.nonempty
      rwa [loaded.count] at counted
    rw [taken, start] at same
    obtain ⟨_, rfl⟩ := Prod.mk.inj (Option.some.inj (Prod.mk.inj same).1)
    exact fragmentFrame_first loaded.identity nonempty read

theorem sendsFirst_dispatchSenderFrame (first : SendsFirst e.history) (coupled : e.sender.Coupled)
    (rewound : ¬ BetweenFragments e.sender) (nowMs : UInt32) (accepted : Bool) :
    SendsFirst (e.dispatchSenderFrame nowMs accepted).history := by
  unfold dispatchSenderFrame
  split
  · exact first
  · split
    · exact first
    · rename_i peer frame sender taken
      rcases transmit_cases { e with sender } .sender peer frame.bytes accepted with
        refused | ⟨radio, _, sent⟩
      · rw [refused]
        exact first
      · rw [sent]
        exact first.sent fun f read => takeFrame_first coupled rewound taken read

theorem sendsFirst_dispatchHeartbeat (first : SendsFirst e.history) (nowMs : UInt32)
    (accepted : Bool) : SendsFirst (e.dispatchHeartbeat nowMs accepted).history := by
  unfold dispatchHeartbeat
  split
  · exact first
  · split
    · exact first
    · rename_i packet heartbeat _
      rcases transmit_cases { e with heartbeat } .heartbeat e.heartbeat.peer packet.encode accepted
        with same | ⟨radio, _, same⟩
      · rw [same]
        exact first
      · rw [same]
        exact first.sent fun f read => absurd read (packet_unread packet f)

/-- The endpoint has come here by its own steps and has sent only first fragments. -/
structure SentFirst (config : Configuration) (random : UInt64) (e : EspNowNetProtocolComponent) :
    Prop where
  moves : EndpointMoves (setup config random) e
  first : SendsFirst e.history

section Run
variable {config : Configuration} {random : UInt64}

theorem SentFirst.unsent (sent : SentFirst config random e) (moves : EndpointMoves e e')
    (unsent : ∃ events, e'.history = events ++ e.history ∧ ∀ event ∈ events, event.Unsent) :
    SentFirst config random e' := by
  obtain ⟨events, history, each⟩ := unsent
  exact ⟨sent.moves.trans moves, history ▸ sent.first.unsent each⟩

theorem SentFirst.driven (sent : SentFirst config random e) (events : List DriverEvent) :
    SentFirst config random (e.driverEvents events) :=
  sent.unsent (driverEvents_steps e events).moves (driverEvents_quiet e events).aside.history

/-- The phases up to the one that rewinds the sender. -/
theorem SentFirst.early (env : EndpointEnvironment)
    {phase : EspNowNetProtocolComponent → EspNowNetProtocolComponent}
    (member : phase ∈ (phases env).take 9) (sent : SentFirst config random e) :
    SentFirst config random (phase e) := by
  have inTail := List.mem_of_mem_take member
  simp only [phases, List.take_succ_cons, List.take_zero, List.mem_cons, List.not_mem_nil,
    or_false] at member
  rcases member with rfl | later
  · exact sent.unsent (dispatchCommandResultNotification_moves e env)
      (dispatchCommandResultNotification_quiet e env).aside.history
  replace inTail : phase ∈ (phases env).tail := by
    simp only [phases, List.tail_cons, List.mem_cons]
    tauto
  have moves := (laterPhases_steps env phase inTail e).moves
  apply sent.unsent moves
  rcases later with rfl | rfl | rfl | rfl | rfl | rfl | rfl | rfl
  · exact (processSendCompletion_aside e _).history
  · exact processReceivedFrame_unsent e _
  · exact (processApplicationMessage_quiet e env).aside.history
  · exact (checkResultDeadline_quiet e _ 0).aside.history
  · simp only
    split
    · exact (checkResultDeadline_quiet e _ 1).aside.history
    · exact ⟨[], rfl, by simp⟩
  · exact (dispatcherLoop_quiet e env _).aside.history
  · exact (dispatcherLoop_quiet e env _).aside.history
  · exact (dispatcherLoop_quiet e env _).aside.history

/-- An endpoint whose sender is not between two fragments, as a frame is about to be taken. -/
structure Rewound (config : Configuration) (random : UInt64) (e : EspNowNetProtocolComponent) :
    Prop extends SentFirst config random e where
  rewound : ¬ BetweenFragments e.sender

theorem Rewound.driven (rests : Rewound config random e) (events : List DriverEvent) :
    Rewound config random (e.driverEvents events) :=
  ⟨rests.toSentFirst.driven events, (driverEvents_quiet e events).rewound rests.rewound⟩

/-- The phases between the rewinding and the taking of a frame. -/
theorem Rewound.late (env : EndpointEnvironment)
    {phase : EspNowNetProtocolComponent → EspNowNetProtocolComponent}
    (member : phase ∈ [(·.processOwnedSenderCompletion env), (·.processDispatcher),
      (·.dispatchApplicationAck env.ackAccepted)]) (rests : Rewound config random e) :
    Rewound config random (phase e) := by
  simp only [List.mem_cons, List.not_mem_nil, or_false] at member
  rcases member with rfl | rfl | rfl
  · have quiet := processOwnedSenderCompletion_quiet e env
    exact ⟨rests.toSentFirst.unsent (processOwnedSenderCompletion_steps e env).moves
      quiet.aside.history, quiet.rewound rests.rewound⟩
  · have quiet := processDispatcher_quiet e
    exact ⟨rests.toSentFirst.unsent (processDispatcher_steps e).moves quiet.aside.history,
      quiet.rewound rests.rewound⟩
  · obtain ⟨first, same⟩ := sendsFirst_dispatchApplicationAck rests.first env.ackAccepted
    refine ⟨⟨rests.moves.trans (dispatchApplicationAck_steps e _).moves, first⟩, ?_⟩
    simp only
    rw [same]
    exact rests.rewound

theorem SentFirst.iteration (sent : SentFirst config random e) (env : EndpointEnvironment) :
    SendsFirst (runPhases env e (phases env)).history := by
  -- up to the phase that rewinds the sender
  obtain ⟨looping, before, toLoop⟩ := runPhases_reach env (SentFirst config random)
    (fun e events sent => sent.driven events)
    (·.senderLoop env.nowMs) ((phases env).take 9) ((phases env).drop 10)
    (fun phase member e sent => sent.early env member) sent
  have coupled := (coherent_moves before.moves).coupled
  have rewound : Rewound config random (looping.senderLoop env.nowMs) :=
    ⟨⟨before.moves.tail (.step (.senderLooped looping env.nowMs)), before.first⟩,
      loop_rewinds coupled env.nowMs⟩
  -- and from there up to the taking of a frame
  obtain ⟨taking, rests, toTake⟩ := runPhases_reach env (Rewound config random)
    (fun e events rests => rests.driven events)
    (·.dispatchSenderFrame env.nowMs env.senderAccepted)
    [(·.processOwnedSenderCompletion env), (·.processDispatcher),
      (·.dispatchApplicationAck env.ackAccepted)]
    [(·.dispatchHeartbeat env.nowMs env.heartbeatAccepted)]
    (fun phase member e rests => rests.late env member) rewound
  have taken : SentFirst config random
      (taking.dispatchSenderFrame env.nowMs env.senderAccepted) := by
    refine ⟨rests.moves.trans (dispatchSenderFrame_steps taking _ _).moves, ?_⟩
    exact sendsFirst_dispatchSenderFrame rests.first (coherent_moves rests.moves).coupled
      rests.rewound _ _
  have split : phases env =
      (phases env).take 9 ++ (·.senderLoop env.nowMs) :: (phases env).drop 10 := rfl
  rw [split, toLoop]
  change SendsFirst (runPhases env _ ([(·.processOwnedSenderCompletion env), (·.processDispatcher),
    (·.dispatchApplicationAck env.ackAccepted)] ++ (·.dispatchSenderFrame env.nowMs env.senderAccepted)
      :: [(·.dispatchHeartbeat env.nowMs env.heartbeatAccepted)])).history
  rw [toTake]
  exact sendsFirst_dispatchHeartbeat (taken.driven _).first _ _

theorem SentFirst.operation (sent : SentFirst config random e) (operation : EndpointOperation) :
    SentFirst config random (operation.apply e) := by
  have moves := operation_moves e operation
  cases operation with
  | control call => exact sent.unsent moves (control_quiet e call).aside.history
  | driver event => exact sent.unsent moves (driverEvent_quiet e event).aside.history
  | loop env =>
    refine ⟨sent.moves.trans moves, ?_⟩
    have kept : (e.polled env).history = e.history := by
      unfold polled heartbeatTick
      split <;> rfl
    have polled : SentFirst config random (e.polled env) :=
      ⟨sent.moves.trans (polled_steps e env).moves, kept ▸ sent.first⟩
    simp only [EndpointOperation.apply, EspNowNetProtocolComponent.loop]
    split
    · exact polled.first
    · split
      · have discarded : HeartbeatAside (e.polled env) (e.polled env).discardRadioEvents :=
          .recorded rfl rfl trivial
        obtain ⟨events, history, unsent⟩ := discarded.history
        rw [history]
        exact polled.first.unsent unsent
      · exact polled.iteration env

theorem sentFirst_run (config : Configuration) (random : UInt64)
    (operations : List EndpointOperation) :
    SentFirst config random ((setup config random).run operations) := by
  have run (e : EspNowNetProtocolComponent) (sent : SentFirst config random e) :
      SentFirst config random (e.run operations) := by
    induction operations generalizing e with
    | nil => exact sent
    | cons operation operations ih => exact ih _ (sent.operation operation)
  refine run _ ⟨.refl, ?_⟩
  intro peer data member
  simp [setup] at member

end Run

/- What is acknowledged -/

section Acknowledged
variable {config : Configuration} {random : UInt64} {e : EspNowNetProtocolComponent}
  {peer : PeerIndex} {envelope : EspNowFrameEnvelope} {data : List UInt8}

theorem outcome_acknowledged {s : ReliableMessageSender}
    (acknowledged : s.outcome = .messageAcknowledged peer envelope data) :
    s.outbound = ⟨peer, envelope, data⟩ := by
  unfold outcome at acknowledged
  split at acknowledged
  · cases acknowledged
  · obtain ⟨rfl, rfl, rfl⟩ := EndpointEvent.messageAcknowledged.inj acknowledged
    rfl

/-- Every message that was acknowledged had been started. -/
theorem acknowledged_started (moves : EndpointMoves (setup config random) e)
    (acknowledged : .messageAcknowledged peer envelope data ∈ e.history) :
    ⟨peer, envelope, data⟩ ∈ startedMessages e.history := by
  induction moves with
  | refl => cases acknowledged
  | @tail middle last earlier move ih =>
    have grown := startedMessages_grow (move_extends middle last move).subset
    have traced := traced_moves earlier
    cases settlement_move traced.coherent.coupled traced.inbox move with
    | aside events history unsettling kept =>
      rw [history] at acknowledged
      rcases List.mem_append.mp acknowledged with new | old
      · exact absurd trivial (unsettling _ new)
      · exact grown (ih old)
    | unawaited history sender =>
      rw [history] at acknowledged
      rcases List.mem_cons.mp acknowledged with new | old
      · cases new
      · exact grown (ih old)
    | settled received ended key history =>
      rw [history] at acknowledged
      rcases List.mem_cons.mp acknowledged with new | acknowledged
      · have busy : last.sender.state ≠ .idle := by
          rcases ended with state | state <;> simp [state]
        rw [← outcome_acknowledged new.symm]
        exact (traced_moves (earlier.tail move)).outbox.busy busy
      · rcases List.mem_cons.mp acknowledged with new | old
        · cases new
        · exact grown (ih old)

/-- An ACK of its identity had come. -/
theorem acknowledged_received (moves : EndpointMoves (setup config random) e)
    (acknowledged : .messageAcknowledged peer envelope data ∈ e.history) :
    AckReceived config.peers e.history envelope.identity := by
  obtain ⟨later, earlier, whole⟩ := List.append_of_mem acknowledged
  obtain ⟨source, ack, rest, rfl, ⟨message, assembled, kind, decodes⟩, key⟩ :=
    (settlements_moves moves).noted _ earlier peer envelope rfl ⟨later, whole.symm⟩
  refine ⟨source, message, ack, assembled.mono fun _ came => came.grow ?_, kind, decodes, key⟩
  rw [whole]
  intro event member
  simp [member]

end Acknowledged

/- What arrives -/

/-- Every endpoint is between two operations, and has received only what was sent to it. -/
structure BetweenOperations {ι : Type} (d : Deployment ι) (n : Network ι) : Prop where
  runs : ∀ i, ∃ operations, n i = (d.begin i).run operations
  carried : ∀ i address data, .frameReceived address data ∈ (n i).history →
    d.Carries n i address data

section Network
variable {ι : Type} {d : Deployment ι} {n : Network ι}

theorem BetweenOperations.consistent (rests : BetweenOperations d n) : Consistent d n := by
  refine ⟨fun i => ?_, rests.carried⟩
  obtain ⟨operations, same⟩ := rests.runs i
  rw [same]
  exact run_moves _ _

/-- Behind the acknowledgment of a message is a report of it. -/
theorem Consistent.acknowledged (consistent : Consistent d n) {a : ι}
    (few : (startedMessages (n a).history).length < 2 ^ 32 - 1) {peer : PeerIndex}
    {envelope : EspNowFrameEnvelope} {data : List UInt8}
    (acknowledged : .messageAcknowledged peer envelope data ∈ (n a).history) :
    ∃ b inbound, .messageReady inbound ∈ (n b).history ∧ inbound.message.data.bytes = data := by
  have traced := consistent.traced a
  have started := acknowledged_started (consistent.runs a) acknowledged
  have received := acknowledged_received (consistent.runs a) acknowledged
  rw [← traced.peers] at received
  obtain ⟨b, known⟩ := consistent.acknowledger received
  obtain ⟨inbound, ready, identity⟩ := List.mem_map.mp known
  have boot := congrArg DeliveryIdentity.sourceBootId identity
  have sequence := congrArg DeliveryIdentity.sequence identity
  obtain ⟨message, member, same, bytes, _⟩ := consistent.origin few ready
    (boot.trans ((traced.outbox.started _ started).2.2.1.trans traced.boot))
  obtain rfl := (traced.outbox.numbered few).unique member started
    ((congrArg EspNowFrameEnvelope.sequence same).trans sequence)
  exact ⟨b, inbound, mem_readyMessages.mp ready, bytes.symm⟩

theorem BetweenOperations.sendsFirst (rests : BetweenOperations d n) (i : ι) :
    SendsFirst (n i).history := by
  obtain ⟨operations, same⟩ := rests.runs i
  rw [same]
  exact (sentFirst_run (d.config i) (d.random i) operations).first

/-- Whatever any number of endpoints have done, only first fragments have been sent, no message of
    more than one fragment has been reported by its receiver, and none has ever been acknowledged. -/
theorem long_messages_undelivered (rests : BetweenOperations d n) :
    (∀ i, SendsFirst (n i).history) ∧
    (∀ b inbound, .messageReady inbound ∈ (n b).history →
      inbound.message.data.size ≤ maxFragmentData) ∧
    ((∀ i, (startedMessages (n i).history).length < 2 ^ 32 - 1) → ∀ a peer envelope data,
      .messageAcknowledged peer envelope data ∈ (n a).history → data.length ≤ maxFragmentData) := by
  have consistent := rests.consistent
  have short : ∀ b inbound, .messageReady inbound ∈ (n b).history →
      inbound.message.data.size ≤ maxFragmentData := by
    intro b inbound reported
    obtain ⟨assembled, _⟩ :=
      (consistent.traced b).inbox.ready inbound (mem_readyMessages.mpr reported)
    by_contra long
    have small : inbound.message.data.size ≤ maxMessageSize := inbound.message.data.fits
    have several : 1 < fragmentCount inbound.message.data.size := by
      rw [fragmentCount_eq assembled.nonempty small]
      simp only [maxFragmentData] at long ⊢
      omega
    -- the second fragment came from somewhere, but only first fragments are sent
    obtain ⟨frame, f, came, valid, _, _, second, _⟩ := assembled.fragments 1 several
    rcases came with rfl | ⟨address, received, _⟩
    · simp [EspNowFrameReassembler.validate, headerSize] at valid
    · obtain ⟨j, out, sent, _⟩ := rests.carried b address frame received
      have first := rests.sendsFirst j out frame sent f valid
      omega
  refine ⟨rests.sendsFirst, short, fun few a peer envelope data acknowledged => ?_⟩
  obtain ⟨b, inbound, reported, same⟩ := consistent.acknowledged (few a) acknowledged
  have fits := short b inbound reported
  rwa [BoundedBytes.size, same] at fits

end Network

theorem sampleNetwork_rests : BetweenOperations sampleDeployment sampleNetwork := by
  refine ⟨fun i => ?_, (consistent_moves sampleNetwork_moves).carried⟩
  cases i with
  | true => exact ⟨_, rfl⟩
  | false =>
    refine ⟨(radioReady ++ startAndSend 5251) ++ [.driver (.sendCallback 0 true),
      .driver (.receiveCallback (sampleAddress true) sampleAck), .loop { nowMs := 5253 }], ?_⟩
    rw [EspNowNetProtocolComponent.run, List.foldl_append]
    rfl

theorem long_messages_undelivered_two_endpoints :
    (∀ i, SendsFirst (sampleNetwork i).history) ∧
    (∀ b inbound, .messageReady inbound ∈ (sampleNetwork b).history →
      inbound.message.data.size ≤ maxFragmentData) ∧
    ((∀ i, (startedMessages (sampleNetwork i).history).length < 2 ^ 32 - 1) →
      ∀ a peer envelope data, .messageAcknowledged peer envelope data ∈ (sampleNetwork a).history →
        data.length ≤ maxFragmentData) :=
  long_messages_undelivered sampleNetwork_rests

end EspNowNet
