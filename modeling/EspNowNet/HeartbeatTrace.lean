import EspNowNet.Network
import EspNowNet.PayloadCodecs
import EspNowNet.QuietSteps

/- The heartbeat within the iterations of an endpoint. Four functions write it and one of them
   sends its packets; whatever else an operation does leaves it as it is or disables it. -/
namespace EspNowNet
open EspNowNetProtocolComponent Relation

/-- The event is not the sending of a heartbeat packet. -/
def EndpointEvent.Beatless : EndpointEvent → Prop
  | .frameSent _ data => HeartbeatPacket.hasMagic data = false
  | _ => True

/-- The event is not the sending of any frame. -/
def EndpointEvent.Unsent : EndpointEvent → Prop
  | .frameSent _ _ => False
  | _ => True

theorem EndpointEvent.Unsent.beatless {event : EndpointEvent} (unsent : event.Unsent) :
    event.Beatless := by
  cases event <;> trivial

/-- The heartbeat is left alone or disabled, and only such events are added as are allowed: none
    that sends a frame, or none that sends one of its packets. -/
structure HeartbeatAside (e e' : EspNowNetProtocolComponent)
    (allowed : EndpointEvent → Prop := EndpointEvent.Unsent) : Prop where
  heartbeat : e'.heartbeat = e.heartbeat ∨ e'.heartbeat = e.heartbeat.disable
  history : ∃ events, e'.history = events ++ e.history ∧ ∀ event ∈ events, allowed event

variable {e e' : EspNowNetProtocolComponent} {allowed : EndpointEvent → Prop}

theorem HeartbeatAside.kept (heartbeat : e'.heartbeat = e.heartbeat)
    (history : e'.history = e.history) : HeartbeatAside e e' allowed :=
  ⟨Or.inl heartbeat, [], history, by simp⟩

theorem HeartbeatAside.noted {events : List EndpointEvent} (heartbeat : e'.heartbeat = e.heartbeat)
    (history : e'.history = events ++ e.history) (each : ∀ event ∈ events, allowed event) :
    HeartbeatAside e e' allowed :=
  ⟨Or.inl heartbeat, events, history, each⟩

theorem HeartbeatAside.recorded {event : EndpointEvent} (heartbeat : e'.heartbeat = e.heartbeat)
    (history : e'.history = event :: e.history) (own : allowed event) :
    HeartbeatAside e e' allowed :=
  .noted heartbeat (history.trans List.singleton_append.symm) (List.forall_mem_singleton.mpr own)

theorem HeartbeatAside.recordedTwice {later earlier : EndpointEvent}
    (heartbeat : e'.heartbeat = e.heartbeat) (history : e'.history = later :: earlier :: e.history)
    (second : allowed later) (first : allowed earlier) : HeartbeatAside e e' allowed := by
  have both : e'.history = [later, earlier] ++ e.history := history
  exact .noted heartbeat both (by simp [second, first])

theorem HeartbeatAside.refl (e : EspNowNetProtocolComponent) : HeartbeatAside e e allowed :=
  .kept rfl rfl

theorem ApplicationHeartbeat.disable_disable (h : ApplicationHeartbeat) :
    h.disable.disable = h.disable := rfl

theorem HeartbeatAside.beatless (aside : HeartbeatAside e e') :
    HeartbeatAside e e' EndpointEvent.Beatless := by
  obtain ⟨events, history, unsent⟩ := aside.history
  exact ⟨aside.heartbeat, events, history, fun event member => (unsent event member).beatless⟩

theorem HeartbeatAside.trans {last : EspNowNetProtocolComponent}
    (first : HeartbeatAside e e' allowed) (second : HeartbeatAside e' last allowed) :
    HeartbeatAside e last allowed := by
  obtain ⟨older, before, earlier⟩ := first.history
  obtain ⟨newer, after, later⟩ := second.history
  refine ⟨?_, newer ++ older, by simp [after, before], fun event member => ?_⟩
  · rcases second.heartbeat with same | disabled
    · rw [same]
      exact first.heartbeat
    · right
      rcases first.heartbeat with same | off
      · rw [disabled, same]
      · rw [disabled, off, ApplicationHeartbeat.disable_disable]
  · rcases List.mem_append.mp member with new | old
    · exact later event new
    · exact earlier event old

theorem QuietStep.aside (step : QuietStep e e') : HeartbeatAside e e' := by
  have unsent {event : EndpointEvent} (quiet : event.Quiet) : event.Unsent := by
    cases event <;> trivial
  cases step with
  | noted _ heartbeat _ history quiet =>
    exact .noted heartbeat history fun event member => unsent (quiet event member)
  | refused _ same => exact same ▸ .kept rfl rfl
  | started _ same => exact same ▸ .recorded rfl rfl trivial
  | reset _ heartbeat history quiet =>
    exact ⟨heartbeat, _, history, fun event member => unsent (quiet event member)⟩

theorem QuietSteps.aside (steps : QuietSteps e e') : HeartbeatAside e e' := by
  induction steps with
  | refl => exact .refl e
  | tail _ step ih => exact ih.trans step.aside

namespace EspNowNetProtocolComponent

theorem processSendCompletion_aside (e : EspNowNetProtocolComponent) (nowMs : UInt32) :
    HeartbeatAside e (e.processSendCompletion nowMs) := by
  unfold processSendCompletion
  split
  · exact .kept rfl rfl
  · simp only
    split
    · exact .kept rfl rfl
    · split
      · exact .recordedTwice rfl rfl trivial trivial
      · exact .recorded rfl rfl trivial

theorem acceptProtocolFrame_aside (e : EspNowNetProtocolComponent) (received : EspNowReceivedFrame) :
    HeartbeatAside e (e.acceptProtocolFrame received) := by
  unfold acceptProtocolFrame
  split
  · rename_i runtime _
    split
    · rename_i ack runtime _
      obtain ⟨outcome, settled, same⟩ := acceptDeliveryAck_eq { e with runtime } received.peerIndex ack
      rw [same]
      rcases settled with rfl | rfl | rfl
      · exact .recorded rfl rfl trivial
      · exact .recordedTwice rfl rfl trivial trivial
      · exact .recordedTwice rfl rfl trivial trivial
    · exact .kept rfl rfl
  · simp only
    split
    · exact .recorded rfl rfl trivial
    · exact .kept rfl rfl
  · exact .kept rfl rfl

/- The frames of the protocol -/

/-- A fragment starts with another magic than a heartbeat packet. -/
theorem encodeFragment_magic {envelope : EspNowFrameEnvelope} {message : List UInt8} {index : Nat}
    {frame : EspNowRadioFrame}
    (encodes : EspNowFrameCodec.encodeFragment envelope message index = .ok frame) :
    HeartbeatPacket.hasMagic frame.bytes = false := by
  unfold EspNowFrameCodec.encodeFragment at encodes
  simp only at encodes
  split at encodes
  · cases encodes
  · split at encodes
    · cases encodes
    · split at encodes
      · rename_i bytes assigned
        obtain rfl := Except.ok.inj encodes
        rw [BoundedBytes.assign_true assigned]
        simp [HeartbeatPacket.hasMagic, HeartbeatPacket.magic, EspNowFrameCodec.header,
          EspNowFrameCodec.magic, BigEndian.write]
      · cases encodes

theorem transmit_aside (e : EspNowNetProtocolComponent) (owner : RadioTransmissionOwner)
    (peer : PeerIndex) {data : List UInt8} (plain : HeartbeatPacket.hasMagic data = false)
    (accepted : Bool) :
    HeartbeatAside e (e.transmit owner peer data accepted).2 EndpointEvent.Beatless := by
  rcases transmit_cases e owner peer data accepted with same | ⟨radio, _, same⟩
  · rw [same]
    exact .refl e
  · rw [same]
    exact .recorded rfl rfl plain

theorem dispatchApplicationAck_aside (e : EspNowNetProtocolComponent) (accepted : Bool) :
    HeartbeatAside e (e.dispatchApplicationAck accepted) EndpointEvent.Beatless := by
  unfold dispatchApplicationAck
  split
  · exact .refl e
  · split
    · exact .refl e
    · rename_i pending runtime _
      simp only
      split
      · exact .kept rfl rfl
      · split
        · exact .kept rfl rfl
        · rename_i encodes
          have counted : HeartbeatAside e
              { e with runtime, ackSequence := nextSequence e.ackSequence }
              EndpointEvent.Beatless := .kept rfl rfl
          exact counted.trans (transmit_aside _ _ _ (encodeFragment_magic encodes) accepted)

theorem takeFrame_magic {s t : ReliableMessageSender} {peer : PeerIndex} {frame : EspNowRadioFrame}
    (taken : s.takeFrame = (some (peer, frame), t)) :
    HeartbeatPacket.hasMagic frame.bytes = false := by
  unfold ReliableMessageSender.takeFrame at taken
  split at taken
  · cases taken
  · split at taken
    · cases taken
    · rename_i encodes
      obtain ⟨first, rfl⟩ := Prod.mk.inj taken
      obtain ⟨rfl, rfl⟩ := Prod.mk.inj (Option.some.inj first)
      exact encodeFragment_magic encodes

theorem dispatchSenderFrame_aside (e : EspNowNetProtocolComponent) (nowMs : UInt32)
    (accepted : Bool) :
    HeartbeatAside e (e.dispatchSenderFrame nowMs accepted) EndpointEvent.Beatless := by
  unfold dispatchSenderFrame
  split
  · exact .refl e
  · split
    · exact .kept rfl rfl
    · rename_i peer frame sender taken
      have moved : HeartbeatAside e { e with sender } EndpointEvent.Beatless := .kept rfl rfl
      have sent := moved.trans (transmit_aside { e with sender } .sender peer
        (takeFrame_magic taken) accepted)
      split
      · rename_i next run
        rw [run] at sent
        exact sent.trans (.kept rfl rfl)
      · rename_i next run
        rw [run] at sent
        exact sent.trans (.kept rfl rfl)

end EspNowNetProtocolComponent

/- What an endpoint does to its heartbeat -/

/-- One of the functions of the heartbeat runs, or something else does and leaves it aside. -/
inductive HeartbeatMove (e : EspNowNetProtocolComponent) : EspNowNetProtocolComponent → Prop
  | aside {e' : EspNowNetProtocolComponent} (moves : EndpointMoves e e')
      (aside : HeartbeatAside e e' EndpointEvent.Beatless) : HeartbeatMove e e'
  | ticked (nowMs : UInt32) : HeartbeatMove e (e.heartbeatTick nowMs)
  | received (receivedMs : UInt32) : HeartbeatMove e (e.processReceivedFrame receivedMs)
  | dispatched (nowMs : UInt32) (accepted : Bool) :
      HeartbeatMove e (e.dispatchHeartbeat nowMs accepted)

abbrev HeartbeatMoves := ReflTransGen HeartbeatMove

theorem HeartbeatMove.moves (move : HeartbeatMove e e') : EndpointMoves e e' := by
  cases move with
  | aside moves => exact moves
  | ticked nowMs =>
    unfold heartbeatTick
    split
    · exact .single (.step (.bookkeeping (.heartbeat _)))
    · exact .refl
  | received receivedMs => exact (processReceivedFrame_steps e receivedMs).moves
  | dispatched nowMs accepted => exact (dispatchHeartbeat_steps e nowMs accepted).moves

theorem HeartbeatMoves.moves (moves : HeartbeatMoves e e') : EndpointMoves e e' := by
  induction moves with
  | refl => exact .refl
  | tail earlier last ih => exact ih.trans last.moves

namespace EspNowNetProtocolComponent

/-- Each phase is one move. -/
theorem phase_heartbeatMove (env : EndpointEnvironment)
    (phase : EspNowNetProtocolComponent → EspNowNetProtocolComponent)
    (member : phase ∈ phases env) (e : EspNowNetProtocolComponent) :
    HeartbeatMove e (phase e) := by
  have sends (inTail : phase ∈ (phases env).tail)
      (aside : HeartbeatAside e (phase e) EndpointEvent.Beatless) :
      HeartbeatMove e (phase e) := .aside (laterPhases_steps env phase inTail e).moves aside
  have later (inTail : phase ∈ (phases env).tail) (aside : HeartbeatAside e (phase e)) :
      HeartbeatMove e (phase e) := sends inTail aside.beatless
  have inTail := member
  simp only [phases, List.mem_cons, List.not_mem_nil, or_false] at member
  rcases member with rfl | rest
  · exact .aside (dispatchCommandResultNotification_moves e env)
      (dispatchCommandResultNotification_quiet e env).aside.beatless
  replace inTail : phase ∈ (phases env).tail := by simpa [phases] using rest
  rcases rest with rfl | rfl | rfl | rfl | rfl | rfl | rfl | rfl | rfl | rfl | rfl | rfl | rfl | rfl
  · exact later inTail (processSendCompletion_aside e _)
  · exact .received _
  · exact later inTail (processApplicationMessage_quiet e env).aside
  · exact later inTail (checkResultDeadline_quiet e _ 0).aside
  · refine later inTail ?_
    simp only
    split
    · exact (checkResultDeadline_quiet e _ 1).aside
    · exact .refl e
  · exact later inTail (dispatcherLoop_quiet e env _).aside
  · exact later inTail (dispatcherLoop_quiet e env _).aside
  · exact later inTail (dispatcherLoop_quiet e env _).aside
  · exact later inTail (.kept rfl rfl)
  · exact later inTail (processOwnedSenderCompletion_quiet e env).aside
  · exact later inTail (processDispatcher_quiet e).aside
  · exact sends inTail (dispatchApplicationAck_aside e _)
  · exact sends inTail (dispatchSenderFrame_aside e _ _)
  · exact .dispatched _ _

theorem runPhases_heartbeatMoves (env : EndpointEnvironment)
    (rest : List (EspNowNetProtocolComponent → EspNowNetProtocolComponent))
    (each : ∀ phase ∈ rest, ∀ e, HeartbeatMove e (phase e)) (e : EspNowNetProtocolComponent) :
    HeartbeatMoves e (runPhases env e rest) := by
  induction rest generalizing e with
  | nil => exact .refl
  | cons phase rest ih =>
    have driven : HeartbeatMove e (e.driverEvents (env.driver rest.length)) :=
      .aside (driverEvents_steps e _).moves (driverEvents_quiet e _).aside.beatless
    exact .head driven (.head (each phase List.mem_cons_self _)
      (ih (fun other member => each other (List.mem_cons_of_mem _ member)) _))

theorem loop_heartbeatMoves (e : EspNowNetProtocolComponent) (env : EndpointEnvironment) :
    HeartbeatMoves e (e.loop env) := by
  have polled : HeartbeatMoves e (e.polled env) :=
    .head (.aside (.single (.step (.radioPolled e env))) (.kept rfl rfl))
      (.single (.ticked env.nowMs))
  unfold loop
  simp only
  split
  · exact polled
  · split
    · rename_i off
      exact polled.tail (.aside (.single (.step (.discarded _ (by simpa using off))))
        (.recorded rfl rfl trivial))
    · exact polled.trans (runPhases_heartbeatMoves env _ (phase_heartbeatMove env) _)

theorem operation_heartbeatMoves (e : EspNowNetProtocolComponent)
    (operation : EndpointOperation) : HeartbeatMoves e (operation.apply e) := by
  cases operation with
  | control call =>
    exact .single (.aside (control_steps e call).moves (control_quiet e call).aside.beatless)
  | driver event =>
    exact .single (.aside (.single (.step (.driver e event)))
      (driverEvent_quiet e event).aside.beatless)
  | loop env => exact loop_heartbeatMoves e env

theorem run_heartbeatMoves (e : EspNowNetProtocolComponent) (operations : List EndpointOperation) :
    HeartbeatMoves e (e.run operations) := by
  induction operations generalizing e with
  | nil => exact .refl
  | cons operation operations ih => exact (operation_heartbeatMoves e operation).trans (ih _)

end EspNowNetProtocolComponent

end EspNowNet
