import EspNowNet.DispatcherRun
import EspNowNet.Library.Holdings
import EspNowNet.Notification

/- The inbound lanes of an endpoint. Each is a dispatcher like any other, and two lanes work on
   different transactions as long as no command comes in under the id of one that is still
   worked on. -/
namespace EspNowNet
open EspNowNetProtocolComponent Holdings

instance InboundLane.fintype : Fintype InboundLane :=
  ⟨{.command, .parallel, .interrupt}, by intro lane; cases lane <;> decide⟩

/-- The transaction a dispatcher has not settled yet. -/
def InboundCommandDispatcher.openTransaction (d : InboundCommandDispatcher) : Option TransactionId :=
  if d.state = .idle then none else some d.transactionId

def laneReading : EndpointEvent → Option (InboundLane × Option TransactionId)
  | .commandAccepted lane inbound => some (lane, some inbound.message.envelope.transactionId)
  | .resultTaken lane pending => if pending.terminal then some (lane, none) else none
  | _ => none

/-- The events that say nothing about a lane or its handler. -/
def EndpointEvent.OffLane : EndpointEvent → Prop
  | .commandAccepted _ _ | .commandAnswered _ _ _ | .resultStaged _ _ | .resultTaken _ _ => False
  | _ => True

theorem EndpointEvent.OffLane.silent {event : EndpointEvent} (off : event.OffLane) :
    laneReading event = none := by
  cases event <;> first | rfl | exact off.elim

/-- What a step does to the lanes. -/
inductive LaneStep (e e' : EspNowNetProtocolComponent) : Prop
  | kept (same : e'.lanes = e.lanes) {events : List EndpointEvent}
      (history : e'.history = events ++ e.history) (off : ∀ event ∈ events, event.OffLane)
  | accepted {lane : InboundLane} {inbound : EspNowInboundApplicationMessage}
      (answers : NetCommandHandlerAnswers) (nowMs : UInt32)
      (accepts : (e.lanes lane).Accepts inbound)
      (lanes : e'.lanes = Function.update e.lanes lane
        ((e.lanes lane).accept inbound answers nowMs).2)
      (history : e'.history = .commandAccepted lane inbound :: e.history)
  | answered {lane : InboundLane} {inbound : EspNowInboundApplicationMessage}
      (status : NetCommandHandlerStartStatus) (accepted : JustAccepted lane inbound e.history)
      (active : status = .started → (e.lanes lane).state = .active) (lanes : e'.lanes = e.lanes)
      (history : e'.history = .commandAnswered inbound.peerIndex
        inbound.message.envelope.transactionId status :: e.history)
  | looped (lane : InboundLane) (answers : NetCommandHandlerAnswers) (nowMs : UInt32)
      (lanes : e'.lanes = Function.update e.lanes lane ((e.lanes lane).loop answers nowMs))
      (still : (e.lanes lane).state = .active →
        ((e.lanes lane).loop answers nowMs).state ≠ .resultReady)
      (history : e'.history = e.history)
  | staged (lane : InboundLane) (answers : NetCommandHandlerAnswers) (nowMs : UInt32)
      (active : (e.lanes lane).state = .active)
      (lanes : e'.lanes = Function.update e.lanes lane ((e.lanes lane).loop answers nowMs))
      (history : e'.history =
        .resultStaged lane ((e.lanes lane).handedOn answers nowMs) :: e.history)
  | taken {lane : InboundLane} {pending : PendingNetResult} {dispatcher : InboundCommandDispatcher}
      (run : (e.lanes lane).takeResult = (some pending, dispatcher))
      (lanes : e'.lanes = Function.update e.lanes lane dispatcher)
      (history : e'.history = .resultTaken lane pending :: e.history)

variable {e e' : EspNowNetProtocolComponent}

theorem LaneStep.silent (same : e'.lanes = e.lanes) (history : e'.history = e.history) :
    LaneStep e e' :=
  .kept same (history.trans (List.nil_append _).symm) (fun _ member => nomatch member)

theorem LaneStep.noted (same : e'.lanes = e.lanes) {event : EndpointEvent}
    (history : e'.history = event :: e.history) (off : event.OffLane) : LaneStep e e' :=
  .kept same (history.trans List.singleton_append.symm) (by simpa using off)

theorem LaneStep.notedTwice (same : e'.lanes = e.lanes) {later earlier : EndpointEvent}
    (history : e'.history = later :: earlier :: e.history) (laterOff : later.OffLane)
    (earlierOff : earlier.OffLane) : LaneStep e e' := by
  have both : e'.history = [later, earlier] ++ e.history := history
  exact .kept same both (by simp [laterOff, earlierOff])

theorem LaneStep.finish (e : EspNowNetProtocolComponent) (result : NetResult) (slot : Fin 2) :
    LaneStep e (e.finishCommandClient result slot) := by
  obtain ⟨notification, same⟩ := finishCommandClient_eq e result slot
  rw [same]
  exact .noted rfl rfl trivial

theorem LaneStep.loopLane (e : EspNowNetProtocolComponent) (lane : InboundLane)
    (answers : NetCommandHandlerAnswers) (nowMs : UInt32) :
    LaneStep e (e.loopLane lane answers nowMs) := by
  unfold EspNowNetProtocolComponent.loopLane
  simp only
  split
  · rename_i stages
    exact .staged lane answers nowMs stages.1 rfl rfl
  · rename_i stages
    exact .looped lane answers nowMs rfl (fun active ready => stages ⟨active, ready⟩) rfl

theorem step_lanes (step : EndpointStep e e') : LaneStep e e' := by
  cases step with
  | bookkeeping kept =>
    cases kept with
    | heartbeat | completionTaken | mailboxTaken | mailboxFilled => exact .silent rfl rfl
    | declarativeId | commandVerified | unsolicitedDelivered => exact .noted rfl rfl trivial
    | commandAnswered status accepted active => exact .answered status accepted active rfl rfl
    | laneLooped lane answers nowMs => exact .loopLane e lane answers nowMs
    | resultTaken taken => exact .taken taken rfl rfl
  | messageTaken taken consumption =>
    cases consumption with
    | commandAccepted answers nowMs accepts => exact .accepted answers nowMs accepts rfl rfl
    | resultRouted => exact .noted rfl rfl trivial
    | dropped => exact .silent rfl rfl
  | startRefused | enabled | radioPolled | recoveryRequested | completionIgnored
    | heartbeatReceived | frameAccepted | senderLooped | senderReleased
    | ackDropped | frameRefused | delivered => exact .silent rfl rfl
  | started | senderReset | discarded | completionReleases | messageReady | ackSent | frameSent
    | heartbeatSent | externalDeadline => exact .noted rfl rfl trivial
  | commandStarted | completionDelivered => exact .notedTwice rfl rfl trivial trivial
  | cancelled slot busy =>
    rw [cancelSlot_eq e slot]
    exact .noted rfl rfl trivial
  | disabled enabled =>
    obtain ⟨events, history, off⟩ := disableRuntime_events e EndpointEvent.OffLane trivial
      (fun _ _ _ _ => trivial) (fun _ => trivial) trivial
    obtain ⟨_, _, _, _, _, _, same, _⟩ := disableRuntime_eq e
    exact .kept (by rw [same]; rfl) history off
  | driver event => cases event <;> exact .noted rfl rfl trivial
  | @ackReceived received radio runtime ack taken run handed =>
    obtain ⟨outcome, settled, same⟩ := acceptDeliveryAck_eq
      { e with radio, runtime := { runtime with deliveryAck := none } } received.peerIndex ack
    rw [same]
    rcases settled with rfl | rfl | rfl
    · exact .noted rfl rfl trivial
    · exact .notedTwice rfl rfl trivial trivial
    · exact .notedTwice rfl rfl trivial trivial
  | progressQueued peer progress =>
    obtain ⟨notification, same⟩ := queueCommandResultNotification_eq e peer _
    rw [same]
    exact .silent rfl rfl
  | finished slot waiting terminal => exact .finish e _ slot
  | deliveryFailed message nowMs owned ended =>
    unfold failCommandClient
    obtain ⟨notification, same⟩ := finishCommandClient_eq e.releaseSender _ e.commandSenderSlot
    rw [same]
    exact .noted rfl rfl trivial

theorem move_lanes (move : EndpointMove e e') : LaneStep e e' := by
  cases move with
  | step step => exact step_lanes step
  | notification step =>
    cases step with
    | cleared => exact .silent rfl rfl
    | taken | delivered => exact .noted rfl rfl trivial

/-- Every lane is a sound dispatcher, and the history knows what it works on. -/
structure LanesRead (e : EspNowNetProtocolComponent) : Prop where
  sound : ∀ lane, (e.lanes lane).Sound
  read : ∀ lane, held laneReading lane e.history = (e.lanes lane).openTransaction

/-- One lane changes, and with it what the history says about it. -/
theorem LanesRead.changed (read : LanesRead e) {lane : InboundLane}
    {dispatcher : InboundCommandDispatcher}
    (lanes : e'.lanes = Function.update e.lanes lane dispatcher) (sound : dispatcher.Sound)
    (holds : held laneReading lane e'.history = dispatcher.openTransaction)
    (others : ∀ other, other ≠ lane →
      held laneReading other e'.history = held laneReading other e.history) : LanesRead e' := by
  constructor
  · intro other
    rw [lanes]
    by_cases here : other = lane
    · subst here
      rwa [Function.update_self]
    · rw [Function.update_of_ne here]
      exact read.sound other
  · intro other
    rw [lanes]
    by_cases here : other = lane
    · subst here
      rw [Function.update_self, holds]
    · rw [Function.update_of_ne here, others other here, read.read other]

theorem loop_openTransaction {d : InboundCommandDispatcher} (sound : d.Sound)
    (answers : NetCommandHandlerAnswers) (nowMs : UInt32) :
    (d.loop answers nowMs).openTransaction = d.openTransaction := by
  by_cases active : d.state = .active
  · have busy : d.state ≠ .idle := by simp [active]
    have staged (sent : NetResult) (payload : BoundedBytes 640) :
        (d.staged sent payload).openTransaction = d.openTransaction := by
      simp [InboundCommandDispatcher.openTransaction, InboundCommandDispatcher.staged, busy]
    rcases InboundCommandDispatcher.loop_cases (sound.identified busy) answers nowMs active with
      ⟨_, _, same⟩ | ⟨_, _, result, payload, _, _, _, same⟩ | ⟨_, sent, payload, _, _, same⟩
    · rw [same]
    · rw [same, staged]
    · rw [same, staged]
  · rw [InboundCommandDispatcher.loop_of_not_active active]

theorem accept_openTransaction {d : InboundCommandDispatcher}
    {inbound : EspNowInboundApplicationMessage} (accepts : d.Accepts inbound)
    (answers : NetCommandHandlerAnswers) (nowMs : UInt32) :
    (d.accept inbound answers nowMs).2.openTransaction =
      some inbound.message.envelope.transactionId := by
  rcases d.accept_cases inbound answers nowMs with
    ⟨refused, _⟩ | ⟨_, command, ⟨_, _, same⟩ | ⟨_, sent, payload, _, _, same⟩⟩
  · exact absurd accepts refused
  · rw [same]
    rfl
  · rw [same]
    rfl

theorem LanesRead.step (read : LanesRead e) (step : LaneStep e e') : LanesRead e' := by
  cases step with
  | kept same history off =>
    have silent := fun event member => (off event member).silent
    constructor
    · intro lane
      rw [same]
      exact read.sound lane
    · intro lane
      rw [history, held_append_silent silent, same, read.read]
  | @accepted lane inbound answers nowMs accepts lanes history =>
    have opens : laneReading (.commandAccepted lane inbound) =
        some (lane, some inbound.message.envelope.transactionId) := rfl
    refine read.changed lanes ((read.sound lane).accept inbound answers nowMs) ?_ ?_
    · rw [history, held_cons opens, if_pos rfl, accept_openTransaction accepts]
    · intro other there
      rw [history, held_cons opens, if_neg there.symm]
  | answered status accepted active lanes history =>
    constructor
    · rw [lanes]
      exact read.sound
    · intro lane
      rw [history, lanes, ← read.read]
      rfl
  | looped lane answers nowMs lanes still history =>
    refine read.changed lanes ((read.sound lane).loop answers nowMs) ?_ ?_
    · rw [history, read.read, loop_openTransaction (read.sound lane)]
    · intro other _
      rw [history]
  | staged lane answers nowMs active lanes history =>
    have silent (other : InboundLane) :
        held laneReading other e'.history = held laneReading other e.history := by
      rw [history]
      rfl
    refine read.changed lanes ((read.sound lane).loop answers nowMs) ?_ (fun other _ => silent other)
    rw [silent, read.read, loop_openTransaction (read.sound lane)]
  | @taken lane pending dispatcher run lanes history =>
    have sound := (read.sound lane).takeResult
    rw [run] at sound
    obtain ⟨ready, rfl, ⟨last, rfl⟩ | ⟨onward, rfl⟩⟩ :=
      InboundCommandDispatcher.takeResult_some run
    · have settles : laneReading (.resultTaken lane (e.lanes lane).pending) =
          some (lane, none) := if_pos last
      refine read.changed lanes sound ?_ ?_
      · rw [history, held_cons settles, if_pos rfl]
        rfl
      · intro other there
        rw [history, held_cons settles, if_neg there.symm]
    · have silent : laneReading (.resultTaken lane (e.lanes lane).pending) = none :=
        if_neg (by simp [onward])
      have kept (other : InboundLane) :
          held laneReading other e'.history = held laneReading other e.history := by
        rw [history]
        exact held_append_silent (List.forall_mem_singleton.mpr silent) other e.history
      refine read.changed lanes sound ?_ (fun other _ => kept other)
      rw [kept, read.read]
      simp [InboundCommandDispatcher.openTransaction, ready]

theorem lanesRead_moves {config : Configuration} {random : UInt64}
    (moves : EndpointMoves (setup config random) e) : LanesRead e := by
  refine GuardedInvariant.preserved LanesRead ?_ moves ⟨fun _ => .of_idle rfl, fun _ => rfl⟩
  exact fun read move => read.step (move_lanes move)

/-- In a run that accepts no command under the id of one that another lane still works on, the
    lanes that are not idle hold different transactions in every state. -/
theorem lane_transactions_distinct (config : Configuration) (random : UInt64)
    (operations : List EndpointOperation)
    (afresh : GivenAfresh laneReading ((setup config random).run operations).history)
    (lane other : InboundLane) (different : lane ≠ other)
    (busy : (((setup config random).run operations).lanes lane).state ≠ .idle)
    (otherBusy : (((setup config random).run operations).lanes other).state ≠ .idle) :
    (((setup config random).run operations).lanes lane).transactionId ≠
      (((setup config random).run operations).lanes other).transactionId := by
  have read := (lanesRead_moves (run_moves (setup config random) operations)).read
  have holds := read lane
  have otherHolds := read other
  simp only [InboundCommandDispatcher.openTransaction, busy, otherBusy, ↓reduceIte]
    at holds otherHolds
  intro same
  exact held_distinct afresh different holds (same ▸ otherHolds)

/-- Two peers, an installed handler and the parallel lane. -/
def parallelConfiguration : Configuration :=
  { build := { parallelInbound := true }, parallelInbound := true, handlerInstalled := true
    peers := (samplePeers.add
      ⟨(BoundedText.assign [113]).2, nodeAddress 2, .replicate 16 0⟩).2 }

def commandPayload : List UInt8 :=
  match EspNowCommandCodec.encode sampleCommand with
  | .error _ => []
  | .ok payload => payload.bytes

/-- A command of a peer, known by the last byte of its address, which also is its boot id. -/
def peerCommand (address : UInt8) (transactionId : TransactionId) : EndpointOperation :=
  .driver (.receiveCallback (nodeAddress address) (EspNowFrameCodec.fragmentFrame
    ⟨.command, EspNowFrameCodec.flagAckRequired, address.toUInt64, transactionId, 1⟩
    commandPayload 0).bytes)

/-- One iteration in which every handler call starts the command. -/
def startingLoop (nowMs : UInt32) : EndpointOperation :=
  .loop { nowMs, receivedMs := nowMs, lanes := fun _ => { answers := { start := .started } } }

/-- Two peers send a command each. -/
def twoCommands (first second : TransactionId) : List EndpointOperation :=
  radioReady ++ [peerCommand 1 first, startingLoop 5251, .driver (.sendCallback 0 true),
    startingLoop 5252, peerCommand 2 second, startingLoop 5253]

theorem lane_transactions_distinct_under_two_ids :
    GivenAfresh laneReading ((setup parallelConfiguration 1).run (twoCommands 7 8)).history ∧
      (((setup parallelConfiguration 1).run (twoCommands 7 8)).lanes .command).state ≠ .idle ∧
      (((setup parallelConfiguration 1).run (twoCommands 7 8)).lanes .parallel).state ≠ .idle ∧
      (((setup parallelConfiguration 1).run (twoCommands 7 8)).lanes .command).transactionId ≠
        (((setup parallelConfiguration 1).run (twoCommands 7 8)).lanes .parallel).transactionId :=
  have afresh : GivenAfresh laneReading
      ((setup parallelConfiguration 1).run (twoCommands 7 8)).history := by decide +kernel
  have busy : (((setup parallelConfiguration 1).run (twoCommands 7 8)).lanes .command).state ≠
      .idle := by decide +kernel
  have otherBusy : (((setup parallelConfiguration 1).run (twoCommands 7 8)).lanes .parallel).state ≠
      .idle := by decide +kernel
  ⟨afresh, busy, otherBusy, lane_transactions_distinct parallelConfiguration 1 (twoCommands 7 8)
    afresh .command .parallel (by decide) busy otherBusy⟩

/-- Two peers number their commands alike, and both lanes work on the same transaction. -/
theorem two_lanes_share_id :
    ¬ ∀ (config : Configuration) (random : UInt64) (operations : List EndpointOperation)
      (lane other : InboundLane), lane ≠ other →
      (((setup config random).run operations).lanes lane).state ≠ .idle →
      (((setup config random).run operations).lanes other).state ≠ .idle →
        (((setup config random).run operations).lanes lane).transactionId ≠
          (((setup config random).run operations).lanes other).transactionId := by
  intro always
  have distinct := always parallelConfiguration 1 (twoCommands 7 7) .command .parallel (by decide)
    (by decide +kernel) (by decide +kernel)
  exact absurd distinct (by decide +kernel)

end EspNowNet
