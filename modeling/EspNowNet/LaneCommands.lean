import EspNowNet.EventOrigins
import EspNowNet.LaneTransactions

/- Which command a lane works on, and so which command a RESULT message answers. -/
namespace EspNowNet
open EspNowNetProtocolComponent GuardedInvariant Holdings

/-- The command a lane was last given. -/
def commandReading : EndpointEvent → Option (InboundLane × Option EspNowInboundApplicationMessage)
  | .commandAccepted lane inbound => some (lane, some inbound)
  | _ => none

/-- The command came from this peer, under this transaction. -/
structure CommandFrom (inbound : EspNowInboundApplicationMessage) (peer : PeerIndex)
    (transactionId : TransactionId) : Prop where
  peer : inbound.peerIndex = peer
  transaction : inbound.message.envelope.transactionId = transactionId

/-- A result is taken for the command its lane was last given. -/
def TakenForCommand (older : List EndpointEvent) : EndpointEvent → Prop
  | .resultTaken lane pending => ∃ inbound, held commandReading lane older = some inbound ∧
      CommandFrom inbound pending.peerIndex pending.transactionId
  | _ => True

/-- A busy lane works on the command it was last given, and so did every lane whose result
    was taken. -/
structure LanesAnswer (e : EspNowNetProtocolComponent) : Prop where
  works : ∀ lane, (e.lanes lane).state ≠ .idle → ∃ inbound,
    held commandReading lane e.history = some inbound ∧
      CommandFrom inbound (e.lanes lane).peerIndex (e.lanes lane).transactionId
  taken : Throughout TakenForCommand e.history

theorem accepted_of_held {history : List EndpointEvent} {lane : InboundLane}
    {inbound : EspNowInboundApplicationMessage}
    (holds : held commandReading lane history = some inbound) :
    .commandAccepted lane inbound ∈ history := by
  obtain ⟨given, member, reads⟩ := held_given holds
  cases given <;> simp [commandReading] at reads
  obtain ⟨rfl, rfl⟩ := reads
  exact member

variable {e e' : EspNowNetProtocolComponent}

theorem EndpointEvent.OffLane.gives_nothing {event : EndpointEvent} (off : event.OffLane) :
    commandReading event = none := by
  cases event <;> first | rfl | exact off.elim

theorem EndpointEvent.OffLane.takes_nothing {event : EndpointEvent} (off : event.OffLane)
    (older : List EndpointEvent) : TakenForCommand older event := by
  cases event <;> trivial

theorem LanesAnswer.changed (answer : LanesAnswer e) {lane : InboundLane}
    {dispatcher : InboundCommandDispatcher}
    (lanes : e'.lanes = Function.update e.lanes lane dispatcher)
    (others : ∀ other, other ≠ lane →
      held commandReading other e'.history = held commandReading other e.history)
    (works : dispatcher.state ≠ .idle → ∃ inbound,
      held commandReading lane e'.history = some inbound ∧
        CommandFrom inbound dispatcher.peerIndex dispatcher.transactionId)
    (taken : Throughout TakenForCommand e'.history) : LanesAnswer e' := by
  refine ⟨fun other busy => ?_, taken⟩
  rw [lanes] at busy ⊢
  by_cases here : other = lane
  · subst here
    rw [Function.update_self] at busy ⊢
    exact works busy
  · rw [Function.update_of_ne here] at busy ⊢
    rw [others other here]
    exact answer.works other busy

theorem loop_command {d : InboundCommandDispatcher} (sound : d.Sound)
    (answers : NetCommandHandlerAnswers) (nowMs : UInt32) :
    (d.loop answers nowMs).peerIndex = d.peerIndex ∧
      (d.loop answers nowMs).transactionId = d.transactionId ∧
        ((d.loop answers nowMs).state ≠ .idle → d.state ≠ .idle) := by
  by_cases active : d.state = .active
  · have busy : d.state ≠ .idle := by simp [active]
    rcases InboundCommandDispatcher.loop_cases (sound.identified busy) answers nowMs active with
      ⟨_, _, same⟩ | ⟨_, _, result, payload, _, _, _, same⟩ | ⟨_, sent, payload, _, _, same⟩ <;>
    · rw [same]
      exact ⟨rfl, rfl, fun _ => busy⟩
  · rw [InboundCommandDispatcher.loop_of_not_active active]
    exact ⟨rfl, rfl, id⟩

theorem accept_command {d : InboundCommandDispatcher} {inbound : EspNowInboundApplicationMessage}
    (accepts : d.Accepts inbound) (answers : NetCommandHandlerAnswers) (nowMs : UInt32) :
    CommandFrom inbound (d.accept inbound answers nowMs).2.peerIndex
      (d.accept inbound answers nowMs).2.transactionId := by
  rcases d.accept_cases inbound answers nowMs with
    ⟨refused, _⟩ | ⟨_, command, ⟨_, _, same⟩ | ⟨_, sent, payload, _, _, same⟩⟩
  · exact absurd accepts refused
  · rw [same]
    exact ⟨rfl, rfl⟩
  · rw [same]
    exact ⟨rfl, rfl⟩

theorem LanesAnswer.step (answer : LanesAnswer e) (sound : ∀ lane, (e.lanes lane).Sound)
    (step : LaneStep e e') : LanesAnswer e' := by
  cases step with
  | kept same history off =>
    constructor
    · intro lane busy
      rw [same] at busy ⊢
      rw [history, held_append_silent fun event member => (off event member).gives_nothing]
      exact answer.works lane busy
    · rw [history]
      exact answer.taken.append fun event member past => (off event member).takes_nothing past
  | @accepted lane inbound answers nowMs accepts lanes history =>
    have given : commandReading (.commandAccepted lane inbound) = some (lane, some inbound) := rfl
    apply answer.changed lanes
    · intro other there
      rw [history, held_cons given, if_neg there.symm]
    · intro _
      rw [history, held_cons given, if_pos rfl]
      exact ⟨inbound, rfl, accept_command accepts answers nowMs⟩
    · rw [history, throughout_cons]
      exact ⟨trivial, answer.taken⟩
  | answered status accepted active lanes history =>
    constructor
    · intro lane busy
      rw [lanes] at busy ⊢
      rw [history]
      exact answer.works lane busy
    · rw [history, throughout_cons]
      exact ⟨trivial, answer.taken⟩
  | looped lane answers nowMs lanes _ history =>
    obtain ⟨peer, transaction, busy⟩ := loop_command (sound lane) answers nowMs
    apply answer.changed lanes
    · intro other _
      rw [history]
    · intro still
      rw [history, peer, transaction]
      exact answer.works lane (busy still)
    · rw [history]
      exact answer.taken
  | staged lane answers nowMs active lanes history =>
    obtain ⟨peer, transaction, busy⟩ := loop_command (sound lane) answers nowMs
    apply answer.changed lanes
    · intro other _
      rw [history]
      rfl
    · intro still
      rw [history, peer, transaction]
      exact answer.works lane (busy still)
    · rw [history, throughout_cons]
      exact ⟨trivial, answer.taken⟩
  | @taken lane pending dispatcher run lanes history =>
    have silent : ∀ event ∈ [EndpointEvent.resultTaken lane pending],
        commandReading event = none := by
      intro event member
      obtain rfl := List.mem_singleton.mp member
      rfl
    have kept (other : InboundLane) :
        held commandReading other e'.history = held commandReading other e.history := by
      rw [history]
      exact held_append_silent silent other e.history
    obtain ⟨ready, rfl, next⟩ := InboundCommandDispatcher.takeResult_some run
    have onward (busy : dispatcher.state ≠ .idle) :
        dispatcher.peerIndex = (e.lanes lane).peerIndex ∧
          dispatcher.transactionId = (e.lanes lane).transactionId := by
      rcases next with ⟨_, rfl⟩ | ⟨_, rfl⟩
      · exact absurd rfl busy
      · exact ⟨rfl, rfl⟩
    obtain ⟨inbound, holds, from'⟩ := answer.works lane (by simp [ready])
    apply answer.changed lanes (fun other _ => kept other)
    · intro busy
      obtain ⟨peer, transaction⟩ := onward busy
      rw [kept, peer, transaction]
      exact ⟨inbound, holds, from'⟩
    · rw [history, throughout_cons]
      refine ⟨⟨inbound, holds, ?_⟩, answer.taken⟩
      obtain ⟨sent, payload, _, same⟩ := (sound lane).staging ready
      rw [same]
      exact from'

theorem lanesAnswer_moves {config : Configuration} {random : UInt64}
    (moves : EndpointMoves (setup config random) e) : LanesAnswer e := by
  induction moves with
  | refl => exact ⟨fun lane busy => absurd rfl busy, throughout_nil⟩
  | tail earlier last hyp => exact hyp.step (lanesRead_moves earlier).sound (move_lanes last)

/- RESULT messages that are only sent for the lanes -/

def EndpointEvent.startedResult (event : EndpointEvent) : Option OutboundMessage :=
  event.startedMessage.filter fun message => message.envelope.kind = .result

def EndpointEvent.takenResult : EndpointEvent → Option PendingNetResult
  | .resultTaken _ pending => some pending
  | _ => none

def HandsOn (message : OutboundMessage) (pending : PendingNetResult) : Prop :=
  pending.peerIndex = message.peerIndex ∧
    pending.transactionId = message.envelope.transactionId ∧ pending.payload.bytes = message.data

instance decidableHandsOn (message : OutboundMessage) (pending : PendingNetResult) :
    Decidable (HandsOn message pending) :=
  inferInstanceAs (Decidable (_ ∧ _))

/-- A RESULT message is started right after a result has been taken from a lane, and says it. -/
def StartsTaken (older : List EndpointEvent) (event : EndpointEvent) : Prop :=
  ∀ message ∈ event.startedResult,
    ∃ pending ∈ older.head?.bind EndpointEvent.takenResult, HandsOn message pending

instance decidableStartsTaken (older : List EndpointEvent) (event : EndpointEvent) :
    Decidable (StartsTaken older event) :=
  @Option.decidableForallMem _ _ (fun _ => Option.decidableExistsMem _) _

/-- The application sends no RESULT messages of its own. -/
def OnlyLaneResults (history : List EndpointEvent) : Prop := Throughout StartsTaken history

instance decidableOnlyLaneResults (history : List EndpointEvent) :
    Decidable (OnlyLaneResults history) :=
  inferInstanceAs (Decidable (Throughout StartsTaken history))

/-- The endpoint has started this RESULT message for that command. -/
def Answers (history : List EndpointEvent) (result : OutboundMessage)
    (command : EspNowInboundApplicationMessage) : Prop :=
  ∃ lane pending older, .messageStarted result.peerIndex result.envelope result.data ::
      .resultTaken lane pending :: older <:+ history ∧
    HandsOn result pending ∧ held commandReading lane older = some command

/-- Every RESULT message answers a command that was reported, of the peer it is sent to and
    under its transaction. -/
theorem answers_of_result {config : Configuration} {random : UInt64}
    (moves : EndpointMoves (setup config random) e) (only : OnlyLaneResults e.history)
    {result : OutboundMessage} (started : result ∈ startedMessages e.history)
    (kind : result.envelope.kind = .result) :
    ∃ command, Answers e.history result command ∧
      CommandFrom command result.peerIndex result.envelope.transactionId ∧
      .messageReady command ∈ e.history ∧ command.message.envelope.kind = .command := by
  obtain ⟨later, older, split⟩ := List.append_of_mem (mem_startedMessages.mp started)
  have present : .messageStarted result.peerIndex result.envelope result.data :: older <:+
      e.history := ⟨later, split.symm⟩
  have starts : EndpointEvent.startedResult
      (.messageStarted result.peerIndex result.envelope result.data) = some result := by
    simp [EndpointEvent.startedResult, EndpointEvent.startedMessage, Option.filter, kind]
  obtain ⟨pending, first, handsOn⟩ := only _ older present result starts
  obtain ⟨event, head, takes⟩ := Option.bind_eq_some_iff.mp first
  obtain ⟨rest, rfl⟩ := List.head?_eq_some_iff.mp head
  obtain ⟨lane, rfl⟩ : ∃ lane, event = .resultTaken lane pending := by
    cases event <;> simp [EndpointEvent.takenResult] at takes
    exact ⟨_, congrArg _ takes⟩
  have taken : .resultTaken lane pending :: rest <:+ e.history :=
    (List.suffix_cons _ _).trans present
  obtain ⟨command, holds, peer, transaction⟩ := (lanesAnswer_moves moves).taken _ rest taken
  refine ⟨command, ⟨lane, pending, rest, present, handsOn, holds⟩, ?_, ?_⟩
  · exact ⟨peer.trans handsOn.1, transaction.trans handsOn.2.1⟩
  · have given := ((List.suffix_cons _ _).trans taken).subset (accepted_of_held holds)
    exact (accounted_moves moves).explained _ given

end EspNowNet
