import EspNowNet.CommandDelivery

/- The way of a result back to the client. What an observer is told about a command is what a lane
   of the peer has staged for it, and the lane had the command from the client's own node. -/
namespace EspNowNet
open EspNowNetProtocolComponent GuardedInvariant Holdings

/-- What a lane got last from its handler; a new command starts with nothing. -/
def stagedReading : EndpointEvent → Option (InboundLane × Option (Option NetResult))
  | .commandAccepted lane _ => some (lane, some none)
  | .resultStaged lane handedOn => some (lane, some handedOn)
  | _ => none

/-- The handler's result is staged as it is; where there is none, a failure that the lane makes up
    itself. -/
def StagedAs (handedOn : Option NetResult) (sent : NetResult) : Prop :=
  handedOn = some sent ∨ handedOn = none ∧ InboundCommandDispatcher.OwnFailure sent

/-- The payload says what the lane has staged last. -/
def SaysStaged (history : List EndpointEvent) (lane : InboundLane) (pending : PendingNetResult) :
    Prop :=
  ∃ handedOn sent, held stagedReading lane history = some handedOn ∧ StagedAs handedOn sent ∧
    EspNowResultCodec.encode sent = .ok pending.payload

def TakenAsStaged (older : List EndpointEvent) : EndpointEvent → Prop
  | .resultTaken lane pending => SaysStaged older lane pending
  | _ => True

/-- A lane that has a result ready has staged it last, and so had every lane whose result was
    taken. -/
structure LanesStage (e : EspNowNetProtocolComponent) : Prop where
  ready : ∀ lane, (e.lanes lane).state = .resultReady →
    SaysStaged e.history lane (e.lanes lane).pending
  taken : Throughout TakenAsStaged e.history

section Lanes
variable {e e' : EspNowNetProtocolComponent}

theorem EndpointEvent.OffLane.stages_nothing {event : EndpointEvent} (off : event.OffLane) :
    stagedReading event = none := by
  cases event <;> first | rfl | exact off.elim

theorem EndpointEvent.OffLane.takenAsStaged {event : EndpointEvent} (off : event.OffLane)
    (older : List EndpointEvent) : TakenAsStaged older event := by
  cases event <;> trivial

theorem SaysStaged.held {older newer : List EndpointEvent} {lane : InboundLane}
    {pending : PendingNetResult} (told : SaysStaged older lane pending)
    (same : held stagedReading lane newer = held stagedReading lane older) :
    SaysStaged newer lane pending := by
  obtain ⟨handedOn, sent, holds, rest⟩ := told
  exact ⟨handedOn, sent, same.trans holds, rest⟩

/-- What an active lane stages is what it hands on of its handler's answer. -/
theorem loop_staged {d : InboundCommandDispatcher} (sound : d.Sound)
    {answers : NetCommandHandlerAnswers} {nowMs : UInt32} (active : d.state = .active)
    (ready : (d.loop answers nowMs).state = .resultReady) :
    ∃ sent, StagedAs (d.handedOn answers nowMs) sent ∧
      EspNowResultCodec.encode sent = .ok (d.loop answers nowMs).pending.payload := by
  have busy : d.state ≠ .idle := by simp [active]
  rcases InboundCommandDispatcher.loop_cases (sound.identified busy) answers nowMs active with
    ⟨_, _, same⟩ | ⟨timely, _, result, payload, answered, own, encodes, same⟩ |
    ⟨failed, sent, payload, encodes, own, same⟩
  · rw [same, active] at ready
    cases ready
  · refine ⟨result, Or.inl ?_, same ▸ encodes⟩
    have early : ¬ nowMs - d.startedMs ≥ d.command.timeoutMs := timely
    unfold InboundCommandDispatcher.handedOn
    rw [if_neg early, answered]
    simp [Option.filter, own, encodes, Except.isOk, Except.toBool]
  · refine ⟨sent, Or.inr ⟨?_, own⟩, same ▸ encodes⟩
    unfold InboundCommandDispatcher.handedOn
    rcases failed with overdue | ⟨_, unfit⟩
    · exact if_pos overdue
    · split
      · rfl
      · rw [Option.filter_eq_none_iff]
        intro result answered fits
        obtain ⟨own, encoded⟩ := of_decide_eq_true fits
        refine unfit ?_
        cases encodes' : EspNowResultCodec.encode result with
        | error _ => simp [encodes', Except.isOk, Except.toBool] at encoded
        | ok payload => exact ⟨result, payload, answered, own, encodes'⟩

theorem accept_staged {d : InboundCommandDispatcher} {inbound : EspNowInboundApplicationMessage}
    (accepts : d.Accepts inbound) {answers : NetCommandHandlerAnswers} {nowMs : UInt32}
    (ready : (d.accept inbound answers nowMs).2.state = .resultReady) :
    ∃ sent, InboundCommandDispatcher.OwnFailure sent ∧ EspNowResultCodec.encode sent =
      .ok (d.accept inbound answers nowMs).2.pending.payload := by
  rcases d.accept_cases inbound answers nowMs with
    ⟨refused, _⟩ | ⟨_, command, ⟨_, _, same⟩ | ⟨_, sent, payload, encodes, own, same⟩⟩
  · exact absurd accepts refused
  · rw [same] at ready
    cases ready
  · exact ⟨sent, own, same ▸ encodes⟩

/-- One lane changes; the others keep what they have staged. -/
theorem LanesStage.changed (stage : LanesStage e) {lane : InboundLane}
    {dispatcher : InboundCommandDispatcher}
    (lanes : e'.lanes = Function.update e.lanes lane dispatcher)
    (others : ∀ other, other ≠ lane →
      held stagedReading other e'.history = held stagedReading other e.history)
    (ready : dispatcher.state = .resultReady → SaysStaged e'.history lane dispatcher.pending)
    (taken : Throughout TakenAsStaged e'.history) : LanesStage e' := by
  refine ⟨fun other waits => ?_, taken⟩
  rw [lanes] at waits ⊢
  by_cases here : other = lane
  · subst here
    rw [Function.update_self] at waits ⊢
    exact ready waits
  · rw [Function.update_of_ne here] at waits ⊢
    exact (stage.ready other waits).held (others other here)

theorem LanesStage.step (stage : LanesStage e) (sound : ∀ lane, (e.lanes lane).Sound)
    (step : LaneStep e e') : LanesStage e' := by
  cases step with
  | kept same history off =>
    constructor
    · intro lane ready
      rw [same] at ready ⊢
      rw [history]
      apply (stage.ready lane ready).held
      exact held_append_silent (fun event member => (off event member).stages_nothing) lane _
    · rw [history]
      exact stage.taken.append fun event member past => (off event member).takenAsStaged past
  | @accepted lane inbound answers nowMs accepts lanes history =>
    have starts : stagedReading (.commandAccepted lane inbound) = some (lane, some none) := rfl
    apply stage.changed lanes
    · intro other there
      rw [history, held_cons starts, if_neg there.symm]
    · intro ready
      obtain ⟨sent, own, encodes⟩ := accept_staged accepts ready
      refine ⟨none, sent, ?_, Or.inr ⟨rfl, own⟩, encodes⟩
      rw [history, held_cons starts, if_pos rfl]
    · rw [history, throughout_cons]
      exact ⟨trivial, stage.taken⟩
  | answered status accepted active lanes history =>
    constructor
    · intro lane ready
      rw [lanes] at ready ⊢
      apply (stage.ready lane ready).held
      rw [history]
      rfl
    · rw [history, throughout_cons]
      exact ⟨trivial, stage.taken⟩
  | looped lane answers nowMs lanes still history =>
    apply stage.changed lanes
    · intro other _
      rw [history]
    · intro ready
      by_cases active : (e.lanes lane).state = .active
      · exact absurd ready (still active)
      · rw [InboundCommandDispatcher.loop_of_not_active active] at ready ⊢
        rw [history]
        exact stage.ready lane ready
    · rw [history]
      exact stage.taken
  | staged lane answers nowMs active lanes history =>
    have stages : stagedReading (.resultStaged lane ((e.lanes lane).handedOn answers nowMs)) =
        some (lane, some ((e.lanes lane).handedOn answers nowMs)) := rfl
    apply stage.changed lanes
    · intro other there
      rw [history, held_cons stages, if_neg there.symm]
    · intro ready
      obtain ⟨sent, as', encodes⟩ := loop_staged (sound lane) active ready
      refine ⟨_, sent, ?_, as', encodes⟩
      rw [history, held_cons stages, if_pos rfl]
    · rw [history, throughout_cons]
      exact ⟨trivial, stage.taken⟩
  | @taken lane pending dispatcher run lanes history =>
    obtain ⟨ready, rfl, next⟩ := InboundCommandDispatcher.takeResult_some run
    apply stage.changed lanes
    · intro other _
      rw [history]
      rfl
    · intro waits
      rcases next with ⟨_, rfl⟩ | ⟨_, rfl⟩ <;> cases waits
    · rw [history, throughout_cons]
      exact ⟨stage.ready lane ready, stage.taken⟩

theorem lanesStage_moves {config : Configuration} {random : UInt64}
    (moves : EndpointMoves (setup config random) e) : LanesStage e := by
  induction moves with
  | refl =>
    refine ⟨fun lane ready => ?_, throughout_nil⟩
    cases ready
  | tail earlier last hyp => exact hyp.step (lanesRead_moves earlier).sound (move_lanes last)

end Lanes

/- What is queued for the observers -/

/-- A result that the endpoint has not made up itself was in a RESULT of the peer, and a slot was
    busy with its command. -/
def Relayed (history : List EndpointEvent) (peer : PeerIndex) (result : NetResult) : Prop :=
  result.transportFailure = false → ResultOrigin history peer result ∧
    ∃ slot older, older <:+ history ∧ held slotReading slot older = some (peer, result.transactionId)

/-- The queued result is relayed or made up, and so was every result that was offered. -/
structure QueueRelays (e : EspNowNetProtocolComponent) : Prop where
  waiting : e.notification.ready = true →
    Relayed e.history e.notification.peer e.notification.result
  offered : ∀ peer result, .resultOffered peer result ∈ e.history → Relayed e.history peer result

section Queue
variable {e e' : EspNowNetProtocolComponent} {peer : PeerIndex} {result : NetResult}

theorem Relayed.grow {history grown : List EndpointEvent} (relayed : Relayed history peer result)
    (grows : history <:+ grown) : Relayed grown peer result := by
  intro own
  obtain ⟨origin, slot, older, past, holds⟩ := relayed own
  exact ⟨origin.grow grows.subset, slot, older, past.trans grows, holds⟩

theorem Relayed.of_busy (inOrder : e.InOrder) {slot : Fin 2} (busy : (e.clients slot).state ≠ .idle)
    (own : (e.clients slot).peer = peer)
    (transaction : (e.clients slot).command.transactionId = result.transactionId)
    (origin : ResultOrigin e.history peer result) : Relayed e.history peer result := by
  intro _
  refine ⟨origin, slot, e.history, List.suffix_rfl, ?_⟩
  rw [SlotsInOrder.busy inOrder busy, own, transaction]

theorem KeepsOrigins.queued (kept : KeepsOrigins e e') (queue : QueueRelays e)
    (inOrder : e.InOrder) (ready : e'.notification.ready = true) :
    Relayed e.history e'.notification.peer e'.notification.result := by
  rcases kept.notification ready with same | ⟨peer, result, same, relays⟩
  · rw [same] at ready ⊢
    exact queue.waiting ready
  · obtain ⟨slot, waiting, own, transaction⟩ := relays.waiting
    rw [same]
    exact .of_busy inOrder (by simp [waiting]) own transaction relays.origin

theorem EspNowNetProtocolComponent.Ends.relayed {slot : Fin 2} (ends : e.Ends slot result)
    (inOrder : e.InOrder) : Relayed e.history (e.clients slot).peer result := by
  cases ends with
  | failed failed => exact fun own => absurd (own.symm.trans failed) Bool.false_ne_true
  | answered relayed busy transaction origin => exact .of_busy inOrder busy rfl transaction.symm origin

theorem QueueRelays.extend (queue : QueueRelays e) {events : List EndpointEvent}
    (history : e'.history = events ++ e.history)
    (offers : ∀ peer result, .resultOffered peer result ∈ events → Relayed e.history peer result)
    (waiting : e'.notification.ready = true →
      Relayed e.history e'.notification.peer e'.notification.result) : QueueRelays e' := by
  have grows : e.history <:+ e'.history := history ▸ List.suffix_append events e.history
  refine ⟨fun ready => (waiting ready).grow grows, fun peer result offered => ?_⟩
  rw [history] at offered
  rcases List.mem_append.mp offered with new | old
  · exact (offers peer result new).grow grows
  · exact (queue.offered peer result old).grow grows

theorem QueueRelays.step (queue : QueueRelays e) (inOrder : e.InOrder) (step : OriginStep e e') :
    QueueRelays e' := by
  cases step with
  | aside kept history unasked =>
    exact queue.extend history (fun _ _ offered => (unasked _ offered).elim)
      (kept.queued queue inOrder)
  | declared same notification next history =>
    apply queue.extend (history.trans List.singleton_append.symm) (by simp)
    intro ready
    rw [notification] at ready ⊢
    exact queue.waiting ready
  | @started kept slot receiver envelope data command transactionId transaction history =>
    have both : e'.history = [.commandStarted slot receiver transactionId,
        .messageStarted receiver envelope data] ++ e.history := history
    exact queue.extend both (by simp) (kept.queued queue inOrder)
  | given kept peeked given history =>
    cases given <;> exact queue.extend (history.trans List.singleton_append.symm) (by simp)
      (kept.queued queue inOrder)
  | verified kept accepted decodes verifies history | delivered kept offered history =>
    exact queue.extend (history.trans List.singleton_append.symm) (by simp)
      (kept.queued queue inOrder)
  | finished same declarative notification own history =>
    apply queue.extend (history.trans List.singleton_append.symm) (by simp)
    intro ready
    rcases notification ready with old | new
    · rw [old] at ready ⊢
      exact queue.waiting ready
    · rw [new]
      exact own.relayed inOrder
  | offered kept ready history =>
    apply queue.extend (history.trans List.singleton_append.symm) ?_ (kept.queued queue inOrder)
    intro peer result offered
    injection List.mem_singleton.mp offered with peer' result'
    rw [peer', result']
    exact queue.waiting ready

theorem queueRelays_moves {config : Configuration} {random : UInt64}
    (moves : EndpointMoves (setup config random) e) : QueueRelays e := by
  induction moves with
  | refl =>
    refine ⟨fun ready => ?_, fun peer result offered => ?_⟩
    · cases ready
    · cases offered
  | tail earlier last hyp => exact hyp.step (inOrder_moves earlier) (move_origin last)

end Queue

/- The result and the command behind it -/

/-- This RESULT message was started with what a lane had staged last for that command. -/
def RepliesTo (history : List EndpointEvent) (answer : OutboundMessage)
    (command : EspNowInboundApplicationMessage) (sent : NetResult) : Prop :=
  ∃ lane pending older, .messageStarted answer.peerIndex answer.envelope answer.data ::
      .resultTaken lane pending :: older <:+ history ∧
    HandsOn answer pending ∧ held commandReading lane older = some command ∧
    ∃ handedOn, held stagedReading lane older = some handedOn ∧ StagedAs handedOn sent

/-- Every RESULT message that is sent for a lane says what the lane had staged, for a command of
    the peer it is sent to and under its transaction. -/
theorem replies_of_result {config : Configuration} {random : UInt64}
    {e : EspNowNetProtocolComponent} (moves : EndpointMoves (setup config random) e)
    (only : OnlyLaneResults e.history) {answer : OutboundMessage}
    (started : answer ∈ startedMessages e.history) (kind : answer.envelope.kind = .result) :
    ∃ command sent payload, RepliesTo e.history answer command sent ∧
      EspNowResultCodec.encode sent = .ok payload ∧ payload.bytes = answer.data ∧
      CommandFrom command answer.peerIndex answer.envelope.transactionId ∧
      .messageReady command ∈ e.history ∧ command.message.envelope.kind = .command := by
  obtain ⟨command, ⟨lane, pending, older, present, handsOn, holds⟩, from', ready, isCommand⟩ :=
    answers_of_result moves only started kind
  have taken : .resultTaken lane pending :: older <:+ e.history :=
    (List.suffix_cons _ _).trans present
  obtain ⟨handedOn, sent, staged, as', encodes⟩ := (lanesStage_moves moves).taken _ older taken
  exact ⟨command, sent, pending.payload,
    ⟨lane, pending, older, present, handsOn, holds, handedOn, staged, as'⟩, encodes, handsOn.2.2,
    from', ready, isCommand⟩

section Network
variable {ι : Type} {d : Deployment ι} {n : Network ι}

/-- Endpoint `a` is the peer with this index, and has sent the RESULT message to endpoint `b`. -/
structure AnswersFor (d : Deployment ι) (n : Network ι) (a b : ι) (peer : PeerIndex)
    (answer : OutboundMessage) : Prop where
  started : answer ∈ startedMessages (n a).history
  kind : answer.envelope.kind = .result
  addressed : d.peerAddress a answer.peerIndex = some (d.address b)
  index : (d.config b).peers.indexForAddress (d.address a) = peer

/-- Endpoint `c`, which is at the address of endpoint `b`, has sent `a` the message that the lane
    got as this command; the lane reads it as the command that `c` was called with. -/
structure RequestedBy (d : Deployment ι) (n : Network ι) (a b c : ι)
    (command : EspNowInboundApplicationMessage) (request : OutboundMessage) : Prop where
  started : request ∈ startedMessages (n c).history
  kind : request.envelope.kind = .command
  home : d.address c = d.address b
  addressed : d.peerAddress c request.peerIndex = some (d.address a)
  envelope : request.envelope = command.message.envelope
  data : request.data = command.message.data.bytes
  read : ReadAsCalled (d.begin c) (n c) request command

/-- The command that a RESULT message answers was sent from where the message goes. -/
theorem requested_of_answer (consistent : Consistent d n)
    (few : ∀ i, (startedMessages (n i).history).length < 2 ^ 32 - 1) {a b : ι}
    {answer : OutboundMessage} {command : EspNowInboundApplicationMessage}
    (addressed : d.peerAddress a answer.peerIndex = some (d.address b))
    (asked : CommandFrom command answer.peerIndex answer.envelope.transactionId)
    (commanded : .messageReady command ∈ (n a).history)
    (isCommand : command.message.envelope.kind = .command) :
    ∃ c request, RequestedBy d n a b c command request ∧
      request.envelope.transactionId = answer.envelope.transactionId := by
  have ready := mem_readyMessages.mpr commanded
  obtain ⟨c, _, own, _⟩ := consistent.sender ready
  obtain ⟨request, member, envelope, data, receiver, index⟩ := consistent.origin (few c) ready own
  have home : d.address c = d.address b := by
    obtain ⟨found, known, address⟩ := Option.map_eq_some_iff.mp addressed
    rw [← address]
    exact (PeerRegistry.address_of_index known (index.trans asked.peer)).symm
  have kind : request.envelope.kind = .command := by
    rw [envelope]
    exact isCommand
  refine ⟨c, request, ⟨member, kind, home, receiver, envelope, data,
    readAsCalled rfl (consistent.runs c) envelope data⟩, ?_⟩
  rw [envelope]
  exact asked.transaction

/-- A result that an observer is told, and that the endpoint has not made up itself, is of a command
    that a slot was busy with, for this peer under this transaction; a final one ends such a slot.
    The peer has sent it; and where a peer only sends the results of its lanes, the observer is
    told, but for the latency, exactly what a lane has staged, for a command that was sent to it
    from this endpoint's address under this transaction. -/
theorem notified_result_as_staged [DecidableEq ι] (run : NetworkMoves d d.begin n)
    (few : ∀ i, (startedMessages (n i).history).length < 2 ^ 32 - 1) {b : ι} {observer : Nat}
    {peer : PeerIndex} {result : NetResult}
    (notified : .resultDelivered observer peer result ∈ (n b).history)
    (relayed : result.transportFailure = false) :
    (∃ slot older, older <:+ (n b).history ∧
      held slotReading slot older = some (peer, result.transactionId)) ∧
    (result.Terminal → ∃ slot pending older,
      .commandFinished slot peer result pending :: older <:+ (n b).history ∧
      held slotReading slot older = some (peer, result.transactionId)) ∧
    ∃ a answer, AnswersFor d n a b peer answer ∧
      answer.envelope.transactionId = result.transactionId ∧
      (OnlyLaneResults (n a).history →
        ∃ command sent, RepliesTo (n a).history answer command sent ∧
          result = { sent with
            transportFailure := false
            transactionId := result.transactionId
            latencyMs := result.latencyMs } ∧
          ∃ c request, RequestedBy d n a b c command request ∧
            request.envelope.transactionId = result.transactionId) := by
  have consistent := consistent_moves run
  have explained := (accounted_moves (consistent.runs b)).explained
  have offered : .resultOffered peer result ∈ (n b).history := explained _ notified
  obtain ⟨origin, busy⟩ := (queueRelays_moves (consistent.runs b)).offered peer result offered relayed
  refine ⟨busy, fun terminal => ?_, ?_⟩
  · obtain ⟨slot, pending, finished⟩ := explained _ offered terminal
    obtain ⟨later, older, split⟩ := List.append_of_mem finished
    have present : .commandFinished slot peer result pending :: older <:+ (n b).history :=
      ⟨later, split.symm⟩
    exact ⟨slot, pending, older, present, (inOrder_moves (consistent.runs b)).each _ older present⟩
  -- the RESULT message behind it, as its sender has started it
  obtain ⟨_, inbound, latencyMs, routed, from', decodes⟩ :=
    origin.resolve_left (by simp [relayed])
  obtain ⟨reported, kind⟩ := explained _ routed
  have ready := mem_readyMessages.mpr reported
  obtain ⟨a, out, own, _⟩ := consistent.sender ready
  obtain ⟨answer, member, envelope, data, addressed, index⟩ :=
    consistent.origin (few a) ready own
  have named := EspNowResultCodec.decode_transaction decodes
  rw [← envelope] at kind named decodes
  rw [← data] at decodes
  refine ⟨a, answer, ⟨member, kind, addressed, index.trans from'⟩, named.symm, fun only => ?_⟩
  -- the result and the command behind it, as the lane had them
  obtain ⟨command, sent, payload, replies, encodes, bytes, asked, commanded, isCommand⟩ :=
    replies_of_result (consistent.runs a) only member kind
  refine ⟨command, sent, replies, ?_, ?_⟩
  · have identified : answer.envelope.transactionId ≠ 0 := by
      intro zero
      rw [EspNowResultCodec.decode, if_pos (Or.inl zero)] at decodes
      cases decodes
    have told := EspNowResultCodec.decode_encode encodes identified latencyMs
    rw [bytes, decodes] at told
    have same := Except.ok.inj told
    rw [same]
  · rw [named]
    exact requested_of_answer consistent few addressed asked commanded isCommand

end Network

theorem notified_result_as_staged_to_second_boot :
    (∃ slot older, older <:+ (ownNetwork (.client 1)).history ∧
      held slotReading slot older = some (0, notifiedResult.transactionId)) ∧
    (notifiedResult.Terminal → ∃ slot pending older,
      .commandFinished slot 0 notifiedResult pending :: older <:+ (ownNetwork (.client 1)).history ∧
      held slotReading slot older = some (0, notifiedResult.transactionId)) ∧
    ∃ a answer, AnswersFor samplePair.toDeployment ownNetwork a (.client 1) 0 answer ∧
      answer.envelope.transactionId = notifiedResult.transactionId ∧
      (OnlyLaneResults (ownNetwork a).history →
        ∃ command sent, RepliesTo (ownNetwork a).history answer command sent ∧
          notifiedResult = { sent with
            transportFailure := false
            transactionId := notifiedResult.transactionId
            latencyMs := notifiedResult.latencyMs } ∧
          ∃ c request, RequestedBy samplePair.toDeployment ownNetwork a (.client 1) c command
            request ∧ request.envelope.transactionId = notifiedResult.transactionId) := by
  have few : ∀ party, (startedMessages (ownNetwork party).history).length < 2 ^ 32 - 1 :=
    forall_party.mpr (by decide +kernel)
  have notified : .resultDelivered 0 0 notifiedResult ∈ (ownNetwork (.client 1)).history := by
    decide +kernel
  have run : NetworkMoves samplePair.toDeployment samplePair.begin ownNetwork :=
    NodePair.networkMoves ownNetwork_moves
  have relayed : notifiedResult.transportFailure = false := rfl
  exact notified_result_as_staged run few notified relayed

end EspNowNet
