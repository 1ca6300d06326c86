import EspNowNet.DeliveryTrace
import EspNowNet.LaneTransactions
import EspNowNet.ResultRouting

/- What becomes of a message that is taken from the runtime. It is taken only when one
   consumer is ready for it, and that consumer gets it. -/
namespace EspNowNet
open EspNowNetProtocolComponent Relation

variable {e e' : EspNowNetProtocolComponent}

/- The message in the runtime -/

/-- Queued frames come from known peers, and a message that can be read was reported. -/
structure Reported (e : EspNowNetProtocolComponent) : Prop where
  entries : ∀ received ∈ e.radio.receivedFrames.entries,
    received.frame.isEmpty = true ∨ received.peerIndex ≠ invalidPeerIndex
  mailbox : ∀ inbound, e.runtime.peekApplicationMessage = some inbound →
    .messageReady inbound ∈ e.history ∧ inbound.peerIndex ≠ invalidPeerIndex

theorem receiveCallback_addressed (r : EspIdfEspNowEncryptedRadio) (address : Vector UInt8 6)
    (data : List UInt8) {received : EspNowReceivedFrame}
    (member : received ∈ (r.receiveCallback address data).receivedFrames.entries) :
    received ∈ r.receivedFrames.entries ∨ received.peerIndex ≠ invalidPeerIndex := by
  unfold EspIdfEspNowEncryptedRadio.receiveCallback at member
  simp only at member
  split at member
  · exact Or.inl member
  · split at member
    · exact Or.inl member
    · rename_i known
      rcases EspNowSpscQueue.push_mem_entries member with old | rfl
      · exact Or.inl old
      · exact Or.inr fun invalid => known (Or.inr (Or.inr invalid))

namespace EspNowProtocolRuntime
variable {r r' : EspNowProtocolRuntime} {received : EspNowReceivedFrame}
  {result : EspNowProtocolAcceptResult}

/-- While a message is unread, frames do not touch it. -/
theorem accept_unread (unread : r.applicationMessageReady = true)
    (run : r.accept received = (result, r')) :
    r'.peekApplicationMessage = r.peekApplicationMessage ∧ result = .invalidFrame := by
  unfold accept at run
  rw [if_pos (Or.inl unread)] at run
  split at run
  · obtain ⟨rfl, rfl⟩ := Prod.mk.inj run
    exact ⟨rfl, rfl⟩
  · obtain ⟨rfl, rfl⟩ := Prod.mk.inj run
    exact ⟨rfl, rfl⟩

theorem peek_unready (empty : r.applicationMessageReady = false) :
    r.peekApplicationMessage = none := by
  simp [peekApplicationMessage, empty]

theorem peek_ready {inbound : EspNowInboundApplicationMessage}
    (peeked : r.peekApplicationMessage = some inbound) : r.applicationMessageReady = true := by
  by_contra empty
  rw [peek_unready (by simpa using empty)] at peeked
  simp at peeked

theorem takeApplicationMessage_peek (r : EspNowProtocolRuntime) :
    r.takeApplicationMessage.1 = r.peekApplicationMessage ∧
      r.takeApplicationMessage.2.peekApplicationMessage = none := by
  unfold takeApplicationMessage
  cases peeked : r.peekApplicationMessage with
  | none => exact ⟨rfl, peeked⟩
  | some inbound => exact ⟨rfl, peek_unready rfl⟩

/-- A frame leaves the unread message alone, or there is none, or it was just completed by
    this frame of its peer. -/
theorem accept_peek {came : PeerIndex → List UInt8 → Prop} (sound : r.Sound came)
    (from' : came received.peerIndex received.frame.bytes)
    (run : r.accept received = (result, r')) {inbound : EspNowInboundApplicationMessage}
    (peeked : r'.peekApplicationMessage = some inbound) :
    r.peekApplicationMessage = some inbound ∨
      result = .applicationMessageReady ∧ inbound.peerIndex = received.peerIndex ∧
        received.frame.isEmpty = false := by
  by_cases unread : r.applicationMessageReady = true
  · exact Or.inl ((accept_unread unread run).1 ▸ peeked)
  · right
    have ready := peek_ready peeked
    obtain ⟨_, effect⟩ := accept_effect sound from' run
    cases effect with
    | silent nothing mailbox => exact absurd (mailbox ▸ ready) unread
    | deliveryAck _ _ _ mailbox | duplicate _ mailbox => simp [mailbox] at ready
    | ready assembled kind unknown mailbox =>
      obtain rfl := Option.some.inj (mailbox.symm.trans peeked)
      refine ⟨rfl, rfl, ?_⟩
      by_contra blank
      unfold accept at run
      rw [if_pos (Or.inr (by simpa using blank))] at run
      simp at run

end EspNowProtocolRuntime

theorem Reported.step (reported : Reported e) (traced : e.InboxTraced)
    (effect : DeliveryEffect e e') : Reported e' := by
  have frame (received : EspNowReceivedFrame) (member : received ∈ e.radio.receivedFrames.entries)
      (spoken : received.frame.isEmpty = false) : received.peerIndex ≠ invalidPeerIndex := by
    rcases reported.entries received member with blank | known
    · simp [spoken] at blank
    · exact known
  -- the entries change in one case only, and so does the message
  have kept (inbox : e'.radio.receivedFrames.entries = e.radio.receivedFrames.entries)
      (mailbox : e'.runtime.peekApplicationMessage = e.runtime.peekApplicationMessage ∨
        e'.runtime.peekApplicationMessage = none)
      (grown : e.history ⊆ e'.history) : Reported e' := by
    refine ⟨inbox ▸ reported.entries, fun inbound peeked => ?_⟩
    rcases mailbox with same | none
    · obtain ⟨member, known⟩ := reported.mailbox inbound (same ▸ peeked)
      exact ⟨grown member, known⟩
    · simp [none] at peeked
  cases effect with
  | quiet undisturbed runtime sender =>
    obtain ⟨_, inbox, _, events, history, _⟩ := undisturbed
    exact kept inbox (Or.inl (by rw [runtime])) (history ▸ List.subset_append_right _ _)
  | started run radio boot runtime events untold history =>
    refine kept (by rw [radio]) (Or.inl (by rw [runtime])) ?_
    rw [history]
    exact fun _ member => List.mem_append_right _ (List.mem_cons_of_mem _ member)
  | received address data same =>
    subst same
    constructor
    · intro received member
      rcases receiveCallback_addressed e.radio address data member with old | known
      · exact reported.entries received old
      · exact Or.inr known
    · intro inbound peeked
      obtain ⟨member, known⟩ := reported.mailbox inbound peeked
      exact ⟨List.mem_cons_of_mem _ member, known⟩
  | accepted member run noAck unread undisturbed sender =>
    obtain ⟨_, inbox, _, events, history, _⟩ := undisturbed
    refine ⟨inbox ▸ reported.entries, fun inbound peeked => ?_⟩
    rcases EspNowProtocolRuntime.accept_peek traced.sound (traced.entries _ member) run peeked with
      older | ⟨ready, _, _⟩
    · obtain ⟨told, known⟩ := reported.mailbox inbound older
      exact ⟨history ▸ List.mem_append_right _ told, known⟩
    · simp [unread ready] at peeked
  | @ready received inbound member run peeked peers inbox boot sender history =>
    refine ⟨inbox ▸ reported.entries, fun other found => ?_⟩
    rw [history]
    obtain rfl := Option.some.inj (peeked.symm.trans found)
    refine ⟨List.mem_cons_self, ?_⟩
    rcases EspNowProtocolRuntime.accept_peek traced.sound (traced.entries _ member) run peeked with
      older | ⟨_, peer, spoken⟩
    · exact (reported.mailbox inbound older).2
    · rw [peer]
      exact frame received member spoken
  | acknowledged member run handed released sender undisturbed =>
    obtain ⟨_, inbox, _, events, history, _⟩ := undisturbed
    refine ⟨inbox ▸ reported.entries, fun inbound peeked => ?_⟩
    rw [released] at peeked
    have found : _ = some inbound := peeked
    rcases EspNowProtocolRuntime.accept_peek traced.sound (traced.entries _ member) run found with
      older | ⟨ready, _, _⟩
    · obtain ⟨told, known⟩ := reported.mailbox inbound older
      exact ⟨history ▸ List.mem_append_right _ told, known⟩
    · simp at ready
  | taken run undisturbed sender =>
    obtain ⟨_, inbox, _, events, history, _⟩ := undisturbed
    have empty := (e.runtime.takeApplicationMessage_peek).2
    rw [run] at empty
    exact kept inbox (Or.inr empty) (history ▸ List.subset_append_right _ _)
  | answered runtime undisturbed sender =>
    obtain ⟨_, inbox, _, events, history, _⟩ := undisturbed
    exact kept inbox (Or.inl (by rw [runtime]; rfl)) (history ▸ List.subset_append_right _ _)
  | sent outgoing run runtime boot sender history =>
    obtain ⟨_, peer, _, radio⟩ := EspIdfEspNowEncryptedRadio.sendFrame_true run
    refine kept (by rw [radio]) ?_ (history ▸ List.subset_cons_self _ _)
    rcases runtime with same | same
    · exact Or.inl (by rw [same])
    · exact Or.inl (by rw [same]; rfl)

theorem reported_setup (config : Configuration) (random : UInt64) :
    Reported (setup config random) := by
  constructor
  · intro received member
    have blank : received = {} := List.eq_of_mem_replicate member
    rw [blank]
    exact Or.inl rfl
  · intro inbound peeked
    obtain ⟨localBootId, same⟩ := EspNowProtocolRuntime.configure_eq {}
      (if random = 0 then 1 else random)
    simp only [setup, same] at peeked
    simp [EspNowProtocolRuntime.peekApplicationMessage] at peeked

theorem reported_moves {config : Configuration} {random : UInt64}
    (moves : EndpointMoves (setup config random) e) : Reported e := by
  induction moves with
  | refl => exact reported_setup config random
  | tail earlier last ih =>
    have traced := traced_moves earlier
    exact ih.step traced.inbox (delivery_effect_move traced.coherent.coupled last)

/-- A message that can be read says who sent it and is no ACK. -/
theorem peeked_valid {config : Configuration} {random : UInt64}
    (moves : EndpointMoves (setup config random) e) {inbound : EspNowInboundApplicationMessage}
    (peeked : e.runtime.peekApplicationMessage = some inbound) :
    inbound.peerIndex ≠ invalidPeerIndex ∧ inbound.message.envelope.identity.Valid ∧
      inbound.message.envelope.kind ≠ .ack := by
  obtain ⟨told, known⟩ := (reported_moves moves).mailbox inbound peeked
  obtain ⟨assembled, kind⟩ := (traced_moves moves).inbox.ready inbound (mem_readyMessages.mpr told)
  exact ⟨known, assembled.identity, kind⟩

/- What the callbacks of the application leave alone -/

/-- The events that say where a consumed message went. -/
def EndpointEvent.Consumption : EndpointEvent → Bool
  | .commandAccepted _ _ | .resultRouted _ _ => true
  | _ => false

def consumptions (history : List EndpointEvent) : List EndpointEvent :=
  history.filter EndpointEvent.Consumption

/-- The dispatchers and the runtime stay as they are, and nothing is consumed. -/
structure Unconsumed (e e' : EspNowNetProtocolComponent) : Prop where
  lanes : e'.lanes = e.lanes
  runtime : e'.runtime = e.runtime
  consumed : consumptions e'.history = consumptions e.history

theorem Unconsumed.refl (e : EspNowNetProtocolComponent) : Unconsumed e e := ⟨rfl, rfl, rfl⟩

theorem Unconsumed.trans {next : EspNowNetProtocolComponent} (first : Unconsumed e e')
    (second : Unconsumed e' next) : Unconsumed e next :=
  ⟨second.lanes.trans first.lanes, second.runtime.trans first.runtime,
    second.consumed.trans first.consumed⟩

theorem Unconsumed.record (e : EspNowNetProtocolComponent) {event : EndpointEvent}
    (aside : event.Consumption = false) : Unconsumed e (e.record event) :=
  ⟨rfl, rfl, List.filter_cons_of_neg (by simp [aside])⟩

theorem consumptions_append {events history : List EndpointEvent}
    (aside : ∀ event ∈ events, event.Consumption = false) :
    consumptions (events ++ history) = consumptions history := by
  rw [consumptions, List.filter_append, List.filter_eq_nil_iff.mpr, List.nil_append]
  · rfl
  · intro event member
    simp [aside event member]

namespace EspNowNetProtocolComponent

theorem calls_unconsumed (e : EspNowNetProtocolComponent) (script : List ControlCall) :
    Unconsumed e (e.calls script) := by
  have effect := calls_effect e script
  obtain ⟨events, history, called⟩ := effect.events
  refine ⟨effect.lanes, effect.runtime, ?_⟩
  rw [history]
  apply consumptions_append
  intro event member
  have called := called event member
  cases event <;> trivial

/- Who is ready for the message -/

/-- The command is the `stop` of the operation. -/
structure StopOf (operation : InboundCommandDispatcher)
    (inbound : EspNowInboundApplicationMessage) : Prop where
  active : operation.state = .active
  peer : inbound.peerIndex = operation.peerIndex
  command : ∃ incoming, InboundCommandDispatcher.decodeCommand inbound = .ok incoming ∧
    incoming.name.chars = [115, 116, 111, 112] ∧  -- "stop"
    incoming.deviceId = operation.command.deviceId ∧
    incoming.resource = operation.command.resource ∧
    incoming.sourceDeviceId = operation.command.sourceDeviceId ∧
    incoming.sourceBootId = operation.command.sourceBootId

theorem canAcceptInterrupt_iff (d operation : InboundCommandDispatcher)
    (inbound : EspNowInboundApplicationMessage) :
    d.canAcceptInterrupt inbound operation = true ↔ d.state = .idle ∧ StopOf operation inbound := by
  unfold InboundCommandDispatcher.canAcceptInterrupt
  constructor
  · intro can
    split at can
    · simp at can
    · rename_i open'
      simp only [not_or, Decidable.not_not, ne_eq] at open'
      split at can
      · simp at can
      · rename_i incoming decodes
        exact ⟨open'.1, open'.2.1, open'.2.2, incoming, decodes, by simpa using can⟩
  · rintro ⟨idle, active, peer, incoming, decodes, same⟩
    rw [if_neg (by simp [idle, active, peer])]
    simp only [decodes]
    simpa using same

/-- The lane is switched on and free for this command. -/
def LaneReady (e : EspNowNetProtocolComponent) (inbound : EspNowInboundApplicationMessage) :
    InboundLane → Prop
  | .command => (e.lanes .command).state = .idle
  | .parallel => e.parallelActive = true ∧ (e.lanes .parallel).state = .idle
  | .interrupt => e.interruptActive = true ∧ (e.lanes .interrupt).state = .idle ∧
      (StopOf (e.lanes .command) inbound ∨
        e.parallelActive = true ∧ StopOf (e.lanes .parallel) inbound)

def RouteReady (e : EspNowNetProtocolComponent) : ResultRoute → Prop
  | .client _ => e.notification.ready = false
  | .late | .unsolicited => True
  | .mailbox => e.resultMessage = none

/-- Some consumer can take the message. -/
def ConsumerReady (e : EspNowNetProtocolComponent) (inbound : EspNowInboundApplicationMessage) :
    Prop :=
  (inbound.message.envelope.kind = .command ∧ ∃ lane, e.LaneReady inbound lane) ∨
    (inbound.message.envelope.kind = .result ∧ e.RouteReady e.resultRoute)

theorem validInterrupt_iff (e : EspNowNetProtocolComponent)
    (inbound : EspNowInboundApplicationMessage) :
    e.validInterrupt inbound = true ↔ e.LaneReady inbound .interrupt := by
  simp only [validInterrupt, interruptLaneAvailable, Bool.and_eq_true, Bool.or_eq_true,
    canAcceptInterrupt_iff, decide_eq_true_eq, LaneReady]
  constructor
  · rintro ⟨⟨⟨on, _⟩, idle⟩, ⟨_, stop⟩ | ⟨parallel, _, stop⟩⟩
    · exact ⟨on, idle, Or.inl stop⟩
    · exact ⟨on, idle, Or.inr ⟨parallel, stop⟩⟩
  · rintro ⟨on, idle, stop | ⟨parallel, stop⟩⟩
    · exact ⟨⟨⟨on, Or.inl stop.active⟩, idle⟩, Or.inl ⟨idle, stop⟩⟩
    · exact ⟨⟨⟨on, Or.inr ⟨parallel, stop.active⟩⟩, idle⟩, Or.inr ⟨parallel, idle, stop⟩⟩

theorem parallelLaneAvailable_iff (e : EspNowNetProtocolComponent)
    (inbound : EspNowInboundApplicationMessage) :
    e.parallelLaneAvailable = true ↔ e.LaneReady inbound .parallel := by
  simp [parallelLaneAvailable, LaneReady]

theorem commandLane_some {inbound : EspNowInboundApplicationMessage} {lane : InboundLane}
    (found : e.commandLane inbound = some lane) : e.LaneReady inbound lane := by
  unfold commandLane at found
  split at found
  · rename_i interrupt
    obtain rfl := Option.some.inj found
    simp only [canAcceptInterrupt_iff] at interrupt
    obtain ⟨on, stop, accepts⟩ := interrupt
    refine ⟨on, accepts.1, ?_⟩
    rcases stop with ⟨_, stop⟩ | ⟨parallel, _, stop⟩
    · exact Or.inl stop
    · exact Or.inr ⟨parallel, stop⟩
  · split at found
    · rename_i command
      obtain rfl := Option.some.inj found
      exact command.1
    · split at found
      · rename_i parallel
        obtain rfl := Option.some.inj found
        exact ⟨parallel.1, parallel.2.1⟩
      · simp at found

/-- A command that some lane is ready for is accepted by a lane. -/
theorem commandLane_of_ready {inbound : EspNowInboundApplicationMessage}
    (known : inbound.peerIndex ≠ invalidPeerIndex)
    (identified : inbound.message.envelope.transactionId ≠ 0)
    (command : inbound.message.envelope.kind = .command) {lane : InboundLane}
    (ready : e.LaneReady inbound lane) : ∃ taker, e.commandLane inbound = some taker := by
  unfold commandLane
  split
  · exact ⟨_, rfl⟩
  · rename_i uninterrupted
    split
    · exact ⟨_, rfl⟩
    · rename_i busy
      split
      · exact ⟨_, rfl⟩
      · rename_i occupied
        exfalso
        cases lane with
        | command => exact busy ⟨ready, known, command, identified⟩
        | parallel => exact occupied ⟨ready.1, ready.2, known, command, identified⟩
        | interrupt =>
          obtain ⟨on, idle, stop⟩ := ready
          apply uninterrupted
          simp only [canAcceptInterrupt_iff]
          refine ⟨on, ?_, idle, known, command, identified⟩
          rcases stop with stop | ⟨parallel, stop⟩
          · exact Or.inl ⟨idle, stop⟩
          · exact Or.inr ⟨parallel, idle, stop⟩

/-- The gate for commands agrees with the lanes. -/
theorem command_gate {inbound : EspNowInboundApplicationMessage}
    (peeked : e.runtime.peekApplicationMessage = some inbound)
    (command : e.runtime.applicationMessageKind = .command) :
    (e.HoldsApplicationMessage ∨ e.WithholdsCommand) ↔ ∀ lane, ¬ e.LaneReady inbound lane := by
  have interrupt := validInterrupt_iff e inbound
  have parallel := parallelLaneAvailable_iff e inbound
  constructor
  · intro closed lane ready
    -- each lane that is ready keeps both gates open
    have reopened : (e.lanes .command).state ≠ .idle ∧ e.parallelLaneAvailable = false ∧
        e.validInterrupt inbound = false := by
      rcases closed with (⟨_, busy, unavailable, occupied⟩ | ⟨result, _⟩ | ⟨result, _⟩) |
        ⟨_, _, busy, occupied, uninterrupted⟩
      · exact ⟨busy, occupied, by simp [validInterrupt, unavailable]⟩
      · simp [command] at result
      · simp [command] at result
      · exact ⟨busy, occupied, by simpa [peeked] using uninterrupted⟩
    obtain ⟨busy, occupied, uninterrupted⟩ := reopened
    cases lane with
    | command => exact busy ready
    | parallel => simp [parallel.mpr ready] at occupied
    | interrupt => simp [interrupt.mpr ready] at uninterrupted
  · intro unready
    have busy : (e.lanes .command).state ≠ .idle := unready .command
    have occupied : e.parallelLaneAvailable = false := by
      by_contra available
      exact unready .parallel (parallel.mp (by simpa using available))
    have uninterrupted : e.validInterrupt inbound = false := by
      by_contra valid
      exact unready .interrupt (interrupt.mp (by simpa using valid))
    by_cases built : e.build.interruptibleInbound = true
    · exact Or.inr ⟨built, command, busy, occupied, by simpa [peeked] using uninterrupted⟩
    · refine Or.inl (Or.inl ⟨command, busy, ?_, occupied⟩)
      simp [interruptLaneAvailable, interruptActive, built]

/-- The gate for results agrees with the route. -/
theorem result_gate (result : e.runtime.applicationMessageKind = .result) :
    (e.HoldsApplicationMessage ∨ e.WithholdsCommand) ↔ ¬ e.RouteReady e.resultRoute := by
  unfold HoldsApplicationMessage WithholdsCommand resultRoute
  simp only [result, reduceCtorEq, false_and, and_false, false_or, true_and, or_false]
  cases matched : e.matchingCommandClient with
  | some slot => simp [RouteReady]
  | none =>
    cases late : e.inboundMatchesLastTerminal
    · cases observed : e.hasUnsolicitedResultObserver
      · simp [RouteReady, Option.isSome_iff_ne_none]
      · simp [RouteReady]
    · simp [RouteReady]

theorem gate_iff {config : Configuration} {random : UInt64}
    (moves : EndpointMoves (setup config random) e) {inbound : EspNowInboundApplicationMessage}
    (peeked : e.runtime.peekApplicationMessage = some inbound) :
    (e.HoldsApplicationMessage ∨ e.WithholdsCommand) ↔ ¬ e.ConsumerReady inbound := by
  have taken : e.runtime.takeApplicationMessage =
      (some inbound, e.runtime.takeApplicationMessage.2) :=
    Prod.ext ((e.runtime.takeApplicationMessage_peek).1.trans peeked) rfl
  have kind := (EspNowProtocolRuntime.takeApplicationMessage_some taken).2.1
  have valid := peeked_valid moves peeked
  unfold ConsumerReady
  cases which : inbound.message.envelope.kind with
  | command =>
    rw [command_gate peeked (kind.trans which)]
    simp
  | result =>
    rw [result_gate (kind.trans which)]
    simp
  | ack => exact absurd which valid.2.2

/- Where the message goes -/

/-- What one consumer does with the message, and the event that says so. -/
inductive Destination (e : EspNowNetProtocolComponent) (env : EndpointEnvironment)
    (inbound : EspNowInboundApplicationMessage) (e' : EspNowNetProtocolComponent) :
    EndpointEvent → Prop
  | lane {lane : InboundLane} (command : inbound.message.envelope.kind = .command)
      (ready : e.LaneReady inbound lane)
      (accepted : ((e.lanes lane).accept inbound (env.lanes lane).answers env.nowMs).1 = true)
      (only : e'.lanes = Function.update e.lanes lane
        ((e.lanes lane).accept inbound (env.lanes lane).answers env.nowMs).2) :
      Destination e env inbound e' (.commandAccepted lane inbound)
  | client {slot : Fin 2} (result : inbound.message.envelope.kind = .result)
      (waiting : (e.clients slot).state = .waitingForResult)
      (peer : inbound.peerIndex = (e.clients slot).peer)
      (transaction : inbound.message.envelope.transactionId = (e.clients slot).command.transactionId)
      (free : e.notification.ready = false)
      (processed : e' = ({ e with runtime := e.runtime.takeApplicationMessage.2 }.record
        (.resultRouted (.client slot) inbound)).processCommandClientResult inbound env.nowMs slot) :
      Destination e env inbound e' (.resultRouted (.client slot) inbound)
  | late (result : inbound.message.envelope.kind = .result)
      (peer : inbound.peerIndex = e.lastTerminalPeer)
      (transaction : inbound.message.envelope.transactionId = e.lastTerminalTransactionId) :
      Destination e env inbound e' (.resultRouted .late inbound)
  | observed (result : inbound.message.envelope.kind = .result) {decoded : NetResult}
      (observers : e.unsolicitedResultObservers.observers ≠ [])
      (decodes : EspNowResultCodec.decode inbound.message.envelope.transactionId
        inbound.message.data.bytes 0 = .ok decoded)
      (given : e' = e.unsolicitedResultObservers.observers.foldl
        (deliverUnsolicited env inbound)
        ({ e with runtime := e.runtime.takeApplicationMessage.2 }.record
          (.resultRouted .unsolicited inbound))) :
      Destination e env inbound e' (.resultRouted .unsolicited inbound)
  | undecoded (result : inbound.message.envelope.kind = .result) {error : EspNowResultCodecError}
      (observers : e.unsolicitedResultObservers.observers ≠ [])
      (fails : EspNowResultCodec.decode inbound.message.envelope.transactionId
        inbound.message.data.bytes 0 = .error error) :
      Destination e env inbound e' (.resultRouted .unsolicited inbound)
  | mailbox (result : inbound.message.envelope.kind = .result) (drained : e.resultMessage = none)
      (filled : e'.resultMessage = some inbound) :
      Destination e env inbound e' (.resultRouted .mailbox inbound)

/-- The message has left the runtime and went to one place. -/
def ConsumedOnce (e : EspNowNetProtocolComponent) (env : EndpointEnvironment)
    (inbound : EspNowInboundApplicationMessage) (e' : EspNowNetProtocolComponent) : Prop :=
  e'.runtime = e.runtime.takeApplicationMessage.2 ∧ ∃ event, Destination e env inbound e' event ∧
    consumptions e'.history = event :: consumptions e.history

theorem accept_true {d : InboundCommandDispatcher} {inbound : EspNowInboundApplicationMessage}
    (accepts : d.Accepts inbound) (answers : NetCommandHandlerAnswers) (nowMs : UInt32) :
    (d.accept inbound answers nowMs).1 = true := by
  unfold InboundCommandDispatcher.accept
  rw [if_neg (not_not.mpr accepts)]
  simp only
  split
  · rfl
  · split
    · rfl
    · split <;> rfl

theorem onCommandIdentity_unconsumed (e : EspNowNetProtocolComponent) (peer : PeerIndex)
    (command : NetCommand) : Unconsumed e (e.onCommandIdentity peer command) := by
  unfold onCommandIdentity
  split
  · exact .record e rfl
  · exact .refl e

theorem acceptCommand_once (e : EspNowNetProtocolComponent) (env : EndpointEnvironment)
    (inbound : EspNowInboundApplicationMessage) (lane : InboundLane) :
    Unconsumed ({ e with
        lanes := Function.update e.lanes lane
          ((e.lanes lane).accept inbound (env.lanes lane).answers env.nowMs).2 }.record
      (.commandAccepted lane inbound)) (e.acceptCommand env inbound lane) := by
  unfold acceptCommand
  simp only
  split
  · exact .refl _
  · have verified := onCommandIdentity_unconsumed ({ e with
      lanes := Function.update e.lanes lane
        ((e.lanes lane).accept inbound (env.lanes lane).answers env.nowMs).2 }.record
      (.commandAccepted lane inbound)) inbound.peerIndex
    split
    · exact (verified _).trans ((Unconsumed.record _ rfl).trans (calls_unconsumed _ _))
    · exact (verified _).trans (calls_unconsumed _ _)

theorem dispatchUnsolicitedResult_unconsumed (e : EspNowNetProtocolComponent)
    (env : EndpointEnvironment) (inbound : EspNowInboundApplicationMessage) :
    Unconsumed e (e.dispatchUnsolicitedResult env inbound) := by
  unfold dispatchUnsolicitedResult
  split
  · exact .refl e
  · generalize e.unsolicitedResultObservers.observers = observers
    induction observers generalizing e with
    | nil => exact .refl e
    | cons observer observers ih =>
      exact ((Unconsumed.record e rfl).trans (calls_unconsumed _ _)).trans (ih _)

theorem processCommandClientResult_unconsumed (e : EspNowNetProtocolComponent)
    (inbound : EspNowInboundApplicationMessage) (nowMs : UInt32) (slot : Fin 2) :
    Unconsumed e (e.processCommandClientResult inbound nowMs slot) := by
  have finished (result : NetResult) : Unconsumed e (e.finishCommandClient result slot) := by
    obtain ⟨notification, same⟩ := finishCommandClient_eq e result slot
    rw [same]
    exact ⟨rfl, rfl, rfl⟩
  unfold processCommandClientResult
  simp only
  split
  · exact finished _
  · split
    · obtain ⟨notification, same⟩ := queueCommandResultNotification_eq e (e.clients slot).peer _
      rw [same]
      exact ⟨rfl, rfl, rfl⟩
    · exact finished _

theorem routeResult_once (e : EspNowNetProtocolComponent) (env : EndpointEnvironment)
    (inbound : EspNowInboundApplicationMessage) (route : ResultRoute) :
    Unconsumed (e.record (.resultRouted route inbound)) (e.routeResult env inbound route) := by
  unfold routeResult
  cases route with
  | client slot => exact processCommandClientResult_unconsumed _ _ _ _
  | late => exact .refl _
  | unsolicited => exact dispatchUnsolicitedResult_unconsumed _ _ _
  | mailbox => exact ⟨rfl, rfl, rfl⟩

theorem processApplicationMessage_command {inbound : EspNowInboundApplicationMessage}
    {lane : InboundLane} (env : EndpointEnvironment) (consumed : e.Consumes inbound)
    (command : inbound.message.envelope.kind = .command)
    (found : e.commandLane inbound = some lane) :
    e.processApplicationMessage env =
      { e with runtime := e.runtime.takeApplicationMessage.2 }.acceptCommand env inbound lane := by
  obtain ⟨held, withheld, taken⟩ := consumed
  have whole : e.runtime.takeApplicationMessage =
      (some inbound, e.runtime.takeApplicationMessage.2) := Prod.ext taken rfl
  have ready := (EspNowProtocolRuntime.takeApplicationMessage_some whole).1
  unfold processApplicationMessage
  rw [if_neg (by simp [ready, held, withheld]), whole]
  simp only [command, found]

/-- A RESULT goes where its route says. -/
theorem result_destination {inbound : EspNowInboundApplicationMessage} (env : EndpointEnvironment)
    (consumed : e.Consumes inbound) (result : inbound.message.envelope.kind = .result)
    (ready : e.RouteReady e.resultRoute) :
    Destination e env inbound (e.processApplicationMessage env)
      (.resultRouted e.resultRoute inbound) := by
  have whole : e.runtime.takeApplicationMessage =
      (some inbound, e.runtime.takeApplicationMessage.2) := Prod.ext consumed.2.2 rfl
  obtain ⟨_, _, peer, transaction⟩ := EspNowProtocolRuntime.takeApplicationMessage_some whole
  rw [processApplicationMessage_result env consumed result]
  cases route : e.resultRoute with
  | client slot =>
    have matched := (matchingCommandClient_waiting (resultRoute_client route)).2
    obtain ⟨waiting, samePeer, sameTransaction⟩ := (matchesClient_iff consumed slot).mp matched
    rw [route] at ready
    exact .client result waiting samePeer sameTransaction ready rfl
  | late =>
    have late : e.inboundMatchesLastTerminal = true := by
      unfold resultRoute at route
      split at route
      · simp at route
      · split at route
        · assumption
        · split at route <;> simp at route
    simp only [inboundMatchesLastTerminal, Bool.and_eq_true, decide_eq_true_eq, peer, transaction]
      at late
    exact .late result late.1.2 late.2
  | unsolicited =>
    have observers : e.unsolicitedResultObservers.observers ≠ [] := by
      unfold resultRoute at route
      split at route
      · simp at route
      · split at route
        · simp at route
        · split at route
          · rename_i observed
            simpa [hasUnsolicitedResultObserver] using observed
          · simp at route
    cases decoded : EspNowResultCodec.decode inbound.message.envelope.transactionId
        inbound.message.data.bytes 0 with
    | error error => exact .undecoded result observers decoded
    | ok decodedResult =>
      refine .observed result observers decoded ?_
      simp only [routeResult, dispatchUnsolicitedResult, decoded]
      rfl
  | mailbox =>
    rw [route] at ready
    exact .mailbox result ready rfl

/-- In every state of a run: a message for which a consumer is ready leaves the runtime and
    goes to exactly one consumer; without one nothing changes. -/
theorem consumed_message_kept (config : Configuration) (random : UInt64)
    (moves : EndpointMoves (setup config random) e) (env : EndpointEnvironment) :
    (∀ inbound, e.runtime.peekApplicationMessage = some inbound → e.ConsumerReady inbound →
        e.ConsumedOnce env inbound (e.processApplicationMessage env)) ∧
      ((∀ inbound, e.runtime.peekApplicationMessage = some inbound → ¬ e.ConsumerReady inbound) →
        e.processApplicationMessage env = e) := by
  constructor
  · intro inbound peeked ready
    have taken := (e.runtime.takeApplicationMessage_peek).1.trans peeked
    have opened := not_or.mp fun closed => (gate_iff moves peeked).mp closed ready
    have consumed : e.Consumes inbound := ⟨opened.1, opened.2, taken⟩
    obtain ⟨known, identity, _⟩ := peeked_valid moves peeked
    rcases ready with ⟨command, lane, ready⟩ | ⟨result, ready⟩
    · obtain ⟨taker, found⟩ := commandLane_of_ready known identity.2.1 command ready
      rw [processApplicationMessage_command env consumed command found]
      have once := acceptCommand_once { e with runtime := e.runtime.takeApplicationMessage.2 } env
        inbound taker
      refine ⟨once.runtime, _, .lane command (commandLane_some found)
        (accept_true (commandLane_accepts found) _ _) once.lanes, once.consumed.trans ?_⟩
      exact List.filter_cons_of_pos rfl
    · have once := routeResult_once { e with runtime := e.runtime.takeApplicationMessage.2 } env
        inbound e.resultRoute
      have destination := result_destination env consumed result ready
      rw [processApplicationMessage_result env consumed result] at destination ⊢
      refine ⟨once.runtime, _, destination, once.consumed.trans ?_⟩
      exact List.filter_cons_of_pos rfl
  · intro unready
    unfold processApplicationMessage
    split
    · rfl
    · rename_i opened
      simp only [not_or] at opened
      split
      · rfl
      · rename_i inbound runtime taken
        have peeked := (e.runtime.takeApplicationMessage_peek).1
        rw [taken] at peeked
        have closed := (gate_iff moves peeked.symm).mpr (unready inbound peeked.symm)
        exact absurd closed (not_or.mpr opened.2)

end EspNowNetProtocolComponent

theorem consumed_result_kept :
    resultAfterAck.runtime.peekApplicationMessage = some (sampleResult 2) ∧
      resultAfterAck.ConsumedOnce { nowMs := 5252 } (sampleResult 2)
        (resultAfterAck.processApplicationMessage { nowMs := 5252 }) :=
  have peeked : resultAfterAck.runtime.peekApplicationMessage = some (sampleResult 2) := by
    decide +kernel
  have route : resultAfterAck.resultRoute = .client 0 := by decide +kernel
  have free : resultAfterAck.notification.ready = false := by decide +kernel
  have ready : resultAfterAck.ConsumerReady (sampleResult 2) := Or.inr ⟨rfl, by rw [route]; exact free⟩
  ⟨peeked, (consumed_message_kept observedConfiguration 1 resultAfterAck_moves { nowMs := 5252 }).1
    (sampleResult 2) peeked ready⟩

end EspNowNet
