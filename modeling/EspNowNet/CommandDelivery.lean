import EspNowNet.CommandRoundTrip
import EspNowNet.ClientReboot
import EspNowNet.Library.Since

/- The life of a command from its start on. A slot is given one command at a time, and each ends
   once; what a lane of the peer reads is the command that `start_command` was called with. -/
namespace EspNowNet
open EspNowNetProtocolComponent GuardedInvariant Holdings

/-- The command a slot is given, or its end. -/
def slotReading : EndpointEvent → Option (Fin 2 × Option (PeerIndex × TransactionId))
  | .commandStarted slot peer transactionId => some (slot, some (peer, transactionId))
  | .commandFinished slot _ _ _ | .commandCancelled slot _ _ _ => some (slot, none)
  | _ => none

/-- The message that was started last says this command. -/
def SaysCommand (older : List EndpointEvent) (peer : PeerIndex) (command : NetCommand) : Prop :=
  ∃ envelope encoded rest, older = .messageStarted peer envelope encoded.bytes :: rest ∧
    envelope.kind = .command ∧ envelope.transactionId = command.transactionId ∧
    EspNowCommandCodec.encode command = .ok encoded

/-- A command is started in a free slot, right after the message that says it; it ends in the slot
    that was given it, by a result of its own transaction or by its cancellation. -/
def InItsSlot (older : List EndpointEvent) : EndpointEvent → Prop
  | .commandStarted slot peer transactionId => held slotReading slot older = none ∧
      ∃ command, command.Valid ∧ command.transactionId = transactionId ∧
        SaysCommand older peer command
  | .commandFinished slot peer result _ =>
    held slotReading slot older = some (peer, result.transactionId)
  | .commandCancelled slot peer transactionId _ =>
    held slotReading slot older = some (peer, transactionId)
  | _ => True

/-- The slot was last given this command, and it has not ended since. -/
def GivenLast (history : List EndpointEvent) (slot : Fin 2) (peer : PeerIndex)
    (command : NetCommand) : Prop :=
  Since.Holds
    (fun older event => event = .commandStarted slot peer command.transactionId ∧
      SaysCommand older peer command)
    (fun event => ∀ change, slotReading event ≠ some (slot, change)) history

def CommandClient.openCommand (client : CommandClient) : Option (PeerIndex × TransactionId) :=
  if client.state = .idle then none else some (client.peer, client.command.transactionId)

/-- The history knows which command each slot is busy with, and an idle slot has none. -/
structure SlotsInOrder (clients : Fin 2 → CommandClient) (history : List EndpointEvent) : Prop where
  read : ∀ slot, held slotReading slot history = (clients slot).openCommand
  stored : ∀ slot, (clients slot).state ≠ .idle →
    GivenLast history slot (clients slot).peer (clients slot).command
  cleared : ∀ slot, (clients slot).state = .idle → (clients slot).command.transactionId = 0
  each : Throughout InItsSlot history

/-- The event opens and ends no command. -/
abbrev EndpointEvent.OffSlots (event : EndpointEvent) : Prop := slotReading event = none

theorem EndpointEvent.OffSlots.inItsSlot {event : EndpointEvent} (off : event.OffSlots)
    (older : List EndpointEvent) : InItsSlot older event := by
  cases event <;> trivial

theorem EndpointEvent.Incidental.offSlots {event : EndpointEvent} (aside : event.Incidental) :
    event.OffSlots := by
  cases event <;> first | rfl | exact aside.elim

theorem EndpointEvent.TurnsOff.offSlots {event : EndpointEvent} (off : event.TurnsOff) :
    event.OffSlots := by
  cases event <;> first | rfl | exact off.elim

section Slots
variable {clients : Fin 2 → CommandClient} {history : List EndpointEvent}

theorem SlotsInOrder.busy (inOrder : SlotsInOrder clients history) {slot : Fin 2}
    (busy : (clients slot).state ≠ .idle) : held slotReading slot history =
      some ((clients slot).peer, (clients slot).command.transactionId) := by
  rw [inOrder.read, CommandClient.openCommand, if_neg busy]

theorem SlotsInOrder.aside (inOrder : SlotsInOrder clients history) {events : List EndpointEvent}
    (off : ∀ event ∈ events, event.OffSlots) : SlotsInOrder clients (events ++ history) := by
  refine ⟨fun slot => ?_, fun slot busy => ?_, inOrder.cleared, ?_⟩
  · rw [held_append_silent off, inOrder.read]
  · apply (inOrder.stored slot busy).append
    intro later member change told
    exact absurd ((off later member).symm.trans told) (by simp)
  · exact inOrder.each.append fun event member past => (off event member).inItsSlot past

/-- A slot may change in what does not bear on its command. -/
theorem SlotsInOrder.kept (inOrder : SlotsInOrder clients history) {slot : Fin 2}
    {client : CommandClient} (busy : (clients slot).state ≠ .idle) (still : client.state ≠ .idle)
    (peer : client.peer = (clients slot).peer) (command : client.command = (clients slot).command) :
    SlotsInOrder (Function.update clients slot client) history := by
  refine ⟨fun other => ?_, fun other engaged => ?_, fun other idle => ?_, inOrder.each⟩
  · by_cases here : other = slot
    · subst here
      rw [Function.update_self, inOrder.busy busy, CommandClient.openCommand, if_neg still, peer,
        command]
    · rw [Function.update_of_ne here, inOrder.read]
  · by_cases here : other = slot
    · subst here
      rw [Function.update_self, peer, command]
      exact inOrder.stored other busy
    · rw [Function.update_of_ne here] at engaged ⊢
      exact inOrder.stored other engaged
  · by_cases here : other = slot
    · subst here
      rw [Function.update_self] at idle
      exact absurd idle still
    · rw [Function.update_of_ne here] at idle ⊢
      exact inOrder.cleared other idle

theorem SlotsInOrder.changed (inOrder : SlotsInOrder clients history) {event : EndpointEvent}
    {slot : Fin 2} {client : CommandClient}
    (reading : slotReading event = some (slot, client.openCommand))
    (given : client.state ≠ .idle →
      event = .commandStarted slot client.peer client.command.transactionId ∧
        SaysCommand history client.peer client.command)
    (cleared : client.state = .idle → client.command.transactionId = 0)
    (fits : InItsSlot history event) :
    SlotsInOrder (Function.update clients slot client) (event :: history) := by
  refine ⟨fun other => ?_, fun other busy => ?_, fun other idle => ?_,
    throughout_cons.mpr ⟨fits, inOrder.each⟩⟩
  · rw [held_cons reading]
    by_cases here : slot = other
    · subst here
      rw [if_pos rfl, Function.update_self]
    · rw [if_neg here, Function.update_of_ne (Ne.symm here), inOrder.read other]
  · rw [GivenLast, Since.holds_cons]
    by_cases here : other = slot
    · subst here
      rw [Function.update_self] at busy ⊢
      exact Or.inl (given busy)
    · rw [Function.update_of_ne here] at busy ⊢
      refine Or.inr ⟨fun change told => ?_, inOrder.stored other busy⟩
      exact here (Prod.mk.inj (Option.some.inj (told.symm.trans reading))).1
  · by_cases here : other = slot
    · subst here
      rw [Function.update_self] at idle ⊢
      exact cleared idle
    · rw [Function.update_of_ne here] at idle ⊢
      exact inOrder.cleared other idle

end Slots

section Steps
variable {e e' : EspNowNetProtocolComponent}

/-- The slots of an endpoint are as its history says. -/
def EspNowNetProtocolComponent.InOrder (e : EspNowNetProtocolComponent) : Prop :=
  SlotsInOrder e.clients e.history

namespace EspNowNetProtocolComponent

theorem InOrder.record (inOrder : e.InOrder) {event : EndpointEvent} (off : event.OffSlots) :
    (e.record event).InOrder := by
  have single : ∀ other ∈ [event], EndpointEvent.OffSlots other :=
    List.forall_mem_singleton.mpr off
  exact SlotsInOrder.aside inOrder single

theorem InOrder.finish (inOrder : e.InOrder) {slot : Fin 2} {result : NetResult}
    (busy : (e.clients slot).state ≠ .idle)
    (transaction : result.transactionId = (e.clients slot).command.transactionId) :
    (e.finishCommandClient result slot).InOrder := by
  obtain ⟨notification, same⟩ := finishCommandClient_eq e result slot
  rw [same]
  refine SlotsInOrder.changed inOrder rfl (fun engaged => absurd rfl engaged) (fun _ => rfl) ?_
  rw [InItsSlot, transaction]
  exact SlotsInOrder.busy inOrder busy

theorem InOrder.cancelSlot (inOrder : e.InOrder) {slot : Fin 2}
    (busy : (e.clients slot).state ≠ .idle) : (e.cancelSlot slot).InOrder := by
  rw [cancelSlot_eq e slot]
  exact SlotsInOrder.changed inOrder rfl (fun engaged => absurd rfl engaged) (fun _ => rfl)
    (SlotsInOrder.busy inOrder busy)

theorem InOrder.disableRuntime (inOrder : e.InOrder) : e.disableRuntime.InOrder := by
  apply disableRuntime_keeps ?_ ?_ inOrder
  · intro e e' off inOrder
    obtain ⟨events, history, turnsOff⟩ := off.history
    unfold InOrder
    rw [history, off.clients]
    exact SlotsInOrder.aside inOrder fun event member => (turnsOff event member).offSlots
  · intro e slot identified inOrder
    apply inOrder.cancelSlot
    intro idle
    exact identified (SlotsInOrder.cleared inOrder slot idle)

theorem startSender_says {sender : ReliableMessageSender} {peer : PeerIndex}
    {command : NetCommand} {encoded : BoundedBytes 511} (older : List EndpointEvent)
    (encodes : EspNowCommandCodec.encode command = .ok encoded)
    (run : e.sender.start peer .command command.transactionId (some encoded.bytes) =
      (true, sender)) :
    SaysCommand (.messageStarted peer sender.envelope sender.message.bytes :: older) peer
      command := by
  obtain ⟨stored, same, _, _, _, _, _, _, loaded⟩ := ReliableMessageSender.start_true run
  refine ⟨sender.envelope, encoded, older, ?_, ?_, ?_, encodes⟩ <;> rw [loaded]
  · rw [Option.some.inj same]
    rfl
  · rfl
  · rfl

theorem inOrder_step (coherent : e.Coherent) (inOrder : e.InOrder) (step : EndpointStep e e') :
    e'.InOrder := by
  cases step with
  | bookkeeping kept =>
    obtain ⟨_, _, _, _, _, events, aside, rfl⟩ := kept.eq
    exact SlotsInOrder.aside inOrder fun event member => (aside event member).offSlots
  | messageTaken taken consumption =>
    obtain ⟨_, events, aside, rfl⟩ := consumption.eq
    exact SlotsInOrder.aside inOrder fun event member => (aside event member).offSlots
  | startRefused | enabled | radioPolled | recoveryRequested | completionIgnored
    | heartbeatReceived | frameAccepted | senderLooped | senderReleased
    | ackDropped | frameRefused => exact inOrder
  | started | senderReset | discarded | completionReleases | messageReady | ackSent | frameSent
    | heartbeatSent => exact InOrder.record inOrder rfl
  | @commandStarted sender peer command encoded nowMs enabled free idle valid encodes run =>
    have noted : SlotsInOrder e.clients
        (.messageStarted peer sender.envelope sender.message.bytes :: e.history) :=
      InOrder.record inOrder rfl
    have bare : held slotReading e.nextSlot
        (.messageStarted peer sender.envelope sender.message.bytes :: e.history) = none := by
      rw [noted.read, CommandClient.openCommand, if_pos idle]
    have told := startSender_says e.history encodes run
    exact noted.changed rfl (fun _ => ⟨rfl, told⟩) (fun vacant => by cases vacant)
      ⟨bare, command, valid, rfl, told⟩
  | completionDelivered => exact InOrder.record (InOrder.record inOrder rfl) rfl
  | cancelled slot busy => exact inOrder.cancelSlot busy
  | disabled enabled => exact inOrder.disableRuntime
  | externalDeadline slot busy =>
    have kept : InOrder (e.setClient slot { e.clients slot with externalDeadline := true }) :=
      SlotsInOrder.kept inOrder busy busy rfl rfl
    exact InOrder.record kept rfl
  | driver event => cases event <;> exact InOrder.record inOrder rfl
  | @ackReceived received radio runtime ack taken run handed =>
    obtain ⟨outcome, settled, same⟩ := acceptDeliveryAck_eq
      { e with radio, runtime := { runtime with deliveryAck := none } } received.peerIndex ack
    rw [same]
    refine SlotsInOrder.aside (InOrder.record inOrder rfl) fun event member => ?_
    rcases settled with rfl | rfl | rfl
    · cases member
    · exact List.mem_singleton.mp member ▸ rfl
    · exact List.mem_singleton.mp member ▸ rfl
  | progressQueued peer progress =>
    obtain ⟨notification, same⟩ := queueCommandResultNotification_eq e peer _
    rw [same]
    exact inOrder
  | finished slot waiting terminal transaction => exact inOrder.finish (by simp [waiting]) transaction
  | deliveryFailed message nowMs owned ended =>
    have released : e.releaseSender.InOrder := inOrder
    have waiting := (coherent.owned owned).1
    have busy : (e.releaseSender.clients e.commandSenderSlot).state ≠ .idle := by
      change (e.clients e.commandSenderSlot).state ≠ .idle
      simp [waiting]
    exact released.finish busy rfl
  | delivered owned acknowledged =>
    have waiting := (coherent.owned owned).1
    refine SlotsInOrder.kept inOrder ?_ (fun idle => by cases idle) rfl rfl
    simp [waiting]

theorem inOrder_moves {config : Configuration} {random : UInt64}
    (moves : EndpointMoves (setup config random) e) : e.InOrder := by
  induction moves with
  | refl => exact ⟨fun _ => rfl, fun _ busy => absurd rfl busy, fun _ _ => rfl, throughout_nil⟩
  | tail earlier move hyp =>
    cases move with
    | step step => exact inOrder_step (coherent_moves earlier) hyp step
    | notification step =>
      cases step with
      | cleared => exact hyp
      | taken | delivered => exact InOrder.record hyp rfl

end EspNowNetProtocolComponent

end Steps

theorem InItsSlot.fits {older : List EndpointEvent} {event : EndpointEvent}
    (inSlot : InItsSlot older event) : Fits slotReading older event := by
  intro slot item read
  cases event with
  | commandStarted =>
    obtain ⟨rfl, rfl⟩ := Prod.mk.inj (Option.some.inj read)
    simp [inSlot.1]
  | commandFinished | commandCancelled =>
    obtain ⟨rfl, rfl⟩ := Prod.mk.inj (Option.some.inj read)
    simp only [InItsSlot] at inSlot
    simp [inSlot]
  | _ => cases read

def commandsStarted (slot : Fin 2) (history : List EndpointEvent) : Nat :=
  history.countP (gives slotReading slot)

def commandsEnded (slot : Fin 2) (history : List EndpointEvent) : Nat :=
  history.countP (takes slotReading slot)

/-- A free slot stores the command, and the history tells it right after the message that says
    it. -/
structure CommandGiven (e : EspNowNetProtocolComponent) (slot : Fin 2) (peer : PeerIndex)
    (command : NetCommand) (nowMs : UInt32) (after : EspNowNetProtocolComponent) : Prop where
  free : (e.clients slot).state = .idle
  valid : command.Valid
  stored : after.clients = Function.update e.clients slot
    { command, peer, startedMs := nowMs, state := .waitingForDeliveryAck }
  said : ∃ envelope encoded, envelope.kind = .command ∧
    envelope.transactionId = command.transactionId ∧
    EspNowCommandCodec.encode command = .ok encoded ∧
    after.history = .commandStarted slot peer command.transactionId ::
      .messageStarted peer envelope encoded.bytes :: e.history

/-- A `start_command` that is accepted starts the message that says its command, and gives the
    command to a free slot. -/
theorem startCommand_starts (e : EspNowNetProtocolComponent) (peer : PeerIndex)
    (command : NetCommand) (nowMs : UInt32)
    (accepted : (e.startCommand peer command nowMs).1 = true) :
    CommandGiven e e.nextSlot peer command nowMs (e.startCommand peer command nowMs).2 := by
  unfold startCommand at accepted ⊢
  split
  · rename_i refused
    rw [if_pos refused] at accepted
    cases accepted
  · rename_i admitted
    rw [if_neg admitted] at accepted
    simp only [not_or, Decidable.not_not] at admitted
    obtain ⟨can, _, valid⟩ := admitted
    split
    · rename_i failed
      simp [failed] at accepted
    · rename_i encoded encodes
      rw [encodes] at accepted
      obtain ⟨sender, ⟨_, start⟩ | ⟨run, start⟩⟩ :=
        startSender_cases e peer .command command.transactionId (some encoded.bytes)
      · simp [start] at accepted
      · obtain ⟨stored, same, _, _, _, _, _, _, loaded⟩ := ReliableMessageSender.start_true run
        have data : sender.message.bytes = encoded.bytes := by
          rw [loaded, Option.some.inj same]
          rfl
        rw [start]
        refine ⟨nextSlot_idle can, valid, rfl, sender.envelope, encoded, ?_, ?_, encodes, ?_⟩
        · rw [loaded]
          rfl
        · rw [loaded]
          rfl
        · simp only [record, setClient, data]

/-- Whenever it is called, a command that `start_command` accepts is given to a free slot. A slot
    stores the command it was last given, which ends exactly once, as the command it is, before the
    slot is given another; only the command the slot is busy with has not ended. -/
theorem commands_end_once (config : Configuration) (random : UInt64)
    (operations : List EndpointOperation) (slot : Fin 2) :
    let e := (setup config random).run operations
    Throughout InItsSlot e.history ∧
      commandsStarted slot e.history =
        commandsEnded slot e.history + (if (e.clients slot).state = .idle then 0 else 1) ∧
      ((e.clients slot).state ≠ .idle →
        GivenLast e.history slot (e.clients slot).peer (e.clients slot).command) ∧
      ∀ (called : EspNowNetProtocolComponent) peer command nowMs,
        (called.startCommand peer command nowMs).1 = true → ∃ given,
          CommandGiven called given peer command nowMs (called.startCommand peer command nowMs).2 := by
  intro e
  have inOrder := inOrder_moves (run_moves (setup config random) operations)
  have balance := given_balance (fun event older present =>
    (inOrder.each event older present).fits) slot
  refine ⟨inOrder.each, ?_, inOrder.stored slot, fun called peer command nowMs accepted => ?_⟩
  · rw [inOrder.read] at balance
    rw [commandsStarted, balance, commandsEnded]
    by_cases idle : (e.clients slot).state = .idle
    · simp [e, CommandClient.openCommand, idle]
    · simp [e, CommandClient.openCommand, idle]
  · exact ⟨called.nextSlot, startCommand_starts called peer command nowMs accepted⟩

/- From the slot to the lane of the peer -/

/-- A slot was given a command, and this message was started to say it. -/
def StartedFor (history : List EndpointEvent) (slot : Fin 2) (message : OutboundMessage) : Prop :=
  ∃ older, .commandStarted slot message.peerIndex message.envelope.transactionId ::
    .messageStarted message.peerIndex message.envelope message.data :: older <:+ history

/- The call that a command comes from -/

/-- This call of `start_command` stands in the run from the origin to the endpoint, and it started
    the message. -/
structure StartedByCall (origin endpoint : EspNowNetProtocolComponent) (message : OutboundMessage)
    (e : EspNowNetProtocolComponent) (peer : PeerIndex) (command : NetCommand) (nowMs : UInt32) :
    Prop where
  before : EndpointMoves origin e
  accepted : (e.startCommand peer command nowMs).1 = true
  after : EndpointMoves (e.startCommand peer command nowMs).2 endpoint
  started : (startedMessages (e.startCommand peer command nowMs).2.history).head? = some message

/-- The event gives no slot a command. -/
def EndpointEvent.StartsNone : EndpointEvent → Prop
  | .commandStarted _ _ _ => False
  | _ => True

/-- What a step adds to the history gives no slot a command, or the step is a `start_command`. -/
inductive StartStep (e e' : EspNowNetProtocolComponent) : Prop
  | aside {events : List EndpointEvent} (history : e'.history = events ++ e.history)
      (none : ∀ event ∈ events, event.StartsNone)
  | called {peer : PeerIndex} {command : NetCommand} {nowMs : UInt32}
      (call : e.startCommand peer command nowMs = (true, e'))

section Calls
variable {e e' : EspNowNetProtocolComponent}

theorem StartStep.silent (history : e'.history = e.history) : StartStep e e' :=
  .aside (history.trans (List.nil_append _).symm) (by simp)

theorem StartStep.noted {event : EndpointEvent} (history : e'.history = event :: e.history)
    (none : event.StartsNone) : StartStep e e' :=
  .aside (history.trans List.singleton_append.symm) (by simpa using none)

theorem StartStep.notedTwice {later earlier : EndpointEvent}
    (history : e'.history = later :: earlier :: e.history) (laterNone : later.StartsNone)
    (earlierNone : earlier.StartsNone) : StartStep e e' := by
  have both : e'.history = [later, earlier] ++ e.history := history
  exact .aside both (by simp [laterNone, earlierNone])

theorem EndpointEvent.Incidental.startsNone {event : EndpointEvent} (aside : event.Incidental) :
    event.StartsNone := by
  cases event <;> trivial

theorem canStartCommand_of (enabled : e.runtimeEnabled = true)
    (free : e.reliableMessageOwner = .none) (idle : (e.clients e.nextSlot).state = .idle)
    (rested : e.sender.state = .idle) : e.canStartCommand = true := by
  have vacant : (e.clients 0).state = .idle ∨
      e.build.dualCommandClient = true ∧ (e.clients 1).state = .idle := by
    unfold nextSlot at idle
    split at idle
    · rename_i second
      exact Or.inr ⟨second.1, idle⟩
    · exact Or.inl idle
  simp [canStartCommand, enabled, vacant, free, rested]

theorem startCommand_accepts {sender : ReliableMessageSender} {peer : PeerIndex}
    {command : NetCommand} {encoded : BoundedBytes 511} (nowMs : UInt32)
    (enabled : e.runtimeEnabled = true) (free : e.reliableMessageOwner = .none)
    (idle : (e.clients e.nextSlot).state = .idle) (valid : command.Valid)
    (encodes : EspNowCommandCodec.encode command = .ok encoded)
    (run : e.sender.start peer .command command.transactionId (some encoded.bytes) =
      (true, sender)) :
    e.startCommand peer command nowMs = (true, ({ e with
      sender, commandSenderSlot := e.nextSlot, reliableMessageOwner := .commandClient
      clients := Function.update e.clients e.nextSlot
        { command, peer, startedMs := nowMs, state := .waitingForDeliveryAck } }.record
      (.messageStarted peer sender.envelope sender.message.bytes)).record
      (.commandStarted e.nextSlot peer command.transactionId)) := by
  obtain ⟨_, _, _, rested, known, _⟩ := ReliableMessageSender.start_true run
  have can := canStartCommand_of enabled free idle rested
  have admitted : ¬ (¬ e.canStartCommand ∨ peer = invalidPeerIndex ∨ ¬ command.Valid) := by
    simp [can, known, valid]
  rw [startCommand, if_neg admitted]
  simp only [encodes, startSender, run]
  rfl

theorem step_starts (step : EndpointStep e e') : StartStep e e' := by
  cases step with
  | bookkeeping kept =>
    obtain ⟨_, _, _, _, _, events, aside, rfl⟩ := kept.eq
    exact .aside rfl fun event member => (aside event member).startsNone
  | messageTaken taken consumption =>
    obtain ⟨_, events, aside, rfl⟩ := consumption.eq
    exact .aside rfl fun event member => (aside event member).startsNone
  | startRefused | enabled | radioPolled | recoveryRequested | completionIgnored
    | heartbeatReceived | frameAccepted | senderLooped | senderReleased
    | ackDropped | frameRefused | delivered => exact .silent rfl
  | started | senderReset | discarded | completionReleases | messageReady | ackSent | frameSent
    | heartbeatSent | externalDeadline => exact .noted rfl trivial
  | commandStarted nowMs enabled free idle valid encodes run =>
    exact .called (startCommand_accepts nowMs enabled free idle valid encodes run)
  | completionDelivered => exact .notedTwice rfl trivial trivial
  | cancelled slot busy =>
    rw [cancelSlot_eq e slot]
    exact .noted rfl trivial
  | disabled enabled =>
    obtain ⟨events, history, none⟩ := disableRuntime_events e EndpointEvent.StartsNone trivial
      (fun _ _ _ _ => trivial) (fun _ => trivial) trivial
    exact .aside history none
  | driver event => cases event <;> exact .noted rfl trivial
  | @ackReceived received radio runtime ack taken run handed =>
    obtain ⟨outcome, settled, same⟩ := acceptDeliveryAck_eq
      { e with radio, runtime := { runtime with deliveryAck := none } } received.peerIndex ack
    rw [same]
    rcases settled with rfl | rfl | rfl
    · exact .noted rfl trivial
    · exact .notedTwice rfl trivial trivial
    · exact .notedTwice rfl trivial trivial
  | progressQueued peer progress =>
    obtain ⟨notification, same⟩ := queueCommandResultNotification_eq e peer _
    rw [same]
    exact .silent rfl
  | finished slot waiting terminal transaction =>
    obtain ⟨notification, same⟩ := finishCommandClient_eq e _ slot
    rw [same]
    exact .noted rfl trivial
  | deliveryFailed message nowMs owned ended =>
    obtain ⟨notification, same⟩ := finishCommandClient_eq e.releaseSender _ e.commandSenderSlot
    rw [failCommandClient, same]
    exact .noted rfl trivial

theorem move_starts (move : EndpointMove e e') : StartStep e e' := by
  cases move with
  | step step => exact step_starts step
  | notification step =>
    cases step with
    | taken | delivered => exact .noted rfl trivial
    | cleared => exact .silent rfl

/-- The command of every slot was an argument of `start_command`. -/
theorem started_by_call {origin : EspNowNetProtocolComponent} (bare : origin.history = [])
    (moves : EndpointMoves origin e) {slot : Fin 2} {message : OutboundMessage}
    (started : StartedFor e.history slot message) :
    ∃ before peer command nowMs, StartedByCall origin e message before peer command nowMs := by
  induction moves with
  | refl =>
    obtain ⟨older, present⟩ := started
    rw [bare] at present
    exact absurd (List.suffix_nil.mp present) (List.cons_ne_nil _ _)
  | @tail middle endpoint earlier move hyp =>
    have later (old : StartedFor middle.history slot message) : ∃ before peer command nowMs,
        StartedByCall origin endpoint message before peer command nowMs := by
      obtain ⟨before, peer, command, nowMs, call⟩ := hyp old
      exact ⟨before, peer, command, nowMs, { call with after := call.after.tail move }⟩
    obtain ⟨older, present⟩ := started
    cases move_starts move with
    | @aside events history none =>
      rw [history] at present
      have others : ∀ event ∈ events, ¬ ¬ event.StartsNone :=
        fun event member starts => starts (none event member)
      exact later ⟨older, suffix_of_aside others id present⟩
    | @called peer command nowMs call =>
      have accepted : (middle.startCommand peer command nowMs).1 = true := by rw [call]
      obtain ⟨envelope, encoded, _, _, _, history⟩ :=
        (startCommand_starts middle peer command nowMs accepted).said
      rw [call] at history
      rw [history] at present
      rcases List.suffix_cons_iff.mp present with same | within
      · obtain ⟨first, rest⟩ := List.cons.inj same
        obtain ⟨second, _⟩ := List.cons.inj rest
        injection second with peer' envelope' data
        refine ⟨middle, peer, command, nowMs, earlier, accepted, by rw [call], ?_⟩
        rw [call, history]
        simp only [startedMessages, List.filterMap_cons, EndpointEvent.startedMessage,
          List.head?_cons, ← peer', ← envelope', ← data]
      · rcases List.suffix_cons_iff.mp within with same | old
        · cases (List.cons.inj same).1
        · exact later ⟨older, old⟩

/-- Whatever command the call was made with, the message says it. -/
theorem StartedByCall.says {origin : EspNowNetProtocolComponent} {message : OutboundMessage}
    {before : EspNowNetProtocolComponent} {peer : PeerIndex} {command : NetCommand}
    {nowMs : UInt32} (call : StartedByCall origin e message before peer command nowMs) :
    message.peerIndex = peer ∧ command.Valid ∧
      message.envelope.transactionId = command.transactionId ∧
      ∃ encoded, EspNowCommandCodec.encode command = .ok encoded ∧ message.data = encoded.bytes := by
  have given := startCommand_starts before peer command nowMs call.accepted
  obtain ⟨envelope, encoded, _, transaction, encodes, history⟩ := given.said
  have started := call.started
  rw [history] at started
  simp only [startedMessages, List.filterMap_cons, EndpointEvent.startedMessage, List.head?_cons,
    Option.some.injEq] at started
  subst started
  exact ⟨rfl, given.valid, transaction, encoded, encodes, rfl⟩

/-- A message of the endpoint that came for a slot comes from a call of `start_command`, and what is
    received of it is read as the very command of the call. -/
structure ReadAsCalled (origin endpoint : EspNowNetProtocolComponent) (message : OutboundMessage)
    (inbound : EspNowInboundApplicationMessage) : Prop where
  called : ∀ slot, StartedFor endpoint.history slot message →
    ∃ e command nowMs, StartedByCall origin endpoint message e message.peerIndex command nowMs
  read : ∀ e peer command nowMs, StartedByCall origin endpoint message e peer command nowMs →
    message.peerIndex = peer ∧ InboundCommandDispatcher.decodeCommand inbound = .ok command

theorem readAsCalled {origin : EspNowNetProtocolComponent} (bare : origin.history = [])
    (moves : EndpointMoves origin e) {message : OutboundMessage}
    {inbound : EspNowInboundApplicationMessage}
    (envelope : message.envelope = inbound.message.envelope)
    (data : message.data = inbound.message.data.bytes) : ReadAsCalled origin e message inbound where
  called := by
    intro slot started
    obtain ⟨before, peer, command, nowMs, call⟩ := started_by_call bare moves started
    obtain ⟨rfl, _⟩ := call.says
    exact ⟨before, command, nowMs, call⟩
  read := by
    intro before peer command nowMs call
    obtain ⟨receiver, valid, transaction, encoded, encodes, same⟩ := call.says
    refine ⟨receiver, ?_⟩
    rw [InboundCommandDispatcher.decodeCommand, ← envelope, ← data, transaction, same]
    exact EspNowCommandCodec.decode_encoded valid encodes

end Calls

section Network
variable {ι : Type} [DecidableEq ι] {d : Deployment ι} {n : Network ι}

/-- A command that a lane is given is a message of an endpoint that addresses this one, under the
    index configured for it and byte for byte; if it came for one of its slots, a `start_command` has
    started it, and the lane decodes exactly the command of that call. -/
theorem accepted_command_as_started (run : NetworkMoves d d.begin n)
    (few : ∀ i, (startedMessages (n i).history).length < 2 ^ 32 - 1) {b : ι} {lane : InboundLane}
    {inbound : EspNowInboundApplicationMessage}
    (accepted : .commandAccepted lane inbound ∈ (n b).history) :
    ∃ a, ∃ message ∈ startedMessages (n a).history,
      message.envelope = inbound.message.envelope ∧ message.data = inbound.message.data.bytes ∧
      d.peerAddress a message.peerIndex = some (d.address b) ∧
      (d.config b).peers.indexForAddress (d.address a) = inbound.peerIndex ∧
      ReadAsCalled (d.begin a) (n a) message inbound := by
  have consistent := consistent_moves run
  obtain ⟨reported, _⟩ := (accounted_moves (consistent.runs b)).explained _ accepted
  have ready := mem_readyMessages.mpr reported
  obtain ⟨a, out, own, _⟩ := consistent.sender ready
  obtain ⟨message, member, envelope, data, addressed, from'⟩ :=
    consistent.origin (few a) ready own
  exact ⟨a, message, member, envelope, data, addressed, from',
    readAsCalled rfl (consistent.runs a) envelope data⟩

end Network

/-- The command that the remote node of the sample pair is given. -/
def deliveredCommand : EspNowInboundApplicationMessage where
  peerIndex := 0
  message := ⟨⟨.command, EspNowFrameCodec.flagAckRequired, 2, firstDeclared, 1⟩,
    ⟨[1, 1, 0, 1, 0, 0, 0, 0, 3, 232, 100, 110], by decide⟩⟩

theorem accepted_command_of_second_boot :
    ∃ a, ∃ message ∈ startedMessages (ownNetwork a).history,
      message.envelope = deliveredCommand.message.envelope ∧
      message.data = deliveredCommand.message.data.bytes ∧
      samplePair.peerAddress a message.peerIndex = some (samplePair.address .remote) ∧
      (samplePair.config .remote).peers.indexForAddress (samplePair.address a) =
        deliveredCommand.peerIndex ∧
      ReadAsCalled (samplePair.begin a) (ownNetwork a) message deliveredCommand :=
  accepted_command_as_started (NodePair.networkMoves ownNetwork_moves)
    (forall_party.mpr (by decide +kernel))
    (by decide +kernel : .commandAccepted .command deliveredCommand ∈ (ownNetwork .remote).history)

end EspNowNet
