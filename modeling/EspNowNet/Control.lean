import EspNowNet.Component

/- The control API of the endpoint: the operations an application, an automation or a
   callback may call at any time. -/
namespace EspNowNet

/-- Every busy slot holds a command that could be started. Slot 1 belongs to dual builds. -/
structure ClientsValid (dual : Bool) (clients : Fin 2 → CommandClient) : Prop where
  command : ∀ slot, (clients slot).state ≠ .idle → (clients slot).command.Valid
  peer : ∀ slot, (clients slot).state ≠ .idle → (clients slot).peer ≠ invalidPeerIndex
  single : dual = false → (clients 1).state = .idle

namespace EspNowNetProtocolComponent

/-- `sender_.start` for any of its four callers. -/
def startSender (e : EspNowNetProtocolComponent) (peer : PeerIndex) (kind : EspNowFrameKind)
    (transactionId : TransactionId) (data : Option (List UInt8)) :
    Bool × EspNowNetProtocolComponent :=
  match e.sender.start peer kind transactionId data with
  | (false, sender) => (false, { e with sender })
  | (true, sender) =>
    (true, { e with sender }.record (.messageStarted peer sender.envelope sender.message.bytes))

def startReliableMessage (e : EspNowNetProtocolComponent) (peer : PeerIndex)
    (kind : EspNowFrameKind) (transactionId : TransactionId) (data : Option (List UInt8)) :
    Bool × EspNowNetProtocolComponent :=
  if e.reliableMessageOwner ≠ .none then (false, e)
  else
    match e.startSender peer kind transactionId data with
    | (false, e) => (false, e)
    | (true, e) => (true, { e with reliableMessageOwner := .apiCaller })

def canStartCommand (e : EspNowNetProtocolComponent) : Bool :=
  e.runtimeEnabled &&
    ((e.clients 0).state = .idle || e.build.dualCommandClient && (e.clients 1).state = .idle) &&
    e.reliableMessageOwner = .none && e.sender.state = .idle

/-- The slot the next command takes: 1 only while 0 is busy in a dual-client build. -/
def nextSlot (e : EspNowNetProtocolComponent) : Fin 2 :=
  if e.build.dualCommandClient ∧ (e.clients 0).state ≠ .idle then 1 else 0

def startCommand (e : EspNowNetProtocolComponent) (peer : PeerIndex) (command : NetCommand)
    (nowMs : UInt32) : Bool × EspNowNetProtocolComponent :=
  if ¬ e.canStartCommand ∨ peer = invalidPeerIndex ∨ ¬ command.Valid then (false, e)
  else
    match EspNowCommandCodec.encode command with
    | .error _ => (false, e)
    | .ok encoded =>
      let slot := e.nextSlot
      match e.startSender peer .command command.transactionId (some encoded.bytes) with
      | (false, e) => (false, e)
      | (true, e) =>
        (true, { e.setClient slot
            { command, peer, startedMs := nowMs, state := .waitingForDeliveryAck } with
          commandSenderSlot := slot, reliableMessageOwner := .commandClient }.record
            (.commandStarted slot peer command.transactionId))

/-- The id counter skips zero and stays below the tag in the top bits. -/
def nextDeclarativeId (id : UInt64) : UInt64 :=
  if id + 1 = 0 ∨ id + 1 > 0x0FFFFFFFFFFFFFFF then 1 else id + 1

def declarativeCommand (e : EspNowNetProtocolComponent)
    (deviceId resource name payload : List UInt8) (timeoutMs : UInt32) : Option NetCommand :=
  let device := BoundedText.assign deviceId
  let resourceText := BoundedText.assign resource
  let nameText := BoundedText.assign name
  let body := BoundedBytes.assign (cString payload)
  let request : NetCommand :=
    { transactionId := 0xE000000000000000 ||| e.nextDeclarativeTransactionId, timeoutMs
      deviceId := device.2, resource := resourceText.2, name := nameText.2, payload := body.2 }
  if device.1 ∧ resourceText.1 ∧ nameText.1 ∧ body.1 ∧ request.Valid then some request else none

def sendCommand (e : EspNowNetProtocolComponent)
    (peerId deviceId resource name payload : List UInt8) (timeoutMs nowMs : UInt32) :
    Bool × EspNowNetProtocolComponent :=
  let peer := e.radio.peers.indexForId peerId
  if timeoutMs = 0 ∨ peer = invalidPeerIndex then (false, e)
  else
    let request := e.declarativeCommand deviceId resource name payload timeoutMs
    let e := { e with
      nextDeclarativeTransactionId := nextDeclarativeId e.nextDeclarativeTransactionId }.record
        (.commandDeclared (0xE000000000000000 ||| e.nextDeclarativeTransactionId))
    match request with
    | none => (false, e)
    | some request => e.startCommand peer request nowMs

def startBackgroundResult (e : EspNowNetProtocolComponent) (peer : PeerIndex)
    (result : NetResult) : Bool × EspNowNetProtocolComponent :=
  if ¬ e.runtimeEnabled ∨ peer = invalidPeerIndex ∨ e.reliableMessageOwner ≠ .none ∨
      e.sender.state ≠ .idle ∨ e.background.completionReady ∨ result.consistent = false then
    (false, e)
  else
    match EspNowResultCodec.encode result with
    | .error _ => (false, e)
    | .ok encoded =>
      match e.startSender peer .result result.transactionId (some encoded.bytes) with
      | (false, e) => (false, e)
      | (true, e) =>
        (true, { e with
          reliableMessageOwner := .backgroundResult
          background := { e.background with transactionId := result.transactionId } })

def takeBackgroundResultCompletion (e : EspNowNetProtocolComponent) :
    Option (TransactionId × Bool) × EspNowNetProtocolComponent :=
  if ¬ e.background.completionReady then (none, e)
  else (some (e.background.transactionId, e.background.succeeded), { e with background := {} })

def resetSender (e : EspNowNetProtocolComponent) : EspNowNetProtocolComponent :=
  { e with sender := e.sender.reset, reliableMessageOwner := .none }.record
    (.senderReset e.reliableMessageOwner)

def takeApplicationMessage (e : EspNowNetProtocolComponent) :
    Option EspNowInboundApplicationMessage × EspNowNetProtocolComponent :=
  (e.resultMessage, { e with resultMessage := none })

/-- The busy slot with a transaction, slot 0 first. -/
def slotOf (e : EspNowNetProtocolComponent) (transactionId : TransactionId) : Option (Fin 2) :=
  if (e.clients 0).state ≠ .idle ∧ (e.clients 0).command.transactionId = transactionId then some 0
  else if e.build.dualCommandClient ∧ (e.clients 1).state ≠ .idle ∧
      (e.clients 1).command.transactionId = transactionId then some 1
  else none

def useExternalResultDeadline (e : EspNowNetProtocolComponent) (transactionId : TransactionId) :
    Bool × EspNowNetProtocolComponent :=
  if transactionId = 0 then (false, e)
  else
    match e.slotOf transactionId with
    | none => (false, e)
    | some slot =>
      (true, (e.setClient slot { e.clients slot with externalDeadline := true }).record
        (.externalDeadlineSet slot))

/-- Everything but the external deadline flag, which the next start overwrites. -/
def clearCommandClient (e : EspNowNetProtocolComponent) (slot : Fin 2) :
    EspNowNetProtocolComponent :=
  e.setClient slot { externalDeadline := (e.clients slot).externalDeadline }

/-- A result of the slot's command waits for its observers, or the other slot expects one too.
    Disabling drops both. -/
def resultExpected (e : EspNowNetProtocolComponent) (slot : Fin 2) : Bool :=
  e.runtimeEnabled &&
    (e.notification.ready && e.notification.peer = (e.clients slot).peer &&
        e.notification.result.transactionId = (e.clients slot).command.transactionId ||
      (e.clients slot.rev).state ≠ .idle && (e.clients slot.rev).peer = (e.clients slot).peer &&
        (e.clients slot.rev).command.transactionId = (e.clients slot).command.transactionId)

def cancelSlot (e : EspNowNetProtocolComponent) (slot : Fin 2) : EspNowNetProtocolComponent :=
  let e' :=
    if e.reliableMessageOwner = .commandClient ∧ e.commandSenderSlot = slot then
      { e with sender := e.sender.reset, reliableMessageOwner := .none }
    else e
  ({ e' with
    lastTerminalPeer := (e.clients slot).peer
    lastTerminalTransactionId := (e.clients slot).command.transactionId }.record
      (.commandCancelled slot (e.clients slot).peer (e.clients slot).command.transactionId
        (e.resultExpected slot)))
    |>.clearCommandClient slot

def cancelCommand (e : EspNowNetProtocolComponent) (transactionId : TransactionId) :
    Bool × EspNowNetProtocolComponent :=
  if transactionId = 0 then (false, e)
  else
    match e.slotOf transactionId with
    | none => (false, e)
    | some slot => (true, e.cancelSlot slot)

def discardRadioEvents (e : EspNowNetProtocolComponent) : EspNowNetProtocolComponent :=
  let markedQueued : Bool := e.transmission.owner ≠ .none ∧
    e.radio.sendCompletions.contents.any (·.frame = e.transmission.frame)
  { e with
    radio := { e.radio with
      receivedFrames := e.radio.receivedFrames.discard EspIdfEspNowEncryptedRadio.rxQueueCapacity
      sendCompletions :=
        e.radio.sendCompletions.discard
          EspIdfEspNowEncryptedRadio.sendCompletionQueueCapacity } }.record
    (.radioEventsDiscarded markedQueued)

def cancelBusy (e : EspNowNetProtocolComponent) (slot : Fin 2) : EspNowNetProtocolComponent :=
  if (e.clients slot).state ≠ .idle then (e.cancelCommand (e.clients slot).command.transactionId).2
  else e

/-- The transmission mark is cleared, whether or not its frame is still in the air. -/
def abandonTransmission (e : EspNowNetProtocolComponent) : EspNowNetProtocolComponent :=
  let abandoned := { e with transmission := { frame := e.transmission.frame } }
  if e.transmission.owner = .none then abandoned else abandoned.record .transmissionAbandoned

def cancelClients (e : EspNowNetProtocolComponent) : EspNowNetProtocolComponent :=
  let e := e.cancelBusy 0
  if e.build.dualCommandClient then e.cancelBusy 1 else e

def disableRuntime (e : EspNowNetProtocolComponent) : EspNowNetProtocolComponent :=
  let e := { e with
    runtimeEnabled := false
    heartbeat := if e.build.applicationHeartbeat then e.heartbeat.disable else e.heartbeat
    sender := e.sender.reset
    reliableMessageOwner := .none }.record .runtimeDisabled
  let e := e.cancelClients.abandonTransmission
  { e with
    notification := { e.notification with ready := false }
    resultMessage := none
    background := {} }.discardRadioEvents

def setRuntimeEnabled (e : EspNowNetProtocolComponent) (enabled : Bool) :
    EspNowNetProtocolComponent :=
  if e.runtimeEnabled = enabled then e
  else if enabled then { e with runtimeEnabled := true }
  else e.disableRuntime

def CancelledSince (older newer : List EndpointEvent) : Prop :=
  ∃ cancels : List EndpointEvent, newer = cancels ++ older ∧
    ∀ event ∈ cancels, ∃ slot peer transactionId expected,
      event = .commandCancelled slot peer transactionId expected

theorem CancelledSince.trans {first second third : List EndpointEvent}
    (earlier : CancelledSince first second) (later : CancelledSince second third) :
    CancelledSince first third := by
  obtain ⟨older, rfl, before⟩ := earlier
  obtain ⟨newer, rfl, after⟩ := later
  refine ⟨newer ++ older, (List.append_assoc _ _ _).symm, fun event member => ?_⟩
  rcases List.mem_append.mp member with new | old
  · exact after event new
  · exact before event old

/-- Nothing but slots, the last terminal command and the cancellations change when no slot
    owns the sender. -/
def SameButClients (e e' : EspNowNetProtocolComponent) : Prop :=
  ∃ clients lastTerminalPeer lastTerminalTransactionId history,
    CancelledSince e.history history ∧
      e' = { e with clients, lastTerminalPeer, lastTerminalTransactionId, history }

theorem slotOf_busy {e : EspNowNetProtocolComponent} {transactionId : TransactionId} {slot : Fin 2}
    (found : e.slotOf transactionId = some slot) :
    (e.clients slot).state ≠ .idle ∧ (e.clients slot).command.transactionId = transactionId := by
  unfold slotOf at found
  split at found
  · rename_i first
    exact Option.some.inj found ▸ first
  · split at found
    · rename_i second
      exact Option.some.inj found ▸ second.2
    · simp at found

/-- A busy slot is cancelled by its transaction, which an earlier slot may have as well. -/
theorem cancelBusy_cases (e : EspNowNetProtocolComponent) (slot : Fin 2) :
    e.cancelBusy slot = e ∨ ∃ found, (e.clients found).command.transactionId ≠ 0 ∧
      e.cancelBusy slot = e.cancelSlot found := by
  unfold cancelBusy cancelCommand
  split
  · split
    · exact Or.inl rfl
    · rename_i identified
      split
      · exact Or.inl rfl
      · rename_i found same
        exact Or.inr ⟨found, (slotOf_busy same).2 ▸ identified, rfl⟩
  · exact Or.inl rfl

theorem cancelBusy_same {e : EspNowNetProtocolComponent} (free : e.reliableMessageOwner = .none)
    (slot : Fin 2) : e.SameButClients (e.cancelBusy slot) := by
  rcases e.cancelBusy_cases slot with same | ⟨found, _, same⟩
  · rw [same]
    exact ⟨e.clients, e.lastTerminalPeer, e.lastTerminalTransactionId, e.history,
      ⟨[], rfl, by simp⟩, rfl⟩
  · rw [same]
    simp only [cancelSlot, free, clearCommandClient, setClient]
    refine ⟨_, _, _, _, ⟨[.commandCancelled found (e.clients found).peer
      (e.clients found).command.transactionId (e.resultExpected found)], rfl, ?_⟩, rfl⟩
    exact fun event member => ⟨_, _, _, _, List.mem_singleton.mp member⟩

theorem cancelBusy_kept (e : EspNowNetProtocolComponent) (slot other : Fin 2) :
    (e.cancelBusy slot).clients other = e.clients other ∨
      ((e.cancelBusy slot).clients other).state = .idle := by
  rcases e.cancelBusy_cases slot with same | ⟨found, _, same⟩
  · rw [same]
    exact Or.inl rfl
  · rw [same]
    by_cases here : other = found
    · subst here
      exact Or.inr (by simp [cancelSlot, clearCommandClient, setClient])
    · left
      simp only [cancelSlot, clearCommandClient, setClient, record, Function.update_of_ne here]
      split <;> rfl

theorem cancelBusy_other {e : EspNowNetProtocolComponent} {slot other : Fin 2}
    (idle : (e.clients other).state = .idle) :
    ((e.cancelBusy slot).clients other).state = .idle := by
  rcases cancelBusy_kept e slot other with same | cleared
  · rw [same, idle]
  · exact cleared

theorem cancelBusy_idle {e : EspNowNetProtocolComponent} {slot : Fin 2}
    (valid : (e.clients slot).state ≠ .idle → (e.clients slot).command.Valid)
    (first : slot = 0 ∨ slot = 1 ∧ e.build.dualCommandClient = true ∧ (e.clients 0).state = .idle) :
    ((e.cancelBusy slot).clients slot).state = .idle := by
  unfold cancelBusy
  split
  · rename_i busy
    have identified := (valid busy).1
    have found : e.slotOf (e.clients slot).command.transactionId = some slot := by
      rcases first with rfl | ⟨rfl, dual, idle⟩
      · simp [slotOf, busy]
      · simp [slotOf, busy, dual, idle]
    simp [cancelCommand, identified, found, cancelSlot, clearCommandClient, setClient]
  · rename_i idle
    simpa using idle

theorem cancelClients_same {e : EspNowNetProtocolComponent}
    (free : e.reliableMessageOwner = .none) : e.SameButClients e.cancelClients := by
  obtain ⟨clients, peer, transactionId, history, since, first⟩ := cancelBusy_same free 0
  unfold cancelClients
  simp only
  split
  · obtain ⟨clients', peer', transactionId', history', since', second⟩ :=
      cancelBusy_same (e := e.cancelBusy 0) (by rw [first]; exact free) 1
    rw [first] at since'
    exact ⟨clients', peer', transactionId', history', since.trans since', by rw [second, first]⟩
  · exact ⟨clients, peer, transactionId, history, since, first⟩

theorem cancelClients_idle {e : EspNowNetProtocolComponent}
    (free : e.reliableMessageOwner = .none)
    (valid : ClientsValid e.build.dualCommandClient e.clients) (slot : Fin 2) :
    (e.cancelClients.clients slot).state = .idle := by
  obtain ⟨clients, peer, transactionId, history, _, same⟩ := cancelBusy_same free 0
  have first : ((e.cancelBusy 0).clients 0).state = .idle :=
    cancelBusy_idle (valid.command 0) (Or.inl rfl)
  have dual : (e.cancelBusy 0).build = e.build := by rw [same]
  unfold cancelClients
  simp only [dual]
  split
  · rename_i both
    match slot with
    | 0 => exact cancelBusy_other first
    | 1 =>
      refine cancelBusy_idle ?_ (Or.inr ⟨rfl, dual ▸ both, first⟩)
      intro busy
      rcases cancelBusy_kept e 0 1 with kept | idle
      · rw [kept] at busy ⊢
        exact valid.command 1 busy
      · exact absurd idle busy
  · rename_i one
    match slot with
    | 0 => exact first
    | 1 => exact cancelBusy_other (valid.single (by simpa using one))

/-- What disabling leaves, field by field; with valid slots no slot stays busy. -/
theorem disableRuntime_eq (e : EspNowNetProtocolComponent) :
    ∃ clients lastTerminalPeer lastTerminalTransactionId heartbeat cancelled,
      CancelledSince (.runtimeDisabled :: e.history) cancelled ∧ e.disableRuntime = { e with
        runtimeEnabled := false, heartbeat, sender := e.sender.reset
        reliableMessageOwner := .none, clients, lastTerminalPeer, lastTerminalTransactionId
        transmission := { frame := e.transmission.frame }
        notification := { e.notification with ready := false }
        resultMessage := none, background := {}
        history :=
          if e.transmission.owner = RadioTransmissionOwner.none then cancelled
          else EndpointEvent.transmissionAbandoned :: cancelled }.discardRadioEvents ∧
      (ClientsValid e.build.dualCommandClient e.clients → ∀ slot, (clients slot).state = .idle) := by
  let heartbeat := if e.build.applicationHeartbeat then e.heartbeat.disable else e.heartbeat
  let off := { e with
    runtimeEnabled := false, heartbeat, sender := e.sender.reset
    reliableMessageOwner := .none }.record .runtimeDisabled
  obtain ⟨clients, peer, transactionId, cancelled, since, same⟩ := cancelClients_same (e := off) rfl
  refine ⟨clients, peer, transactionId, heartbeat, cancelled, since, ?_, fun valid slot => ?_⟩
  · have whole : e.disableRuntime = { off.cancelClients.abandonTransmission with
        notification := { off.cancelClients.abandonTransmission.notification with ready := false }
        resultMessage := none, background := {} }.discardRadioEvents := rfl
    rw [whole, same]
    unfold abandonTransmission
    by_cases unmarked : e.transmission.owner = .none
    · have : off.transmission.owner = .none := unmarked
      simp only [unmarked, this, ↓reduceIte]
      rfl
    · have : off.transmission.owner ≠ .none := unmarked
      simp only [unmarked, this, ↓reduceIte]
      rfl
  · have := cancelClients_idle (e := off) rfl valid slot
    rwa [same] at this

theorem disableRuntime_history (e : EspNowNetProtocolComponent) :
    ∃ cancelled, CancelledSince (.runtimeDisabled :: e.history) cancelled ∧
      e.disableRuntime.history = .radioEventsDiscarded false ::
        ((if e.transmission.owner = .none then [] else [.transmissionAbandoned]) ++ cancelled) := by
  obtain ⟨clients, peer, transactionId, heartbeat, cancelled, since, same, _⟩ := disableRuntime_eq e
  refine ⟨cancelled, since, ?_⟩
  rw [same]
  by_cases free : e.transmission.owner = .none <;> simp [free, discardRadioEvents, record]

/-- Whatever holds of the four kinds of events that disabling notes holds of all it adds. -/
theorem disableRuntime_events (e : EspNowNetProtocolComponent) (aside : EndpointEvent → Prop)
    (off : aside .runtimeDisabled)
    (cancelled : ∀ slot peer transactionId expected,
      aside (.commandCancelled slot peer transactionId expected))
    (abandoned : e.transmission.owner ≠ .none → aside .transmissionAbandoned)
    (discarded : aside (.radioEventsDiscarded false)) :
    ∃ events, e.disableRuntime.history = events ++ e.history ∧ ∀ event ∈ events, aside event := by
  obtain ⟨_, ⟨cancels, rfl, each⟩, history⟩ := disableRuntime_history e
  refine ⟨.radioEventsDiscarded false :: ((if e.transmission.owner = .none then []
    else [.transmissionAbandoned]) ++ (cancels ++ [.runtimeDisabled])), by simp [history], ?_⟩
  intro event member
  simp only [List.mem_cons, List.mem_append, List.not_mem_nil, or_false] at member
  rcases member with rfl | mark | cancel | rfl
  · exact discarded
  · split at mark
    · simp at mark
    · rename_i owned
      exact List.mem_singleton.mp mark ▸ abandoned owned
  · obtain ⟨slot, peer, transactionId, expected, rfl⟩ := each event cancel
    exact cancelled slot peer transactionId expected
  · exact off

end EspNowNetProtocolComponent

def EndpointEvent.TurnsOff : EndpointEvent → Prop
  | .runtimeDisabled | .transmissionAbandoned | .radioEventsDiscarded _ => True
  | _ => False

namespace EspNowNetProtocolComponent

structure TurnedOff (e e' : EspNowNetProtocolComponent) : Prop where
  clients : e'.clients = e.clients
  lastTerminal : e'.lastTerminalPeer = e.lastTerminalPeer ∧
    e'.lastTerminalTransactionId = e.lastTerminalTransactionId
  history : ∃ events, e'.history = events ++ e.history ∧ ∀ event ∈ events, event.TurnsOff

/-- What the cancellation of a slot keeps, and what the slots and the commands in the history
    decide, disabling keeps. -/
theorem disableRuntime_keeps {holds : EspNowNetProtocolComponent → Prop}
    (turnedOff : ∀ {e e'}, TurnedOff e e' → holds e → holds e')
    (cancels : ∀ {e : EspNowNetProtocolComponent} {slot},
      (e.clients slot).command.transactionId ≠ 0 → holds e → holds (e.cancelSlot slot))
    {e : EspNowNetProtocolComponent} (before : holds e) : holds e.disableRuntime := by
  have cancel {e : EspNowNetProtocolComponent} (slot : Fin 2) (before : holds e) :
      holds (e.cancelBusy slot) := by
    rcases e.cancelBusy_cases slot with same | ⟨found, identified, same⟩
    · rw [same]
      exact before
    · rw [same]
      exact cancels identified before
  let off := { e with
    runtimeEnabled := false
    heartbeat := if e.build.applicationHeartbeat then e.heartbeat.disable else e.heartbeat
    sender := e.sender.reset
    reliableMessageOwner := .none }.record .runtimeDisabled
  have noted : TurnedOff e off :=
    ⟨rfl, ⟨rfl, rfl⟩, [.runtimeDisabled], rfl, by simp [EndpointEvent.TurnsOff]⟩
  have disabled : holds off := turnedOff noted before
  have cancelled : holds off.cancelClients := by
    unfold cancelClients
    simp only
    split
    · exact cancel 1 (cancel 0 disabled)
    · exact cancel 0 disabled
  have abandoned : holds off.cancelClients.abandonTransmission := by
    refine turnedOff ?_ cancelled
    unfold abandonTransmission
    simp only
    split
    · exact ⟨rfl, ⟨rfl, rfl⟩, [], rfl, by simp⟩
    · exact ⟨rfl, ⟨rfl, rfl⟩, [.transmissionAbandoned], rfl, by simp [EndpointEvent.TurnsOff]⟩
  have whole : e.disableRuntime = { off.cancelClients.abandonTransmission with
      notification := { off.cancelClients.abandonTransmission.notification with ready := false }
      resultMessage := none, background := {} }.discardRadioEvents := rfl
  rw [whole]
  generalize off.cancelClients.abandonTransmission = left at abandoned
  refine turnedOff ?_ abandoned
  exact ⟨rfl, ⟨rfl, rfl⟩, [.radioEventsDiscarded _], rfl, by simp [EndpointEvent.TurnsOff]⟩

end EspNowNetProtocolComponent

inductive ControlCall where
  | setRuntimeEnabled (enabled : Bool)
  | sendCommand (peerId deviceId resource name payload : List UInt8) (timeoutMs nowMs : UInt32)
  | startCommand (peer : PeerIndex) (command : NetCommand) (nowMs : UInt32)
  | startBackgroundResult (peer : PeerIndex) (result : NetResult)
  | cancelCommand (transactionId : TransactionId)
  | startReliableMessage (peer : PeerIndex) (kind : EspNowFrameKind)
      (transactionId : TransactionId) (data : Option (List UInt8))
  | takeBackgroundResultCompletion
  | resetSender
  | takeApplicationMessage
  | useExternalResultDeadline (transactionId : TransactionId)

def ControlCall.apply (e : EspNowNetProtocolComponent) : ControlCall → EspNowNetProtocolComponent
  | .setRuntimeEnabled enabled => e.setRuntimeEnabled enabled
  | .sendCommand peerId deviceId resource name payload timeoutMs nowMs =>
    (e.sendCommand peerId deviceId resource name payload timeoutMs nowMs).2
  | .startCommand peer command nowMs => (e.startCommand peer command nowMs).2
  | .startBackgroundResult peer result => (e.startBackgroundResult peer result).2
  | .cancelCommand transactionId => (e.cancelCommand transactionId).2
  | .startReliableMessage peer kind transactionId data =>
    (e.startReliableMessage peer kind transactionId data).2
  | .takeBackgroundResultCompletion => e.takeBackgroundResultCompletion.2
  | .resetSender => e.resetSender
  | .takeApplicationMessage => e.takeApplicationMessage.2
  | .useExternalResultDeadline transactionId => (e.useExternalResultDeadline transactionId).2

/-- The calls a callback makes before it returns. -/
def EspNowNetProtocolComponent.calls (e : EspNowNetProtocolComponent) (script : List ControlCall) :
    EspNowNetProtocolComponent :=
  script.foldl ControlCall.apply e

end EspNowNet
