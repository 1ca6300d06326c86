import EspNowNet.Control

/- What the calls of the control API leave alone. A callback may make any of them, so this is
   also what an iteration may rely on across a callback. -/
namespace EspNowNet
open EspNowNetProtocolComponent

variable {e e' : EspNowNetProtocolComponent}

/-- The events a call may note. -/
def EndpointEvent.Called : EndpointEvent → Prop
  | .messageStarted _ _ _ | .commandDeclared _ | .commandStarted _ _ _ | .commandCancelled _ _ _ _
  | .externalDeadlineSet _ | .senderReset _ | .runtimeDisabled | .transmissionAbandoned
  | .radioEventsDiscarded _ => True
  | _ => False

/-- The dispatchers, the runtime and the observers stay as they are; a waiting notification
    can only be dropped, by disabling. -/
structure ControlEffect (e e' : EspNowNetProtocolComponent) : Prop where
  lanes : e'.lanes = e.lanes
  runtime : e'.runtime = e.runtime
  observers : e'.commandResultObservers = e.commandResultObservers
  unsolicited : e'.unsolicitedResultObservers = e.unsolicitedResultObservers
  notification : e'.notification = e.notification ∨
    e'.notification.ready = false ∧ .runtimeDisabled ∈ e'.history
  events : ∃ events, e'.history = events ++ e.history ∧ ∀ event ∈ events, event.Called

/-- A call that leaves all of this as it is. -/
theorem ControlEffect.aside (lanes : e'.lanes = e.lanes) (runtime : e'.runtime = e.runtime)
    (observers : e'.commandResultObservers = e.commandResultObservers)
    (unsolicited : e'.unsolicitedResultObservers = e.unsolicitedResultObservers)
    (notification : e'.notification = e.notification) (history : e'.history = e.history) :
    ControlEffect e e' :=
  ⟨lanes, runtime, observers, unsolicited, Or.inl notification, [], history, by simp⟩

theorem ControlEffect.noted {event : EndpointEvent} (lanes : e'.lanes = e.lanes)
    (runtime : e'.runtime = e.runtime)
    (observers : e'.commandResultObservers = e.commandResultObservers)
    (unsolicited : e'.unsolicitedResultObservers = e.unsolicitedResultObservers)
    (notification : e'.notification = e.notification) (history : e'.history = event :: e.history)
    (called : event.Called) : ControlEffect e e' :=
  ⟨lanes, runtime, observers, unsolicited, Or.inl notification, [event], history,
    fun _ member => List.mem_singleton.mp member ▸ called⟩

theorem ControlEffect.refl (e : EspNowNetProtocolComponent) : ControlEffect e e :=
  .aside rfl rfl rfl rfl rfl rfl

theorem ControlEffect.trans {next : EspNowNetProtocolComponent} (first : ControlEffect e e')
    (second : ControlEffect e' next) : ControlEffect e next := by
  obtain ⟨older, before, called⟩ := first.events
  obtain ⟨newer, after, calledLater⟩ := second.events
  refine ⟨second.lanes.trans first.lanes, second.runtime.trans first.runtime,
    second.observers.trans first.observers, second.unsolicited.trans first.unsolicited, ?_,
    newer ++ older, by simp [after, before], ?_⟩
  · rcases second.notification with same | dropped
    · rcases first.notification with kept | ⟨dropped, disabled⟩
      · exact Or.inl (same.trans kept)
      · refine Or.inr ⟨same ▸ dropped, ?_⟩
        rw [after]
        exact List.mem_append_right _ disabled
    · exact Or.inr dropped
  · intro event member
    rcases List.mem_append.mp member with new | old
    · exact calledLater event new
    · exact called event old

namespace EspNowNetProtocolComponent

theorem startSender_cases (e : EspNowNetProtocolComponent) (peer : PeerIndex)
    (kind : EspNowFrameKind) (transactionId : TransactionId) (data : Option (List UInt8)) :
    ∃ sender, (e.sender.start peer kind transactionId data = (false, sender) ∧
        e.startSender peer kind transactionId data = (false, { e with sender })) ∨
      (e.sender.start peer kind transactionId data = (true, sender) ∧
        e.startSender peer kind transactionId data = (true, { e with sender }.record
          (.messageStarted peer sender.envelope sender.message.bytes))) := by
  cases run : e.sender.start peer kind transactionId data with
  | mk done sender =>
    refine ⟨sender, ?_⟩
    cases done
    · exact Or.inl ⟨rfl, by simp [startSender, run]⟩
    · exact Or.inr ⟨rfl, by simp [startSender, run]⟩

theorem cancelSlot_eq (e : EspNowNetProtocolComponent) (slot : Fin 2) :
    e.cancelSlot slot = { e with
      sender :=
        if e.reliableMessageOwner = .commandClient ∧ e.commandSenderSlot = slot then e.sender.reset
        else e.sender
      reliableMessageOwner :=
        if e.reliableMessageOwner = .commandClient ∧ e.commandSenderSlot = slot then .none
        else e.reliableMessageOwner
      clients := Function.update e.clients slot
        { externalDeadline := (e.clients slot).externalDeadline }
      lastTerminalPeer := (e.clients slot).peer
      lastTerminalTransactionId := (e.clients slot).command.transactionId
      history := EndpointEvent.commandCancelled slot (e.clients slot).peer
        (e.clients slot).command.transactionId (e.resultExpected slot) :: e.history } := by
  unfold cancelSlot clearCommandClient setClient
  split <;> rfl

theorem startSender_effect {peer : PeerIndex} {kind : EspNowFrameKind}
    {transactionId : TransactionId} {data : Option (List UInt8)} {started : Bool}
    (run : e.startSender peer kind transactionId data = (started, e')) : ControlEffect e e' := by
  obtain ⟨sender, ⟨_, start⟩ | ⟨_, start⟩⟩ := startSender_cases e peer kind transactionId data
  · obtain ⟨_, rfl⟩ := Prod.mk.inj (start.symm.trans run)
    exact .aside rfl rfl rfl rfl rfl rfl
  · obtain ⟨_, rfl⟩ := Prod.mk.inj (start.symm.trans run)
    exact .noted rfl rfl rfl rfl rfl rfl trivial

theorem startReliableMessage_effect (e : EspNowNetProtocolComponent) (peer : PeerIndex)
    (kind : EspNowFrameKind) (transactionId : TransactionId) (data : Option (List UInt8)) :
    ControlEffect e (e.startReliableMessage peer kind transactionId data).2 := by
  unfold startReliableMessage
  split
  · exact .refl e
  · split
    · rename_i run
      exact startSender_effect run
    · rename_i run
      exact (startSender_effect run).trans (.aside rfl rfl rfl rfl rfl rfl)

theorem startCommand_effect (e : EspNowNetProtocolComponent) (peer : PeerIndex)
    (command : NetCommand) (nowMs : UInt32) :
    ControlEffect e (e.startCommand peer command nowMs).2 := by
  unfold startCommand
  split
  · exact .refl e
  · split
    · exact .refl e
    · simp only
      split
      · rename_i run
        exact startSender_effect run
      · rename_i run
        exact (startSender_effect run).trans (.noted rfl rfl rfl rfl rfl rfl trivial)

theorem startBackgroundResult_effect (e : EspNowNetProtocolComponent) (peer : PeerIndex)
    (result : NetResult) : ControlEffect e (e.startBackgroundResult peer result).2 := by
  unfold startBackgroundResult
  split
  · exact .refl e
  · split
    · exact .refl e
    · split
      · rename_i run
        exact startSender_effect run
      · rename_i run
        exact (startSender_effect run).trans (.aside rfl rfl rfl rfl rfl rfl)

theorem sendCommand_effect (e : EspNowNetProtocolComponent)
    (peerId deviceId resource name payload : List UInt8) (timeoutMs nowMs : UInt32) :
    ControlEffect e (e.sendCommand peerId deviceId resource name payload timeoutMs nowMs).2 := by
  have counted (next : UInt64) (id : TransactionId) : ControlEffect e
      ({ e with nextDeclarativeTransactionId := next }.record (.commandDeclared id)) :=
    .noted rfl rfl rfl rfl rfl rfl trivial
  unfold sendCommand
  simp only
  split
  · exact .refl e
  · split
    · exact counted _ _
    · exact (counted _ _).trans (startCommand_effect _ _ _ _)

theorem cancelSlot_effect (e : EspNowNetProtocolComponent) (slot : Fin 2) :
    ControlEffect e (e.cancelSlot slot) := by
  rw [cancelSlot_eq e slot]
  exact .noted rfl rfl rfl rfl rfl rfl trivial

theorem disableRuntime_effect (e : EspNowNetProtocolComponent) :
    ControlEffect e e.disableRuntime := by
  have events := disableRuntime_events e EndpointEvent.Called trivial (fun _ _ _ _ => trivial)
    (fun _ => trivial) trivial
  obtain ⟨_, ⟨cancels, rfl, _⟩, history⟩ := disableRuntime_history e
  obtain ⟨_, _, _, _, _, _, same, _⟩ := disableRuntime_eq e
  exact ⟨by rw [same]; rfl, by rw [same]; rfl, by rw [same]; rfl, by rw [same]; rfl,
    Or.inr ⟨by rw [same]; rfl, by simp [history]⟩, events⟩

theorem control_effect (e : EspNowNetProtocolComponent) (call : ControlCall) :
    ControlEffect e (call.apply e) := by
  cases call with
  | setRuntimeEnabled enabled =>
    simp only [ControlCall.apply, setRuntimeEnabled]
    split
    · exact .refl e
    · cases enabled
      · exact disableRuntime_effect e
      · exact .aside rfl rfl rfl rfl rfl rfl
  | sendCommand => exact sendCommand_effect e _ _ _ _ _ _ _
  | startCommand => exact startCommand_effect e _ _ _
  | startBackgroundResult => exact startBackgroundResult_effect e _ _
  | cancelCommand transactionId =>
    simp only [ControlCall.apply, cancelCommand]
    split
    · exact .refl e
    · split
      · exact .refl e
      · exact cancelSlot_effect e _
  | startReliableMessage => exact startReliableMessage_effect e _ _ _ _
  | takeBackgroundResultCompletion =>
    simp only [ControlCall.apply, takeBackgroundResultCompletion]
    split
    · exact .refl e
    · exact .aside rfl rfl rfl rfl rfl rfl
  | resetSender => exact .noted rfl rfl rfl rfl rfl rfl trivial
  | takeApplicationMessage => exact .aside rfl rfl rfl rfl rfl rfl
  | useExternalResultDeadline transactionId =>
    simp only [ControlCall.apply, useExternalResultDeadline]
    split
    · exact .refl e
    · split
      · exact .refl e
      · exact .noted rfl rfl rfl rfl rfl rfl trivial

theorem calls_effect (e : EspNowNetProtocolComponent) (script : List ControlCall) :
    ControlEffect e (e.calls script) := by
  induction script generalizing e with
  | nil => exact .refl e
  | cons call script ih => exact (control_effect e call).trans (ih _)

end EspNowNetProtocolComponent

end EspNowNet
