import EspNowNet.HeartbeatAccounting
import EspNowNet.Step

/- What the calls of the application and most of the phases of an iteration come down to: they send
   no frame, start or reset the sender at most, and disable the heartbeat at most. -/
namespace EspNowNet
open EspNowNetProtocolComponent Relation

variable {e e' : EspNowNetProtocolComponent}

/-- The event is neither a frame that is sent nor a message that is started. -/
def EndpointEvent.Quiet : EndpointEvent → Prop
  | .frameSent _ _ | .messageStarted _ _ _ => False
  | _ => True

inductive QuietStep (e e' : EspNowNetProtocolComponent) : Prop
  | noted {events : List EndpointEvent} (sender : e'.sender = e.sender)
      (heartbeat : e'.heartbeat = e.heartbeat) (transmission : e'.transmission = e.transmission)
      (history : e'.history = events ++ e.history) (quiet : ∀ event ∈ events, event.Quiet)
  | refused {peer : PeerIndex} {kind : EspNowFrameKind} {transactionId : TransactionId}
      {data : Option (List UInt8)} {sender : ReliableMessageSender}
      (run : e.sender.start peer kind transactionId data = (false, sender))
      (same : e' = { e with sender })
  | started {peer : PeerIndex} {kind : EspNowFrameKind} {transactionId : TransactionId}
      {data : Option (List UInt8)} {sender : ReliableMessageSender}
      (run : e.sender.start peer kind transactionId data = (true, sender))
      (same : e' = { e with sender }.record
        (.messageStarted peer sender.envelope sender.message.bytes))
  | reset {events : List EndpointEvent} (sender : e'.sender = e.sender.reset)
      (heartbeat : e'.heartbeat = e.heartbeat ∨ e'.heartbeat = e.heartbeat.disable)
      (history : e'.history = events ++ e.history) (quiet : ∀ event ∈ events, event.Quiet)

abbrev QuietSteps := ReflTransGen QuietStep

theorem QuietSteps.kept (sender : e'.sender = e.sender) (heartbeat : e'.heartbeat = e.heartbeat)
    (transmission : e'.transmission = e.transmission) (history : e'.history = e.history) :
    QuietSteps e e' :=
  .single (.noted sender heartbeat transmission (history.trans (List.nil_append _).symm) (by simp))

theorem QuietSteps.recorded {event : EndpointEvent} (sender : e'.sender = e.sender)
    (heartbeat : e'.heartbeat = e.heartbeat) (transmission : e'.transmission = e.transmission)
    (history : e'.history = event :: e.history) (quiet : event.Quiet) : QuietSteps e e' :=
  .single (.noted sender heartbeat transmission (history.trans List.singleton_append.symm)
    (List.forall_mem_singleton.mpr quiet))

theorem QuietSteps.reset {events : List EndpointEvent} (sender : e'.sender = e.sender.reset)
    (heartbeat : e'.heartbeat = e.heartbeat ∨ e'.heartbeat = e.heartbeat.disable)
    (history : e'.history = events ++ e.history) (quiet : ∀ event ∈ events, event.Quiet) :
    QuietSteps e e' :=
  .single (.reset sender heartbeat history quiet)

namespace EspNowNetProtocolComponent

/- The control API -/

theorem startSender_quiet {peer : PeerIndex} {kind : EspNowFrameKind}
    {transactionId : TransactionId} {data : Option (List UInt8)} {started : Bool}
    (run : e.startSender peer kind transactionId data = (started, e')) : QuietSteps e e' := by
  obtain ⟨sender, ⟨start, same⟩ | ⟨start, same⟩⟩ :=
    startSender_cases e peer kind transactionId data
  · obtain ⟨_, rfl⟩ := Prod.mk.inj (same.symm.trans run)
    exact .single (.refused start rfl)
  · obtain ⟨_, rfl⟩ := Prod.mk.inj (same.symm.trans run)
    exact .single (.started start rfl)

theorem startCommand_quiet (e : EspNowNetProtocolComponent) (peer : PeerIndex)
    (command : NetCommand) (nowMs : UInt32) :
    QuietSteps e (e.startCommand peer command nowMs).2 := by
  unfold startCommand
  split
  · exact .refl
  · split
    · exact .refl
    · simp only
      split
      · rename_i run
        exact startSender_quiet run
      · rename_i run
        exact (startSender_quiet run).trans (QuietSteps.recorded rfl rfl rfl rfl trivial)

theorem cancelSlot_quiet (e : EspNowNetProtocolComponent) (slot : Fin 2) :
    QuietSteps e (e.cancelSlot slot) := by
  rw [cancelSlot_eq e slot]
  by_cases own : e.reliableMessageOwner = .commandClient ∧ e.commandSenderSlot = slot
  · exact QuietSteps.reset (if_pos own) (Or.inl rfl) List.singleton_append.symm
      (List.forall_mem_singleton.mpr trivial)
  · exact QuietSteps.recorded (if_neg own) rfl rfl rfl trivial

theorem disableRuntime_quiet (e : EspNowNetProtocolComponent) :
    QuietSteps e e.disableRuntime := by
  obtain ⟨clients, peer, transactionId, heartbeat, _, _, same, _⟩ := disableRuntime_eq e
  obtain ⟨events, history, quiet⟩ := disableRuntime_events e EndpointEvent.Quiet trivial
    (fun _ _ _ _ => trivial) (fun _ => trivial) trivial
  refine QuietSteps.reset ?_ ?_ history quiet
  · rw [same]
    rfl
  · rw [disableRuntime_heartbeat]
    split
    · exact Or.inr rfl
    · exact Or.inl rfl

theorem control_quiet (e : EspNowNetProtocolComponent) (call : ControlCall) :
    QuietSteps e (call.apply e) := by
  cases call with
  | setRuntimeEnabled enabled =>
    simp only [ControlCall.apply, setRuntimeEnabled]
    split
    · exact .refl
    · cases enabled
      · exact disableRuntime_quiet e
      · exact QuietSteps.kept rfl rfl rfl rfl
  | sendCommand =>
    have counted (next : UInt64) (id : TransactionId) : QuietSteps e
        ({ e with nextDeclarativeTransactionId := next }.record (.commandDeclared id)) :=
      QuietSteps.recorded rfl rfl rfl rfl trivial
    simp only [ControlCall.apply, sendCommand]
    split
    · exact .refl
    · split
      · exact counted _ _
      · exact (counted _ _).trans (startCommand_quiet _ _ _ _)
  | startCommand => exact startCommand_quiet e _ _ _
  | startBackgroundResult =>
    simp only [ControlCall.apply, startBackgroundResult]
    split
    · exact .refl
    · split
      · exact .refl
      · split
        · rename_i run
          exact startSender_quiet run
        · rename_i run
          exact (startSender_quiet run).trans (QuietSteps.kept rfl rfl rfl rfl)
  | cancelCommand =>
    simp only [ControlCall.apply, cancelCommand]
    split
    · exact .refl
    · split
      · exact .refl
      · exact cancelSlot_quiet e _
  | startReliableMessage =>
    simp only [ControlCall.apply, startReliableMessage]
    split
    · exact .refl
    · split
      · rename_i run
        exact startSender_quiet run
      · rename_i run
        exact (startSender_quiet run).trans (QuietSteps.kept rfl rfl rfl rfl)
  | takeBackgroundResultCompletion =>
    simp only [ControlCall.apply, takeBackgroundResultCompletion]
    split
    · exact .refl
    · exact QuietSteps.kept rfl rfl rfl rfl
  | resetSender =>
    exact QuietSteps.reset rfl (Or.inl rfl) List.singleton_append.symm
      (List.forall_mem_singleton.mpr trivial)
  | takeApplicationMessage => exact QuietSteps.kept rfl rfl rfl rfl
  | useExternalResultDeadline =>
    simp only [ControlCall.apply, useExternalResultDeadline]
    split
    · exact .refl
    · split
      · exact .refl
      · exact QuietSteps.recorded rfl rfl rfl rfl trivial

theorem calls_quiet (e : EspNowNetProtocolComponent) (script : List ControlCall) :
    QuietSteps e (e.calls script) := by
  induction script generalizing e with
  | nil => exact .refl
  | cons call script ih => exact (control_quiet e call).trans (ih _)

/- The phases of an iteration -/

theorem driverEvent_quiet (e : EspNowNetProtocolComponent) (event : DriverEvent) :
    QuietSteps e (e.driverEvent event) := by
  cases event <;> exact QuietSteps.recorded rfl rfl rfl rfl trivial

theorem driverEvents_quiet (e : EspNowNetProtocolComponent) (events : List DriverEvent) :
    QuietSteps e (e.driverEvents events) := by
  induction events generalizing e with
  | nil => exact .refl
  | cons event events ih => exact (driverEvent_quiet e event).trans (ih _)

/-- Each observer is told and may make calls. -/
theorem foldl_quiet (observers : List Nat) (tell : Nat → EndpointEvent)
    (script : Nat → List ControlCall) (quiet : ∀ observer, (tell observer).Quiet)
    (e : EspNowNetProtocolComponent) :
    QuietSteps e (observers.foldl
      (fun e observer => (e.record (tell observer)).calls (script observer)) e) := by
  induction observers generalizing e with
  | nil => exact .refl
  | cons observer observers ih =>
    have told : QuietSteps e (e.record (tell observer)) :=
      QuietSteps.recorded rfl rfl rfl rfl (quiet observer)
    exact told.trans ((calls_quiet _ _).trans (ih _))

theorem dispatchCommandResultNotification_quiet (e : EspNowNetProtocolComponent)
    (env : EndpointEnvironment) :
    QuietSteps e (e.dispatchCommandResultNotification env) := by
  unfold dispatchCommandResultNotification
  split
  · exact .refl
  · have taken : QuietSteps e ({ e with
        notification := { e.notification with ready := false } }.record
          (.resultOffered e.notification.peer e.notification.result)) :=
      QuietSteps.recorded rfl rfl rfl rfl trivial
    have told := foldl_quiet e.commandResultObservers.observers
      (fun observer => .resultDelivered observer e.notification.peer e.notification.result)
      env.resultObserver (fun _ => trivial) ({ e with
        notification := { e.notification with ready := false } }.record
          (.resultOffered e.notification.peer e.notification.result))
    exact (taken.trans told).trans (QuietSteps.kept rfl rfl rfl rfl)

theorem finishCommandClient_quiet (e : EspNowNetProtocolComponent) (result : NetResult)
    (slot : Fin 2) : QuietSteps e (e.finishCommandClient result slot) := by
  obtain ⟨notification, same⟩ := finishCommandClient_eq e result slot
  rw [same]
  exact QuietSteps.recorded rfl rfl rfl rfl trivial

theorem queueCommandResultNotification_quiet (e : EspNowNetProtocolComponent) (peer : PeerIndex)
    (result : NetResult) : QuietSteps e (e.queueCommandResultNotification peer result) := by
  obtain ⟨notification, same⟩ := queueCommandResultNotification_eq e peer result
  rw [same]
  exact QuietSteps.kept rfl rfl rfl rfl

theorem acceptCommand_quiet (e : EspNowNetProtocolComponent) (env : EndpointEnvironment)
    (inbound : EspNowInboundApplicationMessage) (lane : InboundLane) :
    QuietSteps e (e.acceptCommand env inbound lane) := by
  have given (dispatcher : InboundCommandDispatcher) : QuietSteps e
      ({ e with lanes := Function.update e.lanes lane dispatcher }.record
        (.commandAccepted lane inbound)) := QuietSteps.recorded rfl rfl rfl rfl trivial
  have identified (e : EspNowNetProtocolComponent) (command : NetCommand) :
      QuietSteps e (e.onCommandIdentity inbound.peerIndex command) := by
    unfold onCommandIdentity
    split
    · exact QuietSteps.recorded rfl rfl rfl rfl trivial
    · exact .refl
  unfold acceptCommand
  simp only
  split
  · exact given _
  · rename_i command _
    have known := (given ((e.lanes lane).accept inbound (env.lanes lane).answers env.nowMs).2).trans
      (identified _ command)
    split
    · have answered (e : EspNowNetProtocolComponent) (status : NetCommandHandlerStartStatus) :
          QuietSteps e (e.record
            (.commandAnswered inbound.peerIndex command.transactionId status)) :=
        QuietSteps.recorded rfl rfl rfl rfl trivial
      exact (known.trans (answered _ _)).trans (calls_quiet _ _)
    · exact known.trans (calls_quiet _ _)

theorem routeResult_quiet (e : EspNowNetProtocolComponent) (env : EndpointEnvironment)
    (inbound : EspNowInboundApplicationMessage) (route : ResultRoute) :
    QuietSteps e (e.routeResult env inbound route) := by
  have routed : QuietSteps e (e.record (.resultRouted route inbound)) :=
    QuietSteps.recorded rfl rfl rfl rfl trivial
  unfold routeResult
  refine routed.trans ?_
  cases route with
  | client slot =>
    simp only [processCommandClientResult]
    split
    · exact finishCommandClient_quiet _ _ _
    · split
      · exact queueCommandResultNotification_quiet _ _ _
      · exact finishCommandClient_quiet _ _ _
  | late => exact .refl
  | unsolicited =>
    simp only [dispatchUnsolicitedResult]
    split
    · exact .refl
    · exact foldl_quiet _ (fun observer => .unsolicitedDelivered observer inbound)
        env.unsolicitedObserver (fun _ => trivial) _
  | mailbox => exact QuietSteps.kept rfl rfl rfl rfl

theorem processApplicationMessage_quiet (e : EspNowNetProtocolComponent)
    (env : EndpointEnvironment) : QuietSteps e (e.processApplicationMessage env) := by
  unfold processApplicationMessage
  split
  · exact .refl
  · split
    · exact .refl
    · rename_i inbound runtime _
      have taken : QuietSteps e { e with runtime } := QuietSteps.kept rfl rfl rfl rfl
      simp only
      split
      · split
        · exact taken.trans (acceptCommand_quiet _ env inbound _)
        · exact taken
      · exact taken.trans (routeResult_quiet _ env inbound _)
      · exact taken

theorem checkResultDeadline_quiet (e : EspNowNetProtocolComponent) (nowMs : UInt32)
    (slot : Fin 2) : QuietSteps e (e.checkResultDeadline nowMs slot) := by
  unfold checkResultDeadline
  split
  · exact finishCommandClient_quiet _ _ _
  · exact .refl

theorem dispatcherLoop_quiet (e : EspNowNetProtocolComponent) (env : EndpointEnvironment)
    (lane : InboundLane) : QuietSteps e (e.dispatcherLoop env lane) := by
  have looped : QuietSteps e (e.loopLane lane (env.lanes lane).answers env.nowMs) := by
    obtain ⟨events, noted, same⟩ := loopLane_eq e lane (env.lanes lane).answers env.nowMs
    rw [same]
    refine .single (.noted rfl rfl rfl rfl fun event member => ?_)
    obtain ⟨handedOn, rfl⟩ := noted event member
    trivial
  unfold dispatcherLoop
  split
  · exact .refl
  · simp only
    split
    · exact looped.trans (calls_quiet _ _)
    · exact looped

theorem processOwnedSenderCompletion_quiet (e : EspNowNetProtocolComponent)
    (env : EndpointEnvironment) : QuietSteps e (e.processOwnedSenderCompletion env) := by
  have given (e' : EspNowNetProtocolComponent) (sender : e'.sender = e.sender.reset)
      (heartbeat : e'.heartbeat = e.heartbeat) (history : e'.history = e.history) :
      QuietSteps e e' :=
    QuietSteps.reset sender (Or.inl heartbeat) (history.trans (List.nil_append _).symm) (by simp)
  unfold processOwnedSenderCompletion
  split
  · simp only
    split
    · exact given _ rfl rfl rfl
    · exact (given e.releaseSender rfl rfl rfl).trans (finishCommandClient_quiet _ _ _)
    · exact (given (e.requestRecovery env).releaseSender rfl rfl rfl).trans
        (finishCommandClient_quiet _ _ _)
    · exact .refl
  · simp only
    split
    · exact given _ rfl rfl rfl
    · exact given _ rfl rfl rfl
    · exact given _ rfl rfl rfl
    · exact .refl
  · split
    · exact given _ rfl rfl rfl
    · exact given _ rfl rfl rfl
    · exact given _ rfl rfl rfl
    · exact .refl
  · exact .refl
  · exact .refl

theorem processDispatcher_quiet (e : EspNowNetProtocolComponent) :
    QuietSteps e e.processDispatcher := by
  unfold processDispatcher
  split
  · exact .refl
  · simp only
    split
    · exact .refl
    · rename_i pending dispatcher _
      have taken : QuietSteps e ({ e with
          lanes := Function.update e.lanes e.resultLane dispatcher }.record
            (.resultTaken e.resultLane pending)) := QuietSteps.recorded rfl rfl rfl rfl trivial
      split
      · rename_i run
        exact taken.trans (startSender_quiet run)
      · rename_i run
        exact (taken.trans (startSender_quiet run)).trans (QuietSteps.kept rfl rfl rfl rfl)

end EspNowNetProtocolComponent

/-- The phases before one phase lead to a state in which that phase runs, and keep what every phase
    and the driver keep. -/
theorem runPhases_reach (env : EndpointEnvironment) (holds : EspNowNetProtocolComponent → Prop)
    (driven : ∀ e events, holds e → holds (e.driverEvents events))
    (phase : EspNowNetProtocolComponent → EspNowNetProtocolComponent)
    (before after : List (EspNowNetProtocolComponent → EspNowNetProtocolComponent))
    (each : ∀ phase ∈ before, ∀ e, holds e → holds (phase e)) (start : holds e) :
    ∃ reached, holds reached ∧
      runPhases env e (before ++ phase :: after) = runPhases env (phase reached) after := by
  induction before generalizing e with
  | nil => exact ⟨_, driven e _ start, rfl⟩
  | cons first before ih =>
    exact ih (fun phase member => each phase (List.mem_cons_of_mem _ member))
      (each first List.mem_cons_self _ (driven e _ start))

end EspNowNet
