import EspNowNet.ControlEffect
import EspNowNet.Transmission

/- From the end of a command to its observers. One notification waits for the next
   iteration; an end that finds it taken is not reported. -/
namespace EspNowNet
open EspNowNetProtocolComponent

/-- The terminal results of ended commands, newest first. -/
def finishedResults (history : List EndpointEvent) : List (PeerIndex × NetResult) :=
  history.filterMap fun
    | .commandFinished _ peer result _ => some (peer, result)
    | _ => none

/-- The terminal results one observer was given, newest first. -/
def deliveredResults (observer : Nat) (history : List EndpointEvent) :
    List (PeerIndex × NetResult) :=
  history.filterMap fun
    | .resultDelivered notified peer result =>
      if notified = observer ∧ result.Terminal then some (peer, result) else none
    | _ => none

/-- The terminal result that waits for the next iteration. -/
def CommandResultNotification.terminal (n : CommandResultNotification) :
    List (PeerIndex × NetResult) :=
  if n.ready ∧ n.result.Terminal then [(n.peer, n.result)] else []

def EndpointEvent.Silent : EndpointEvent → Prop
  | .commandFinished _ _ _ _ | .resultDelivered _ _ _ => False
  | _ => True

theorem finishedResults_silent {events : List EndpointEvent}
    (silent : ∀ event ∈ events, event.Silent) (history : List EndpointEvent) :
    finishedResults (events ++ history) = finishedResults history := by
  have none : finishedResults events = [] := by
    refine List.filterMap_eq_nil_iff.mpr fun event member => ?_
    cases event with
    | commandFinished | resultDelivered => exact absurd (silent _ member) id
    | _ => rfl
  rw [finishedResults, List.filterMap_append]
  exact (congrArg (· ++ finishedResults history) none).trans (List.nil_append _)

theorem deliveredResults_silent {events : List EndpointEvent}
    (silent : ∀ event ∈ events, event.Silent) (observer : Nat) (history : List EndpointEvent) :
    deliveredResults observer (events ++ history) = deliveredResults observer history := by
  have none : deliveredResults observer events = [] := by
    refine List.filterMap_eq_nil_iff.mpr fun event member => ?_
    cases event with
    | commandFinished | resultDelivered => exact absurd (silent _ member) id
    | _ => rfl
  rw [deliveredResults, List.filterMap_append]
  exact (congrArg (· ++ deliveredResults observer history) none).trans (List.nil_append _)

structure KeepsOutcome (e e' : EspNowNetProtocolComponent) : Prop where
  observers : e'.commandResultObservers = e.commandResultObservers
  notification : e'.notification = e.notification ∨ .runtimeDisabled ∈ e'.history
  silent : ∃ events, e'.history = events ++ e.history ∧ ∀ event ∈ events, event.Silent

theorem KeepsOutcome.aside {e e' : EspNowNetProtocolComponent}
    (observers : e'.commandResultObservers = e.commandResultObservers)
    (notification : e'.notification = e.notification) (history : e'.history = e.history) :
    KeepsOutcome e e' :=
  ⟨observers, Or.inl notification, [], history, fun _ member => absurd member List.not_mem_nil⟩

theorem KeepsOutcome.noted {e e' : EspNowNetProtocolComponent} {event : EndpointEvent}
    (observers : e'.commandResultObservers = e.commandResultObservers)
    (notification : e'.notification = e.notification) (history : e'.history = event :: e.history)
    (silent : event.Silent) : KeepsOutcome e e' :=
  ⟨observers, Or.inl notification, [event], history,
    fun _ member => List.mem_singleton.mp member ▸ silent⟩

theorem KeepsOutcome.refl (e : EspNowNetProtocolComponent) : KeepsOutcome e e :=
  .aside rfl rfl rfl

theorem KeepsOutcome.trans {e e' e'' : EspNowNetProtocolComponent} (first : KeepsOutcome e e')
    (second : KeepsOutcome e' e'') : KeepsOutcome e e'' := by
  obtain ⟨older, before, quiet⟩ := first.silent
  obtain ⟨newer, after, quieter⟩ := second.silent
  refine ⟨second.observers.trans first.observers, ?_, newer ++ older, by simp [after, before], ?_⟩
  · rcases second.notification with same | disabled
    · rcases first.notification with kept | disabled
      · exact Or.inl (same.trans kept)
      · exact Or.inr (after ▸ List.mem_append_right _ disabled)
    · exact Or.inr disabled
  · intro event member
    rcases List.mem_append.mp member with new | old
    · exact quieter event new
    · exact quiet event old

/-- Nothing an application can call ends a command or delivers a result. -/
theorem ControlEffect.keepsOutcome {e e' : EspNowNetProtocolComponent}
    (effect : ControlEffect e e') : KeepsOutcome e e' := by
  obtain ⟨events, history, called⟩ := effect.events
  refine ⟨effect.observers, effect.notification.imp_right And.right, events, history, ?_⟩
  intro event member
  have called := called event member
  cases event <;> trivial

theorem keepsOutcome_driver (e : EspNowNetProtocolComponent) (event : DriverEvent) :
    KeepsOutcome e (e.driverEvent event) := by
  cases event with
  | sendCallback | receiveCallback => exact .noted rfl rfl rfl trivial

theorem keepsOutcome_acceptDeliveryAck (e : EspNowNetProtocolComponent) (peer : PeerIndex)
    (ack : EspNowAckPayload) : KeepsOutcome e (e.acceptDeliveryAck peer ack) := by
  obtain ⟨outcome, kinds, same⟩ := acceptDeliveryAck_eq e peer ack
  rw [same]
  refine ⟨rfl, Or.inl rfl, outcome ++ [_], (List.append_assoc outcome [_] e.history).symm, ?_⟩
  rcases kinds with rfl | rfl | rfl <;> simp [EndpointEvent.Silent]

theorem EndpointEvent.Incidental.silent {event : EndpointEvent} (incidental : event.Incidental) :
    event.Silent := by
  cases event <;> trivial

/-- A step keeps the outcome, or queues progress, or ends a command. -/
theorem outcome_cases {e e' : EspNowNetProtocolComponent} (step : EndpointStep e e') :
    KeepsOutcome e e' ∨
      (∃ peer result, result.status = .inProgress ∧
        e' = e.queueCommandResultNotification peer result) ∨
      ∃ base slot result, KeepsOutcome e base ∧ result.Terminal ∧
        e' = base.finishCommandClient result slot := by
  cases step with
  | bookkeeping kept =>
    obtain ⟨_, _, _, _, _, events, incidental, rfl⟩ := kept.eq
    exact Or.inl ⟨rfl, Or.inl rfl, events, rfl, fun event member => (incidental event member).silent⟩
  | messageTaken taken consumption =>
    obtain ⟨_, events, incidental, rfl⟩ := consumption.eq
    exact Or.inl ⟨rfl, Or.inl rfl, events, rfl, fun event member => (incidental event member).silent⟩
  | enabled | ackDropped | startRefused
    | radioPolled | recoveryRequested | completionIgnored | heartbeatReceived | frameAccepted
    | delivered | senderLooped | senderReleased | frameRefused => exact Or.inl (.aside rfl rfl rfl)
  | started | externalDeadline | senderReset | discarded | completionReleases | messageReady
    | ackSent | frameSent | heartbeatSent => exact Or.inl (.noted rfl rfl rfl trivial)
  | commandStarted =>
    exact Or.inl ⟨rfl, Or.inl rfl, [_, _], rfl, by simp [EndpointEvent.Silent]⟩
  | completionDelivered =>
    exact Or.inl ⟨rfl, Or.inl rfl, [_, _], rfl, by simp [EndpointEvent.Silent]⟩
  | cancelled slot busy => exact Or.inl (cancelSlot_effect e slot).keepsOutcome
  | disabled enabled => exact Or.inl (disableRuntime_effect e).keepsOutcome
  | driver event => exact Or.inl (keepsOutcome_driver e event)
  | @ackReceived _ radio runtime ack taken run handed =>
    have received : KeepsOutcome e
        { e with radio, runtime := { runtime with deliveryAck := none } } := .aside rfl rfl rfl
    exact Or.inl (received.trans (keepsOutcome_acceptDeliveryAck _ _ ack))
  | @progressQueued peer result progress => exact Or.inr (Or.inl ⟨peer, result, progress, rfl⟩)
  | @finished slot result waiting terminal =>
    exact Or.inr (Or.inr ⟨e, slot, result, .refl e, terminal, rfl⟩)
  | deliveryFailed message nowMs owned ended =>
    exact Or.inr (Or.inr ⟨e.releaseSender, e.commandSenderSlot, _, .aside rfl rfl rfl,
      failureResult_terminal _ _ _ _, rfl⟩)

/-- Every ended command has been reported to every observer, or its report is the one that
    waits. -/
def EspNowNetProtocolComponent.Notified (e : EspNowNetProtocolComponent) : Prop :=
  ∀ observer ∈ e.commandResultObservers.observers, finishedResults e.history =
    e.notification.terminal ++ deliveredResults observer e.history

/-- A command ends while no notification waits, and the runtime stays enabled. -/
def NotifiesEnd : EndpointEvent → Prop
  | .commandFinished _ _ _ pending => pending = false
  | .runtimeDisabled => False
  | _ => True

instance decidableNotifiesEnd : DecidablePred NotifiesEnd := fun
  | .commandFinished _ _ _ pending => inferInstanceAs (Decidable (pending = false))
  | .runtimeDisabled => inferInstanceAs (Decidable False)
  | .messageStarted _ _ _ | .messageAcknowledged _ _ _ | .messageRejected _ _ _
  | .ackReceived _ _ _ | .messageReady _ | .frameSent _ _ | .frameReceived _ _
  | .frameCompleted _ _ | .transmissionReleased _ _ | .transmissionAbandoned
  | .radioEventsDiscarded _ | .sendReported _ _ | .commandDeclared _ | .commandStarted _ _ _
  | .commandCancelled _ _ _ _
  | .externalDeadlineSet _ | .commandAccepted _ _ | .commandVerified _ _
  | .commandAnswered _ _ _ | .resultStaged _ _ | .resultTaken _ _
  | .resultRouted _ _ | .resultOffered _ _ | .resultDelivered _ _ _ | .unsolicitedDelivered _ _
  | .senderReset _ => inferInstanceAs (Decidable True)

theorem KeepsOutcome.notified {e e' : EspNowNetProtocolComponent} (kept : KeepsOutcome e e')
    (clear : GuardedInvariant.Clear NotifiesEnd e'.history) (notified : e.Notified) :
    e'.Notified := by
  obtain ⟨events, history, silent⟩ := kept.silent
  intro observer member
  have same : e'.notification = e.notification :=
    kept.notification.resolve_right fun disabled => clear .runtimeDisabled disabled
  rw [kept.observers] at member
  rw [history, finishedResults_silent silent, deliveredResults_silent silent, same]
  exact notified observer member

theorem notified_progress {e : EspNowNetProtocolComponent} (notified : e.Notified)
    (peer : PeerIndex) {result : NetResult} (progress : result.status = .inProgress) :
    (e.queueCommandResultNotification peer result).Notified := by
  unfold queueCommandResultNotification
  split
  · exact notified
  · rename_i accepted
    simp only [not_or, Bool.not_eq_true] at accepted
    intro observer member
    have before := notified observer member
    simp only [CommandResultNotification.terminal, accepted.2, Bool.false_eq_true, false_and,
      ↓reduceIte] at before
    simpa [CommandResultNotification.terminal, NetResult.Terminal, progress] using before

theorem notified_finish {e : EspNowNetProtocolComponent} (notified : e.Notified) (slot : Fin 2)
    {result : NetResult} (terminal : result.Terminal)
    (clear : GuardedInvariant.Clear NotifiesEnd (e.finishCommandClient result slot).history) :
    (e.finishCommandClient result slot).Notified := by
  have vacant : e.notification.ready = false := by
    obtain ⟨notification, same⟩ := finishCommandClient_eq e result slot
    rw [same] at clear
    exact clear (.commandFinished _ _ _ _) List.mem_cons_self
  have observers : (e.finishCommandClient result slot).commandResultObservers =
      e.commandResultObservers := by
    obtain ⟨notification, same⟩ := finishCommandClient_eq e result slot
    rw [same]
  intro observer member
  rw [observers] at member
  have before := notified observer member
  simp only [CommandResultNotification.terminal, vacant, Bool.false_eq_true, false_and,
    ↓reduceIte, List.nil_append] at before
  have observed : e.commandResultObservers.observers.isEmpty = false := by
    cases observers : e.commandResultObservers.observers with
    | nil => simp [observers] at member
    | cons => rfl
  simp only [finishCommandClient, queueCommandResultNotification, clearCommandClient, setClient,
    record, observed, vacant, Bool.false_eq_true, or_self, ↓reduceIte]
  simp [finishedResults, deliveredResults, CommandResultNotification.terminal, terminal] at before ⊢
  exact before

theorem notified_step {e e' : EspNowNetProtocolComponent}
    (clear : GuardedInvariant.Clear NotifiesEnd e'.history) (notified : e.Notified)
    (step : EndpointStep e e') : e'.Notified := by
  rcases outcome_cases step with kept | ⟨peer, result, progress, rfl⟩ |
    ⟨base, slot, result, kept, terminal, rfl⟩
  · exact kept.notified clear notified
  · exact notified_progress notified peer progress
  · have earlier : base.history <:+ (base.finishCommandClient result slot).history := by
      obtain ⟨notification, same⟩ := finishCommandClient_eq base result slot
      rw [same]
      exact List.suffix_cons _ _
    exact notified_finish (kept.notified (clear.of_suffix earlier) notified) slot terminal clear

/- The notification phase -/

/-- One notification has been given to some observers and to nobody else. -/
structure Delivers (n : CommandResultNotification) (observers : List Nat)
    (e e' : EspNowNetProtocolComponent) : Prop where
  registered : e'.commandResultObservers = e.commandResultObservers
  notification : e'.notification = e.notification ∨ .runtimeDisabled ∈ e'.history
  finished : finishedResults e'.history = finishedResults e.history
  delivered : ∀ observer, deliveredResults observer e'.history =
    (if observer ∈ observers ∧ n.result.Terminal then [(n.peer, n.result)] else []) ++
      deliveredResults observer e.history

theorem delivers_one (env : EndpointEnvironment) (n : CommandResultNotification)
    (e : EspNowNetProtocolComponent) (observer : Nat) :
    Delivers n [observer] e (deliverResult env n e observer) := by
  have kept := (calls_effect (e.record (.resultDelivered observer n.peer n.result))
    (env.resultObserver observer)).keepsOutcome
  obtain ⟨events, history, silent⟩ := kept.silent
  refine ⟨kept.observers, kept.notification, ?_, fun other => ?_⟩
  · simp only [deliverResult, history, finishedResults_silent silent]
    rfl
  · simp only [deliverResult, history, deliveredResults_silent silent]
    change deliveredResults other (.resultDelivered observer n.peer n.result :: e.history) = _
    by_cases terminal : n.result.Terminal
    · by_cases here : observer = other
      · simp [deliveredResults, terminal, here]
      · have apart : ¬ other = observer := fun same => here same.symm
        simp [deliveredResults, terminal, here, apart]
    · simp [deliveredResults, terminal]

theorem delivers_grows (env : EndpointEnvironment) (n : CommandResultNotification)
    (observers : List Nat) (e : EspNowNetProtocolComponent) :
    e.history <:+ (observers.foldl (deliverResult env n) e).history := by
  induction observers generalizing e with
  | nil => exact List.suffix_rfl
  | cons observer observers ih =>
    have called := GuardedInvariant.extends_run step_extends
      (calls_steps (e.record (.resultDelivered observer n.peer n.result))
        (env.resultObserver observer))
    exact (List.suffix_cons _ _).trans (called.trans (ih _))

/-- The observers are registered once each, so each of them is called once. -/
theorem delivers_each (env : EndpointEnvironment) (n : CommandResultNotification)
    (observers : List Nat) (distinct : observers.Nodup) (e : EspNowNetProtocolComponent) :
    Delivers n observers e (observers.foldl (deliverResult env n) e) := by
  induction observers generalizing e with
  | nil => exact ⟨rfl, Or.inl rfl, rfl, fun _ => by simp⟩
  | cons observer observers ih =>
    have first := delivers_one env n e observer
    obtain ⟨fresh, rest⟩ := List.nodup_cons.mp distinct
    have later := ih rest (deliverResult env n e observer)
    have grown := delivers_grows env n observers (deliverResult env n e observer)
    refine ⟨later.registered.trans first.registered, ?_, later.finished.trans first.finished,
      fun other => ?_⟩
    · rcases later.notification with same | disabled
      · rcases first.notification with kept | disabled
        · exact Or.inl (same.trans kept)
        · exact Or.inr (grown.subset disabled)
      · exact Or.inr disabled
    · rw [List.foldl_cons, later.delivered, first.delivered]
      by_cases here : other = observer
      · subst here
        simp [fresh]
      · simp [here]

theorem notified_dispatch {e : EspNowNetProtocolComponent} (env : EndpointEnvironment)
    (clear : GuardedInvariant.Clear NotifiesEnd (e.dispatchCommandResultNotification env).history)
    (notified : e.Notified) : (e.dispatchCommandResultNotification env).Notified ∧
      ∀ observer ∈ e.commandResultObservers.observers,
        finishedResults e.history =
          deliveredResults observer (e.dispatchCommandResultNotification env).history := by
  by_cases ready : e.notification.ready = true
  · simp only [dispatchCommandResultNotification, ready, not_true_eq_false, ↓reduceIte] at clear ⊢
    have delivers := delivers_each env e.notification _ e.commandResultObservers.distinct
      ({ e with notification := { e.notification with ready := false } }.record
        (.resultOffered e.notification.peer e.notification.result))
    generalize e.commandResultObservers.observers.foldl (deliverResult env e.notification)
      ({ e with notification := { e.notification with ready := false } }.record
        (.resultOffered e.notification.peer e.notification.result)) = e' at clear delivers ⊢
    obtain ⟨registered, notification, finished, delivered⟩ := delivers
    have taken : e'.notification.ready = false := by
      rw [notification.resolve_right fun disabled => clear .runtimeDisabled disabled]
      rfl
    have unended : finishedResults e'.history = finishedResults e.history := finished
    have reported : ∀ observer ∈ e.commandResultObservers.observers,
        finishedResults e.history = deliveredResults observer e'.history := by
      intro observer member
      have before := notified observer member
      rw [delivered, before]
      simp only [CommandResultNotification.terminal, ready, member, true_and]
      rfl
    refine ⟨fun observer member => ?_, reported⟩
    simp only [registered] at member
    simp only [CommandResultNotification.terminal, taken, Bool.false_eq_true, false_and, ↓reduceIte,
      List.nil_append, unended]
    exact reported observer member
  · simp only [dispatchCommandResultNotification, ready]
    refine ⟨notified, fun observer member => ?_⟩
    have before := notified observer member
    simpa [CommandResultNotification.terminal, ready] using before

theorem notified_steps {e e' : EspNowNetProtocolComponent} (steps : EndpointSteps e e')
    (clear : GuardedInvariant.Clear NotifiesEnd e'.history) (notified : e.Notified) : e'.Notified :=
  GuardedInvariant.guarded step_extends _ _
    (fun clear notified step => notified_step clear notified step) steps notified clear

theorem observers_steps {e e' : EspNowNetProtocolComponent} (steps : EndpointSteps e e') :
    e'.commandResultObservers = e.commandResultObservers := by
  refine GuardedInvariant.preserved
    (fun s : EspNowNetProtocolComponent =>
      s.commandResultObservers = e.commandResultObservers) ?_ steps rfl
  intro s s' same step
  rcases outcome_cases step with kept | ⟨peer, result, _, rfl⟩ | ⟨base, slot, result, kept, _, rfl⟩
  · exact kept.observers.trans same
  · obtain ⟨notification, form⟩ := queueCommandResultNotification_eq s peer result
    rw [form]
    exact same
  · obtain ⟨notification, form⟩ := finishCommandClient_eq base result slot
    rw [form]
    exact kept.observers.trans same

theorem delivered_steps {e e' : EspNowNetProtocolComponent} (steps : EndpointSteps e e')
    (observer : Nat) :
    deliveredResults observer e'.history = deliveredResults observer e.history := by
  refine GuardedInvariant.preserved
    (fun s : EspNowNetProtocolComponent =>
      deliveredResults observer s.history = deliveredResults observer e.history) ?_ steps rfl
  intro s s' same step
  rcases outcome_cases step with kept | ⟨peer, result, _, rfl⟩ | ⟨base, slot, result, kept, _, rfl⟩
  · obtain ⟨events, history, silent⟩ := kept.silent
    rw [history, deliveredResults_silent silent]
    exact same
  · obtain ⟨notification, form⟩ := queueCommandResultNotification_eq s peer result
    rw [form]
    exact same
  · obtain ⟨events, history, silent⟩ := kept.silent
    obtain ⟨notification, form⟩ := finishCommandClient_eq base result slot
    rw [form, ← same, ← deliveredResults_silent silent observer s.history, ← history]
    rfl

/-- An iteration that goes on to its phases reports everything that ended before it. -/
theorem notified_loop {e : EspNowNetProtocolComponent} (env : EndpointEnvironment)
    (clear : GuardedInvariant.Clear NotifiesEnd (e.loop env).history) (notified : e.Notified) :
    (e.loop env).Notified ∧ (e.Proceeds env →
      ∀ observer ∈ e.commandResultObservers.observers,
        finishedResults e.history <:+ deliveredResults observer (e.loop env).history) := by
  rcases loop_cases e env with ⟨halted, steps⟩ | ⟨_, before, after⟩
  · exact ⟨notified_steps steps clear notified, fun proceeds => absurd proceeds halted⟩
  · have dispatched := clear.of_suffix (GuardedInvariant.extends_run step_extends after)
    have entered := notified_steps before (dispatched.of_suffix (GuardedInvariant.extends_run
      move_extends (dispatchCommandResultNotification_moves _ env))) notified
    obtain ⟨kept, reported⟩ := notified_dispatch env dispatched entered
    refine ⟨notified_steps after clear kept, fun _ observer member => ?_⟩
    rw [delivered_steps after, ← reported observer (by rw [observers_steps before]; exact member)]
    have grown := GuardedInvariant.extends_run step_extends before
    exact grown.filterMap _

theorem notified_operation {e : EspNowNetProtocolComponent} (operation : EndpointOperation)
    (clear : GuardedInvariant.Clear NotifiesEnd (operation.apply e).history)
    (notified : e.Notified) : (operation.apply e).Notified := by
  cases operation with
  | control call => exact notified_steps (control_steps e call) clear notified
  | driver event => exact notified_steps (.single (.driver e event)) clear notified
  | loop env => exact (notified_loop env clear notified).1

theorem notified_run {e : EspNowNetProtocolComponent} (operations : List EndpointOperation)
    (clear : GuardedInvariant.Clear NotifiesEnd (e.run operations).history)
    (notified : e.Notified) : (e.run operations).Notified := by
  induction operations generalizing e with
  | nil => exact notified
  | cons operation operations ih =>
    have grown := GuardedInvariant.extends_run move_extends
      (run_moves (operation.apply e) operations)
    exact ih clear (notified_operation operation (clear.of_suffix grown) notified)

/-- In a run that stays enabled and in which no command ends while another notification
    waits, every ended command is reported to every observer exactly once: it has been, or it
    is the one that waits, and then the next iteration that goes on to its phases reports it. -/
theorem terminal_results_delivered (config : Configuration) (random : UInt64)
    (operations : List EndpointOperation)
    (vacant : ∀ event ∈ ((setup config random).run operations).history, NotifiesEnd event)
    (observer : Nat)
    (member : observer ∈ ((setup config random).run operations).commandResultObservers.observers) :
    finishedResults ((setup config random).run operations).history =
        ((setup config random).run operations).notification.terminal ++
          deliveredResults observer ((setup config random).run operations).history ∧
      ∀ env, ((setup config random).run operations).Proceeds env →
        (∀ event ∈ (((setup config random).run operations).loop env).history, NotifiesEnd event) →
        finishedResults ((setup config random).run operations).history <:+
          deliveredResults observer (((setup config random).run operations).loop env).history := by
  have notified := notified_run operations vacant (e := setup config random) fun _ _ => rfl
  exact ⟨notified observer member, fun env proceeds stays =>
    (notified_loop env stays notified).2 proceeds observer member⟩

def observedConfiguration : Configuration :=
  { peers := samplePeers, commandResultObservers := ObserverSlots.empty.register 0 }

/-- A frame of the peer, whose boot id is 2, for transaction 7. -/
def samplePeerFrame (kind : EspNowFrameKind) (flags : UInt8) (sequence : UInt32)
    (payload : List UInt8) : EndpointOperation :=
  .driver (.receiveCallback (nodeAddress 1)
    (EspNowFrameCodec.fragmentFrame ⟨kind, flags, 2, 7, sequence⟩ payload 0).bytes)

/-- The sample command is started and acknowledged: slot 0 waits for its result. -/
def commandDelivered : List EndpointOperation :=
  radioReady ++
    [.control (.startCommand 0 sampleCommand 5250), .loop { nowMs := 5251 },
      .driver (.sendCallback 0 true), .loop { nowMs := 5251 },
      samplePeerFrame .ack 0 1 (EspNowAckCodec.encodedBytes ⟨⟨1, 7, 1⟩, .accepted⟩),
      .loop { nowMs := 5251 }]

theorem terminal_results_delivered_after_timeout :
    (∀ event ∈ ((setup observedConfiguration 1).run
        (commandDelivered ++ [.loop { nowMs := 6250 }])).history, NotifiesEnd event) ∧
      0 ∈ ((setup observedConfiguration 1).run
        (commandDelivered ++ [.loop { nowMs := 6250 }])).commandResultObservers.observers ∧
      finishedResults ((setup observedConfiguration 1).run
          (commandDelivered ++ [.loop { nowMs := 6250 }])).history =
        ((setup observedConfiguration 1).run
            (commandDelivered ++ [.loop { nowMs := 6250 }])).notification.terminal ++
          deliveredResults 0 ((setup observedConfiguration 1).run
            (commandDelivered ++ [.loop { nowMs := 6250 }])).history :=
  have vacant : ∀ event ∈ ((setup observedConfiguration 1).run
      (commandDelivered ++ [.loop { nowMs := 6250 }])).history, NotifiesEnd event := by
    decide +kernel
  have member : 0 ∈ ((setup observedConfiguration 1).run
      (commandDelivered ++ [.loop { nowMs := 6250 }])).commandResultObservers.observers := by
    decide +kernel
  ⟨vacant, member, (terminal_results_delivered _ _ _ vacant 0 member).1⟩

def sampleProgress : NetResult :=
  { transactionId := 7, status := .inProgress
    execution := { started := true, hasEstimatedCompletion := true, estimatedCompletionMs := 500 } }

def progressPayload : List UInt8 :=
  match EspNowResultCodec.encode sampleProgress with
  | .error _ => []
  | .ok payload => payload.bytes

/-- Progress arrives in the iteration in which the command runs out of time. -/
def progressMeetsTimeout : List EndpointOperation :=
  commandDelivered ++
    [samplePeerFrame .result EspNowFrameCodec.flagAckRequired 2 progressPayload,
      .loop { nowMs := 6250 }]

/-- The end of the command finds the progress notification waiting and is not reported. -/
theorem progress_drops_terminal_result :
    ¬ ∀ (config : Configuration) (random : UInt64) (operations : List EndpointOperation),
      .runtimeDisabled ∉ ((setup config random).run operations).history →
      ∀ observer ∈ ((setup config random).run operations).commandResultObservers.observers,
        finishedResults ((setup config random).run operations).history =
          ((setup config random).run operations).notification.terminal ++
            deliveredResults observer ((setup config random).run operations).history := by
  intro always
  have reported := always observedConfiguration 1 progressMeetsTimeout (by decide +kernel) 0
    (by decide +kernel)
  exact absurd reported (by decide +kernel)

end EspNowNet
