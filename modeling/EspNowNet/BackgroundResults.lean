import EspNowNet.BackgroundLog
import EspNowNet.Notification

/- Background results and their completions. Every call and every phase keeps the log of a run
   tied to the background slot and to the sender that works for it. -/
namespace EspNowNet
open EspNowNetProtocolComponent GuardedInvariant

namespace EspNowNetProtocolComponent

/- The order of the actions -/

/-- Latest first, a log is a row of results, each of them started, ended and taken before the
    next one is started. What is taken tells how the delivery ended. -/
def Allowed (older : List BackgroundAction) : BackgroundAction → Prop
  | .started _ => older = [] ∨ ∃ transactionId succeeded rest,
      older = .taken transactionId succeeded :: rest
  | .ended transactionId _ => ∃ rest, older = .started transactionId :: rest
  | .taken transactionId succeeded => ∃ state rest, older = .ended transactionId state :: rest ∧
      (succeeded = true ↔ state = .acknowledged)

def disturbs : EndpointEvent → Bool
  | .runtimeDisabled | .senderReset _ => true
  | _ => false

/-- The runtime has never been disabled and the sender never been reset. -/
def NeverDisturbed (history : List EndpointEvent) : Prop :=
  Clear (fun event => disturbs event = false) history

instance decidableNeverDisturbed (history : List EndpointEvent) : Decidable (NeverDisturbed history) :=
  inferInstanceAs (Decidable (∀ event ∈ history, disturbs event = false))

/-- The log ends where the endpoint stands. -/
structure Tied (e : EspNowNetProtocolComponent) (log : List BackgroundAction) : Prop where
  orderly : Throughout Allowed log
  active : e.reliableMessageOwner = .backgroundResult →
    e.background.completionReady = false ∧
      e.sender.envelope.transactionId = e.background.transactionId ∧
      ∃ rest, log = .started e.background.transactionId :: rest
  ready : e.background.completionReady = true → ∃ state rest,
    log = .ended e.background.transactionId state :: rest ∧
      (e.background.succeeded = true ↔ state = .acknowledged)
  free : e.reliableMessageOwner ≠ .backgroundResult → e.background.completionReady = false →
    log = [] ∨ ∃ transactionId succeeded rest, log = .taken transactionId succeeded :: rest

/-- Whatever happens between two states leaves the log tied to the endpoint. -/
structure Follows (e : EspNowNetProtocolComponent) (actions : List BackgroundAction)
    (e' : EspNowNetProtocolComponent) : Prop where
  extended : e.history <:+ e'.history
  tied : ∀ log, NeverDisturbed e'.history → Tied e log → Tied e' (actions ++ log)

variable {e e' e'' : EspNowNetProtocolComponent} {actions later : List BackgroundAction}

theorem Follows.trans (first : Follows e actions e') (second : Follows e' later e'') :
    Follows e (later ++ actions) e'' := by
  constructor
  · exact first.extended.trans second.extended
  · intro log undisturbed tied
    rw [List.append_assoc]
    apply second.tied _ undisturbed
    exact first.tied log (undisturbed.of_suffix second.extended) tied

theorem Follows.after (first : Follows e [] e') (second : Follows e' later e'') :
    Follows e later e'' := by
  have both := first.trans second
  rwa [List.append_nil] at both

/-- Nothing happens to the background result. -/
structure Aside (e e' : EspNowNetProtocolComponent) : Prop where
  owner : e'.reliableMessageOwner = .backgroundResult ↔ e.reliableMessageOwner = .backgroundResult
  background : e'.background = e.background
  transaction : e.reliableMessageOwner = .backgroundResult →
    e'.sender.envelope.transactionId = e.sender.envelope.transactionId

theorem Aside.of_same (owner : e'.reliableMessageOwner = e.reliableMessageOwner)
    (background : e'.background = e.background)
    (envelope : e'.sender.envelope = e.sender.envelope) : Aside e e' := by
  constructor
  · rw [owner]
  · exact background
  · intro _
    rw [envelope]

theorem Aside.trans (first : Aside e e') (second : Aside e' e'') : Aside e e'' := by
  constructor
  · exact second.owner.trans first.owner
  · exact second.background.trans first.background
  · intro own
    exact (second.transaction (first.owner.mpr own)).trans (first.transaction own)

theorem Aside.follows (aside : Aside e e') (extended : e.history <:+ e'.history) :
    Follows e [] e' := by
  constructor
  · exact extended
  · intro log _ tied
    rw [List.nil_append]
    constructor
    · exact tied.orderly
    · intro own
      have before := aside.owner.mp own
      rw [aside.background, aside.transaction before]
      exact tied.active before
    · rw [aside.background]
      exact tied.ready
    · intro free
      rw [aside.background]
      exact tied.free fun before => free (aside.owner.mpr before)

theorem follows_refl (e : EspNowNetProtocolComponent) : Follows e [] e :=
  (Aside.of_same rfl rfl rfl).follows List.suffix_rfl

/-- Nothing is said of what a disabled runtime or a reset sender leaves. -/
theorem follows_disturbed (moves : EndpointMoves e e') (disturbed : ¬ NeverDisturbed e'.history) :
    Follows e actions e' := by
  constructor
  · exact extends_run move_extends moves
  · intro log undisturbed _
    exact absurd undisturbed disturbed

/- The control calls -/

theorem Aside.of_free (before : e.reliableMessageOwner ≠ .backgroundResult)
    (after : e'.reliableMessageOwner ≠ .backgroundResult)
    (background : e'.background = e.background) : Aside e e' := by
  constructor
  · exact iff_of_false after before
  · exact background
  · intro own
    exact absurd own before

theorem aside_startReliableMessage (e : EspNowNetProtocolComponent) (peer : PeerIndex)
    (kind : EspNowFrameKind) (transactionId : TransactionId) (data : Option (List UInt8)) :
    Aside e (e.startReliableMessage peer kind transactionId data).2 := by
  unfold startReliableMessage
  split
  · exact .of_same rfl rfl rfl
  · rename_i free
    have none : e.reliableMessageOwner = .none := Decidable.not_not.mp free
    obtain ⟨sender, ⟨_, start⟩ | ⟨_, start⟩⟩ := startSender_cases e peer kind transactionId data
    · rw [start]
      exact .of_free (by simp [none]) (by simp [none]) rfl
    · rw [start]
      exact .of_free (by simp [none]) (by simp) rfl

theorem aside_startCommand (e : EspNowNetProtocolComponent) (peer : PeerIndex)
    (command : NetCommand) (nowMs : UInt32) : Aside e (e.startCommand peer command nowMs).2 := by
  unfold startCommand
  split
  · exact .of_same rfl rfl rfl
  · rename_i accepted
    simp only [not_or, Decidable.not_not] at accepted
    have none : e.reliableMessageOwner = .none := by
      have can := accepted.1
      simp only [canStartCommand, Bool.and_eq_true, decide_eq_true_eq] at can
      exact can.1.2
    split
    · exact .of_same rfl rfl rfl
    · rename_i encoded encodes
      simp only
      obtain ⟨sender, ⟨_, start⟩ | ⟨_, start⟩⟩ :=
        startSender_cases e peer .command command.transactionId (some encoded.bytes)
      · rw [start]
        exact .of_free (by simp [none]) (by simp [none]) rfl
      · rw [start]
        exact .of_free (by simp [none]) (by simp [record]) rfl

theorem aside_sendCommand (e : EspNowNetProtocolComponent)
    (peerId deviceId resource name payload : List UInt8) (timeoutMs nowMs : UInt32) :
    Aside e (e.sendCommand peerId deviceId resource name payload timeoutMs nowMs).2 := by
  unfold sendCommand
  simp only
  split
  · exact .of_same rfl rfl rfl
  · have declared : Aside e ({ e with
        nextDeclarativeTransactionId := nextDeclarativeId e.nextDeclarativeTransactionId }.record
          (.commandDeclared (0xE000000000000000 ||| e.nextDeclarativeTransactionId))) :=
      .of_same rfl rfl rfl
    split
    · exact declared
    · exact declared.trans (aside_startCommand _ _ _ _)

theorem aside_cancelCommand (e : EspNowNetProtocolComponent) (transactionId : TransactionId) :
    Aside e (e.cancelCommand transactionId).2 := by
  unfold cancelCommand
  split
  · exact .of_same rfl rfl rfl
  · split
    · exact .of_same rfl rfl rfl
    · rename_i slot _
      simp only
      rw [cancelSlot_eq e slot]
      by_cases own : e.reliableMessageOwner = .commandClient ∧ e.commandSenderSlot = slot
      · exact .of_free (by simp [own.1]) (by simp [own]) rfl
      · exact .of_same (if_neg own) rfl (by simp only [if_neg own])

theorem aside_useExternalResultDeadline (e : EspNowNetProtocolComponent)
    (transactionId : TransactionId) : Aside e (e.useExternalResultDeadline transactionId).2 := by
  unfold useExternalResultDeadline
  split
  · exact .of_same rfl rfl rfl
  · split <;> exact .of_same rfl rfl rfl

theorem follows_setRuntimeEnabled (e : EspNowNetProtocolComponent) (enabled : Bool) :
    Follows e [] (e.setRuntimeEnabled enabled) := by
  have moves := (setRuntimeEnabled_steps e enabled).moves
  unfold setRuntimeEnabled at moves ⊢
  split
  · exact follows_refl e
  · rename_i changed
    rw [if_neg changed] at moves
    split
    · rename_i on
      rw [if_pos on] at moves
      have aside : Aside e { e with runtimeEnabled := true } := .of_same rfl rfl rfl
      exact aside.follows (extends_run move_extends moves)
    · rename_i off
      rw [if_neg off] at moves
      apply follows_disturbed moves
      intro undisturbed
      obtain ⟨cancelled, ⟨cancels, rfl, _⟩, history⟩ := disableRuntime_history e
      have off := undisturbed .runtimeDisabled (by simp [history])
      cases off

/-- A start that returns true finds the sender free and no completion left, and gives the sender
    this result. -/
theorem startBackgroundResult_cases (e : EspNowNetProtocolComponent) (peer : PeerIndex)
    (result : NetResult) :
    ((e.startBackgroundResult peer result).1 = false ∧
        Aside e (e.startBackgroundResult peer result).2) ∨
      ((e.startBackgroundResult peer result).1 = true ∧ e.reliableMessageOwner = .none ∧
        e.background.completionReady = false ∧
        (e.startBackgroundResult peer result).2.reliableMessageOwner = .backgroundResult ∧
        (e.startBackgroundResult peer result).2.background =
          { e.background with transactionId := result.transactionId } ∧
        (e.startBackgroundResult peer result).2.sender.envelope.transactionId =
          result.transactionId) := by
  unfold startBackgroundResult
  split
  · exact Or.inl ⟨rfl, .of_same rfl rfl rfl⟩
  · rename_i accepted
    simp only [not_or, Decidable.not_not] at accepted
    obtain ⟨_, _, none, _, clear, _⟩ := accepted
    split
    · exact Or.inl ⟨rfl, .of_same rfl rfl rfl⟩
    · rename_i encoded encodes
      obtain ⟨sender, ⟨_, start⟩ | ⟨run, start⟩⟩ :=
        startSender_cases e peer .result result.transactionId (some encoded.bytes)
      · rw [start]
        exact Or.inl ⟨rfl, .of_free (by simp [none]) (by simp [none]) rfl⟩
      · rw [start]
        obtain ⟨_, _, _, _, _, _, _, _, form⟩ := ReliableMessageSender.start_true run
        refine Or.inr ⟨rfl, none, Bool.eq_false_iff.mpr clear, rfl, rfl, ?_⟩
        change sender.envelope.transactionId = _
        rw [form]
        rfl

theorem follows_startBackgroundResult (e : EspNowNetProtocolComponent) (peer : PeerIndex)
    (result : NetResult) :
    Follows e (e.callActions (.startBackgroundResult peer result))
      (e.startBackgroundResult peer result).2 := by
  have moves := (startBackgroundResult_steps e peer result).moves
  simp only [callActions]
  rcases e.startBackgroundResult_cases peer result with
    ⟨refused, aside⟩ | ⟨accepted, none, clear, owner, background, transaction⟩
  · rw [refused, if_neg Bool.false_ne_true]
    exact aside.follows (extends_run move_extends moves)
  · rw [accepted, if_pos rfl]
    generalize (e.startBackgroundResult peer result).2 = next at *
    constructor
    · exact extends_run move_extends moves
    · intro log _ tied
      have idle := tied.free (by simp [none]) clear
      constructor
      · exact throughout_cons.mpr ⟨idle, tied.orderly⟩
      · intro _
        rw [background]
        exact ⟨clear, transaction, log, rfl⟩
      · intro ready
        rw [background] at ready
        exact absurd (ready.symm.trans clear) (by decide)
      · intro free
        exact absurd owner free

/-- A completion is taken as the ended delivery left it. -/
theorem follows_takeBackgroundResultCompletion (e : EspNowNetProtocolComponent) :
    Follows e (e.callActions .takeBackgroundResultCompletion)
      e.takeBackgroundResultCompletion.2 := by
  have moves := (takeBackgroundResultCompletion_steps e).moves
  simp only [callActions]
  unfold takeBackgroundResultCompletion at moves ⊢
  split at moves
  · rename_i waiting
    simp only [if_pos waiting]
    exact follows_refl e
  · rename_i present
    have ready : e.background.completionReady = true := Decidable.not_not.mp present
    simp only [if_neg present]
    constructor
    · exact extends_run move_extends moves
    · intro log _ tied
      obtain ⟨state, rest, rfl, outcome⟩ := tied.ready ready
      constructor
      · exact throughout_cons.mpr ⟨⟨state, rest, rfl, outcome⟩, tied.orderly⟩
      · intro own
        have clear := (tied.active own).1
        exact absurd (ready.symm.trans clear) (by decide)
      · intro again
        cases again
      · intro _ _
        exact Or.inr ⟨_, _, _, rfl⟩

theorem follows_call (e : EspNowNetProtocolComponent) (call : ControlCall) :
    Follows e (e.callActions call) (call.apply e) := by
  have moves := (control_steps e call).moves
  have extended := extends_run move_extends moves
  cases call with
  | setRuntimeEnabled enabled => exact follows_setRuntimeEnabled e enabled
  | sendCommand => exact (aside_sendCommand e _ _ _ _ _ _ _).follows extended
  | startCommand => exact (aside_startCommand e _ _ _).follows extended
  | startBackgroundResult peer result => exact follows_startBackgroundResult e peer result
  | cancelCommand => exact (aside_cancelCommand e _).follows extended
  | startReliableMessage => exact (aside_startReliableMessage e _ _ _ _).follows extended
  | takeBackgroundResultCompletion => exact follows_takeBackgroundResultCompletion e
  | resetSender =>
    apply follows_disturbed moves
    intro undisturbed
    have reset := undisturbed (.senderReset e.reliableMessageOwner) List.mem_cons_self
    cases reset
  | takeApplicationMessage =>
    have aside : Aside e e.takeApplicationMessage.2 := .of_same rfl rfl rfl
    exact aside.follows extended
  | useExternalResultDeadline => exact (aside_useExternalResultDeadline e _).follows extended

theorem follows_calls (e : EspNowNetProtocolComponent) (script : List ControlCall) :
    Follows e (e.callsActions script) (e.calls script) := by
  induction script generalizing e with
  | nil => exact follows_refl e
  | cons call script ih => exact (follows_call e call).trans (ih _)

/- The phases with callbacks -/

theorem follows_record (e : EspNowNetProtocolComponent) (event : EndpointEvent) :
    Follows e [] (e.record event) := by
  have aside : Aside e (e.record event) := .of_same rfl rfl rfl
  exact aside.follows (List.suffix_cons _ _)

/-- A callback is noted, and then makes its calls. -/
theorem follows_callback (e : EspNowNetProtocolComponent) (event : EndpointEvent)
    (script : List ControlCall) :
    Follows e ((e.record event).callsActions script) ((e.record event).calls script) :=
  (follows_record e event).after (follows_calls (e.record event) script)

theorem follows_visit {visit : EspNowNetProtocolComponent → Nat → EspNowNetProtocolComponent}
    {made : EspNowNetProtocolComponent → Nat → List BackgroundAction}
    (each : ∀ e observer, Follows e (made e observer) (visit e observer))
    (e : EspNowNetProtocolComponent) (observers : List Nat) :
    Follows e (visitActions visit made e observers) (observers.foldl visit e) := by
  induction observers generalizing e with
  | nil => exact follows_refl e
  | cons observer rest ih => exact (each e observer).trans (ih _)

theorem follows_notification (e : EspNowNetProtocolComponent) (env : EndpointEnvironment) :
    Follows e (e.notificationActions env) (e.dispatchCommandResultNotification env) := by
  unfold dispatchCommandResultNotification notificationActions
  split
  · exact follows_refl e
  · simp only
    let taken := { e with notification := { e.notification with ready := false } }.record
      (.resultOffered e.notification.peer e.notification.result)
    have aside : Aside e taken := .of_same rfl rfl rfl
    have offered := aside.follows (List.suffix_cons _ _)
    have each (visited : EspNowNetProtocolComponent) (observer : Nat) :
        Follows visited ((visited.record (.resultDelivered observer e.notification.peer
          e.notification.result)).callsActions (env.resultObserver observer))
          (deliverResult env e.notification visited observer) :=
      follows_callback _ _ _
    have whole := offered.after (follows_visit each taken e.commandResultObservers.observers)
    generalize e.commandResultObservers.observers.foldl (deliverResult env e.notification) taken =
      notified at whole ⊢
    have cleared : Aside notified { notified with
        notification := { ready := notified.notification.ready } } := .of_same rfl rfl rfl
    exact whole.trans (cleared.follows List.suffix_rfl)

theorem follows_acceptCommand (e : EspNowNetProtocolComponent) (env : EndpointEnvironment)
    (inbound : EspNowInboundApplicationMessage) (lane : InboundLane) :
    Follows e (e.acceptActions env inbound lane) (e.acceptCommand env inbound lane) := by
  unfold acceptCommand acceptActions
  simp only
  let next := { e with
    lanes := Function.update e.lanes lane
      ((e.lanes lane).accept inbound (env.lanes lane).answers env.nowMs).2 }.record
        (.commandAccepted lane inbound)
  have aside : Aside e next := .of_same rfl rfl rfl
  have accepted := aside.follows (List.suffix_cons _ _)
  cases (e.lanes lane).acceptedCommand inbound with
  | none => exact accepted
  | some command =>
    have identified : Follows next [] (next.onCommandIdentity inbound.peerIndex command) := by
      unfold onCommandIdentity
      split
      · exact follows_record _ _
      · exact follows_refl _
    have verified := accepted.after identified
    simp only
    split
    · exact verified.after (follows_callback _ _ _)
    · exact verified.after (follows_calls _ _)

theorem follows_unsolicited (e : EspNowNetProtocolComponent) (env : EndpointEnvironment)
    (inbound : EspNowInboundApplicationMessage) :
    Follows e (e.unsolicitedActions env inbound) (e.dispatchUnsolicitedResult env inbound) := by
  unfold dispatchUnsolicitedResult unsolicitedActions
  cases EspNowResultCodec.decode inbound.message.envelope.transactionId
      inbound.message.data.bytes 0 with
  | error code => exact follows_refl e
  | ok result =>
    apply follows_visit
    intro e observer
    exact follows_callback _ _ _

theorem follows_finishCommandClient (e : EspNowNetProtocolComponent) (result : NetResult)
    (slot : Fin 2) : Follows e [] (e.finishCommandClient result slot) := by
  obtain ⟨notification, same⟩ := finishCommandClient_eq e result slot
  have aside : Aside e (e.finishCommandClient result slot) := by
    rw [same]
    exact .of_same rfl rfl rfl
  apply aside.follows
  rw [same]
  exact List.suffix_cons _ _

theorem follows_processCommandClientResult (e : EspNowNetProtocolComponent)
    (inbound : EspNowInboundApplicationMessage) (nowMs : UInt32) (slot : Fin 2) :
    Follows e [] (e.processCommandClientResult inbound nowMs slot) := by
  unfold processCommandClientResult
  simp only
  split
  · exact follows_finishCommandClient _ _ _
  · split
    · obtain ⟨notification, same⟩ := queueCommandResultNotification_eq e (e.clients slot).peer _
      rw [same]
      have aside : Aside e { e with notification } := .of_same rfl rfl rfl
      exact aside.follows List.suffix_rfl
    · exact follows_finishCommandClient _ _ _

/-- The calls that the route of a RESULT leads to. -/
theorem follows_routeResult (e : EspNowNetProtocolComponent) (env : EndpointEnvironment)
    (inbound : EspNowInboundApplicationMessage) (route : ResultRoute) :
    Follows e
      (match route with
        | .unsolicited =>
          (e.record (.resultRouted .unsolicited inbound)).unsolicitedActions env inbound
        | .client _ | .late | .mailbox => [])
      (e.routeResult env inbound route) := by
  have routed := follows_record e (.resultRouted route inbound)
  cases route with
  | client slot => exact routed.after (follows_processCommandClientResult _ _ _ _)
  | late => exact routed
  | unsolicited => exact routed.after (follows_unsolicited _ _ _)
  | mailbox =>
    let filled := { e.record (.resultRouted .mailbox inbound) with resultMessage := some inbound }
    have aside : Aside (e.record (.resultRouted .mailbox inbound)) filled := .of_same rfl rfl rfl
    exact routed.after (aside.follows List.suffix_rfl)

theorem follows_applicationMessage (e : EspNowNetProtocolComponent) (env : EndpointEnvironment) :
    Follows e (e.applicationMessageActions env) (e.processApplicationMessage env) := by
  unfold processApplicationMessage applicationMessageActions
  split
  · exact follows_refl e
  · obtain ⟨⟨inbound, runtime⟩, run⟩ : ∃ next, e.runtime.takeApplicationMessage = next := ⟨_, rfl⟩
    rw [run]
    cases inbound with
    | none => exact follows_refl e
    | some inbound =>
      simp only
      have aside : Aside e { e with runtime } := .of_same rfl rfl rfl
      have taken := aside.follows List.suffix_rfl
      cases inbound.message.envelope.kind with
      | command =>
        cases e.commandLane inbound with
        | some lane => exact taken.after (follows_acceptCommand { e with runtime } env inbound lane)
        | none => exact taken
      | result => exact taken.after (follows_routeResult { e with runtime } env inbound _)
      | ack => exact taken

theorem follows_dispatcherLoop (e : EspNowNetProtocolComponent) (env : EndpointEnvironment)
    (lane : InboundLane) :
    Follows e (e.dispatcherActions env lane) (e.dispatcherLoop env lane) := by
  unfold dispatcherLoop dispatcherActions
  split
  · exact follows_refl e
  · have looped : Follows e [] (e.loopLane lane (env.lanes lane).answers env.nowMs) := by
      obtain ⟨events, _, same⟩ := loopLane_eq e lane (env.lanes lane).answers env.nowMs
      rw [same]
      have aside : Aside e { e with
        lanes := Function.update e.lanes lane
          ((e.lanes lane).loop (env.lanes lane).answers env.nowMs)
        history := events ++ e.history } := .of_same rfl rfl rfl
      exact aside.follows (List.suffix_append _ _)
    simp only
    split
    · exact looped.after (follows_calls _ _)
    · exact looped

end EspNowNetProtocolComponent

/- The sender keeps its envelope while it works on a message -/

namespace ReliableMessageSender

theorem loop_envelope (s : ReliableMessageSender) (nowMs : UInt32) :
    (s.loop nowMs).envelope = s.envelope := by
  unfold loop
  simp only
  split
  · split <;> rfl
  all_goals rfl

theorem takeFrame_envelope (s : ReliableMessageSender) : s.takeFrame.2.envelope = s.envelope := by
  unfold takeFrame
  split
  · rfl
  · split <;> rfl

theorem markSent_envelope (s : ReliableMessageSender) (nowMs : UInt32) :
    (s.markSent nowMs).2.envelope = s.envelope := by
  unfold markSent
  split <;> rfl

theorem completeFrame_envelope (s : ReliableMessageSender) (succeeded : Bool) (nowMs : UInt32) :
    (s.completeFrame succeeded nowMs).2.envelope = s.envelope := by
  unfold completeFrame
  split
  · rfl
  · simp only
    split
    · exact markSent_envelope _ _
    · split
      · rfl
      · exact markSent_envelope _ _

theorem acceptAck_envelope (s : ReliableMessageSender) (ack : EspNowAckPayload) :
    (s.acceptAck ack).2.envelope = s.envelope := by
  unfold acceptAck
  split <;> rfl

end ReliableMessageSender

namespace EspNowNetProtocolComponent
open ReliableMessageSender

/- The phases without callbacks -/

theorem aside_processSendCompletion (e : EspNowNetProtocolComponent) (nowMs : UInt32) :
    Aside e (e.processSendCompletion nowMs) := by
  unfold processSendCompletion
  obtain ⟨⟨completion, radio⟩, run⟩ : ∃ next, e.radio.takeSendCompletion = next := ⟨_, rfl⟩
  rw [run]
  cases completion with
  | none => exact .of_same rfl rfl rfl
  | some completion =>
    simp only
    split
    · exact .of_same rfl rfl rfl
    · split
      · exact .of_same rfl rfl (completeFrame_envelope _ _ _)
      · exact .of_same rfl rfl rfl

theorem aside_acceptProtocolFrame (e : EspNowNetProtocolComponent)
    (received : EspNowReceivedFrame) : Aside e (e.acceptProtocolFrame received) := by
  unfold acceptProtocolFrame
  split
  · split
    · rename_i ack runtime _
      obtain ⟨outcome, _, same⟩ := acceptDeliveryAck_eq { e with runtime } received.peerIndex ack
      rw [same]
      exact .of_same rfl rfl (acceptAck_envelope _ _)
    · exact .of_same rfl rfl rfl
  · simp only
    split <;> exact .of_same rfl rfl rfl
  · exact .of_same rfl rfl rfl

theorem aside_processReceivedFrame (e : EspNowNetProtocolComponent) (receivedMs : UInt32) :
    Aside e (e.processReceivedFrame receivedMs) := by
  unfold processReceivedFrame
  obtain ⟨⟨received, radio⟩, run⟩ : ∃ next, e.radio.takeReceivedFrame = next := ⟨_, rfl⟩
  rw [run]
  have polled : Aside e { e with radio } := .of_same rfl rfl rfl
  cases received with
  | none => exact polled
  | some received =>
    simp only
    split
    · split
      · exact .of_same rfl rfl rfl
      · exact polled.trans (aside_acceptProtocolFrame _ _)
    · exact polled.trans (aside_acceptProtocolFrame _ _)

theorem follows_checkResultDeadline (e : EspNowNetProtocolComponent) (nowMs : UInt32)
    (slot : Fin 2) : Follows e [] (e.checkResultDeadline nowMs slot) := by
  unfold checkResultDeadline
  split
  · exact follows_finishCommandClient _ _ _
  · exact follows_refl e

theorem aside_processDispatcher (e : EspNowNetProtocolComponent) : Aside e e.processDispatcher := by
  unfold processDispatcher
  split
  · exact .of_same rfl rfl rfl
  · rename_i idle
    have free : e.reliableMessageOwner = .none := Decidable.not_not.mp (not_or.mp idle).1
    simp only
    split
    · exact .of_same rfl rfl rfl
    · rename_i pending dispatcher _
      obtain ⟨sender, ⟨_, start⟩ | ⟨_, start⟩⟩ := startSender_cases
        ({ e with lanes := Function.update e.lanes e.resultLane dispatcher }.record
          (.resultTaken e.resultLane pending)) pending.peerIndex .result pending.transactionId
        (some pending.payload.bytes)
      · rw [start]
        exact .of_free (by simp [free]) (by simp [record, free]) rfl
      · rw [start]
        exact .of_free (by simp [free]) (by simp) rfl

theorem aside_transmit (e : EspNowNetProtocolComponent) (owner : RadioTransmissionOwner)
    (peer : PeerIndex) (data : List UInt8) (accepted : Bool) :
    Aside e (e.transmit owner peer data accepted).2 := by
  unfold transmit
  split <;> exact .of_same rfl rfl rfl

theorem aside_dispatchApplicationAck (e : EspNowNetProtocolComponent) (accepted : Bool) :
    Aside e (e.dispatchApplicationAck accepted) := by
  unfold dispatchApplicationAck
  split
  · exact .of_same rfl rfl rfl
  · split
    · exact .of_same rfl rfl rfl
    · rename_i pending runtime _
      have taken : Aside e { e with runtime } := .of_same rfl rfl rfl
      simp only
      split
      · exact taken
      · split
        · exact .of_same rfl rfl rfl
        · rename_i frame _
          have counted : Aside e { e with runtime, ackSequence := nextSequence e.ackSequence } :=
            .of_same rfl rfl rfl
          exact counted.trans (aside_transmit _ _ _ _ _)

theorem aside_dispatchSenderFrame (e : EspNowNetProtocolComponent) (nowMs : UInt32)
    (accepted : Bool) : Aside e (e.dispatchSenderFrame nowMs accepted) := by
  unfold dispatchSenderFrame
  split
  · exact .of_same rfl rfl rfl
  · have same := takeFrame_envelope e.sender
    obtain ⟨⟨taken, sender⟩, run⟩ : ∃ next, e.sender.takeFrame = next := ⟨_, rfl⟩
    rw [run] at same ⊢
    have aside : Aside e { e with sender } := .of_same rfl rfl same
    cases taken with
    | none => exact aside
    | some taken =>
      obtain ⟨peer, frame⟩ := taken
      simp only
      have sent := aside.trans (aside_transmit { e with sender } .sender peer frame.bytes accepted)
      obtain ⟨⟨accepted, next⟩, run⟩ :
        ∃ next, { e with sender }.transmit .sender peer frame.bytes accepted = next := ⟨_, rfl⟩
      rw [run] at sent ⊢
      cases accepted with
      | true => exact sent.trans (.of_same rfl rfl rfl)
      | false => exact sent.trans (.of_same rfl rfl (completeFrame_envelope _ _ _))

theorem aside_dispatchHeartbeat (e : EspNowNetProtocolComponent) (nowMs : UInt32)
    (accepted : Bool) : Aside e (e.dispatchHeartbeat nowMs accepted) := by
  unfold dispatchHeartbeat
  split
  · exact .of_same rfl rfl rfl
  · split
    · exact .of_same rfl rfl rfl
    · rename_i packet heartbeat _
      have noted : Aside e { e with heartbeat } := .of_same rfl rfl rfl
      exact (noted.trans (aside_transmit _ _ _ _ _)).trans (.of_same rfl rfl rfl)

/- The end of a delivery -/

/-- The completion is left as the sender's state says, and the sender is given back. -/
theorem follows_backgroundCompleted (owned : e.reliableMessageOwner = .backgroundResult)
    {state : ReliableSenderState} {succeeded : Bool}
    (outcome : succeeded = true ↔ state = .acknowledged) (radio : EspIdfEspNowEncryptedRadio) :
    Follows e [.ended e.sender.envelope.transactionId state]
      { e with
        radio
        background := { e.background with succeeded, completionReady := true } }.releaseSender := by
  constructor
  · exact List.suffix_rfl
  · intro log _ tied
    obtain ⟨_, transaction, rest, rfl⟩ := tied.active owned
    rw [transaction]
    constructor
    · exact throughout_cons.mpr ⟨⟨rest, rfl⟩, tied.orderly⟩
    · intro own
      cases own
    · intro _
      exact ⟨state, _, rfl, outcome⟩
    · intro _ clear
      cases clear

theorem follows_releaseSender (other : e.reliableMessageOwner ≠ .backgroundResult)
    (radio : EspIdfEspNowEncryptedRadio) : Follows e [] { e with radio }.releaseSender := by
  have aside : Aside e { e with radio }.releaseSender :=
    .of_free other (by simp [releaseSender]) rfl
  exact aside.follows List.suffix_rfl

theorem follows_processOwnedSenderCompletion (e : EspNowNetProtocolComponent)
    (env : EndpointEnvironment) :
    Follows e e.completionActions (e.processOwnedSenderCompletion env) := by
  unfold processOwnedSenderCompletion completionActions
  cases owner : e.reliableMessageOwner with
  | none | apiCaller => exact follows_refl e
  | commandClient =>
    have released := follows_releaseSender (e := e) (by simp [owner])
    cases e.sender.state with
    | acknowledged =>
      have aside : Aside e.releaseSender (e.releaseSender.setClient e.commandSenderSlot
        { e.clients e.commandSenderSlot with state := .waitingForResult }) := .of_same rfl rfl rfl
      exact (released e.radio).after (aside.follows List.suffix_rfl)
    | rejected => exact (released e.radio).after (follows_finishCommandClient _ _ _)
    | timedOut =>
      exact (released (e.requestRecovery env).radio).after (follows_finishCommandClient _ _ _)
    | idle | ready | frameInFlight | waitingForAck => exact follows_refl e
  | dispatcherResult =>
    have released := follows_releaseSender (e := e) (by simp [owner])
    cases e.sender.state with
    | acknowledged => exact released e.radio
    | rejected => exact released e.radio
    | timedOut => exact released (e.requestRecovery env).radio
    | idle | ready | frameInFlight | waitingForAck => exact follows_refl e
  | backgroundResult =>
    simp only
    cases e.sender.state with
    | acknowledged => exact follows_backgroundCompleted owner (by simp) e.radio
    | rejected => exact follows_backgroundCompleted owner (by simp) e.radio
    | timedOut => exact follows_backgroundCompleted owner (by simp) (e.requestRecovery env).radio
    | idle | ready | frameInFlight | waitingForAck => exact follows_refl e

/- Iterations and runs -/

theorem follows_driverEvents (e : EspNowNetProtocolComponent) (events : List DriverEvent) :
    Follows e [] (e.driverEvents events) := by
  induction events generalizing e with
  | nil => exact follows_refl e
  | cons event events ih =>
    obtain ⟨radio, history, grown, same⟩ := driverEvent_eq e event
    have aside : Aside e (e.driverEvent event) := by
      rw [same]
      exact .of_same rfl rfl rfl
    have extended : e.history <:+ (e.driverEvent event).history := by
      rw [same]
      exact grown
    exact (aside.follows extended).after (ih _)

/-- What the driver does before a phase is no action. -/
theorem follows_phases (env : EndpointEnvironment)
    (rest : List ((EspNowNetProtocolComponent → EspNowNetProtocolComponent) ×
      (EspNowNetProtocolComponent → List BackgroundAction)))
    (each : ∀ phase ∈ rest, ∀ e, Follows e (phase.2 e) (phase.1 e))
    (e : EspNowNetProtocolComponent) :
    Follows e (phasesActions env e rest) (runPhases env e (rest.map Prod.fst)) := by
  induction rest generalizing e with
  | nil => exact follows_refl e
  | cons phase rest ih =>
    have driven := follows_driverEvents e (env.driver rest.length)
    have done := driven.after (each phase List.mem_cons_self _)
    have later := ih (fun next member => each next (List.mem_cons_of_mem _ member))
      (phase.1 (e.driverEvents (env.driver rest.length)))
    simp only [List.map_cons, runPhases, List.length_map, phasesActions]
    exact done.trans later

theorem loggedPhases_fst (env : EndpointEnvironment) :
    (loggedPhases env).map Prod.fst = phases env :=
  rfl

theorem follows_loggedPhase (env : EndpointEnvironment) :
    ∀ phase ∈ loggedPhases env, ∀ e, Follows e (phase.2 e) (phase.1 e) := by
  intro phase member e
  have aside {e' : EspNowNetProtocolComponent} (steps : EndpointSteps e e') (kept : Aside e e') :
      Follows e [] e' := kept.follows (extends_run step_extends steps)
  simp only [loggedPhases, phases, List.zip_cons_cons, List.zip_nil_right, List.mem_cons,
    List.not_mem_nil, or_false] at member
  rcases member with rfl | rfl | rfl | rfl | rfl | rfl | rfl | rfl | rfl | rfl | rfl | rfl | rfl |
    rfl | rfl
  · exact follows_notification e env
  · exact aside (processSendCompletion_steps e _) (aside_processSendCompletion e _)
  · exact aside (processReceivedFrame_steps e _) (aside_processReceivedFrame e _)
  · exact follows_applicationMessage e env
  · exact follows_checkResultDeadline e _ 0
  · simp only
    split
    · exact follows_checkResultDeadline e _ 1
    · exact follows_refl e
  · exact follows_dispatcherLoop e env .command
  · exact follows_dispatcherLoop e env .parallel
  · exact follows_dispatcherLoop e env .interrupt
  · exact aside (.single (.senderLooped e _)) (.of_same rfl rfl (loop_envelope _ _))
  · exact follows_processOwnedSenderCompletion e env
  · exact aside (processDispatcher_steps e) (aside_processDispatcher e)
  · exact aside (dispatchApplicationAck_steps e _) (aside_dispatchApplicationAck e _)
  · exact aside (dispatchSenderFrame_steps e _ _) (aside_dispatchSenderFrame e _ _)
  · exact aside (dispatchHeartbeat_steps e _ _) (aside_dispatchHeartbeat e _ _)

theorem follows_loop (e : EspNowNetProtocolComponent) (env : EndpointEnvironment) :
    Follows e (e.loopActions env) (e.loop env) := by
  have polled : Follows e [] (e.polled env) := by
    have kept : Aside e (e.polled env) := by
      unfold polled heartbeatTick
      split <;> exact .of_same rfl rfl rfl
    exact kept.follows (extends_run step_extends (polled_steps e env))
  unfold loop loopActions
  simp only
  split
  · exact polled
  · split
    · have kept : Aside (e.polled env) (e.polled env).discardRadioEvents := .of_same rfl rfl rfl
      exact polled.after (kept.follows (List.suffix_cons _ _))
    · rw [← loggedPhases_fst]
      exact polled.after (follows_phases env _ (follows_loggedPhase env) _)

theorem follows_operation (e : EspNowNetProtocolComponent) (operation : EndpointOperation) :
    Follows e (e.operationActions operation) (operation.apply e) := by
  cases operation with
  | control call => exact follows_call e call
  | driver event => exact follows_driverEvents e [event]
  | loop env => exact follows_loop e env

theorem follows_run (e : EspNowNetProtocolComponent) (operations : List EndpointOperation) :
    Follows e (e.runActions operations) (e.run operations) := by
  induction operations generalizing e with
  | nil => exact follows_refl e
  | cons operation rest ih => exact (follows_operation e operation).trans (ih _)

theorem tied_setup (config : Configuration) (random : UInt64) : Tied (setup config random) [] := by
  constructor
  · exact throughout_nil
  · intro own
    cases own
  · intro ready
    cases ready
  · intro _ _
    exact Or.inl rfl

end EspNowNetProtocolComponent

/-- As long as the runtime stays enabled and the sender is not reset, each background result that
    is started is followed by at most one completion before the next one is started. The
    completion carries its transaction, and it tells of success just when the sender found the
    result acknowledged. -/
theorem background_completions_paired (config : Configuration) (random : UInt64)
    (operations : List EndpointOperation)
    (kept : NeverDisturbed ((setup config random).run operations).history) :
    Throughout Allowed ((setup config random).runActions operations) := by
  have follows := follows_run (setup config random) operations
  have tied := follows.tied [] kept (tied_setup config random)
  rw [List.append_nil] at tied
  exact tied.orderly

/-- A result is delivered and its completion taken, and another result is started. -/
def backgroundDelivered : List EndpointOperation :=
  radioReady ++
    [.control (.startBackgroundResult 0 sampleProgress), .loop { nowMs := 5251 },
      .driver (.sendCallback 0 true), .loop { nowMs := 5251 },
      samplePeerFrame .ack 0 1 (EspNowAckCodec.encodedBytes ⟨⟨1, 7, 1⟩, .accepted⟩),
      .loop { nowMs := 5251 }, .control .takeBackgroundResultCompletion,
      .control (.startBackgroundResult 0 sampleProgress)]

theorem background_completions_paired_delivered :
    (setup observedConfiguration 1).runActions backgroundDelivered =
        [.started 7, .taken 7 true, .ended 7 .acknowledged, .started 7] ∧
      Throughout Allowed ((setup observedConfiguration 1).runActions backgroundDelivered) :=
  ⟨by decide +kernel,
    background_completions_paired observedConfiguration 1 backgroundDelivered (by decide +kernel)⟩

end EspNowNet
