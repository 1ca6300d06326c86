import EspNowNet.Library.Holdings
import EspNowNet.Notification

/- The results of cancelled commands. The endpoint knows them by the last command that ended,
   so a late result is withheld as long as no other command has ended since, and as long as no
   earlier result of the command was on its way to an observer when it was cancelled. -/
namespace EspNowNet
open EspNowNetProtocolComponent GuardedInvariant Holdings

variable {e e' : EspNowNetProtocolComponent} {config : Configuration}

/-- What a result is matched by: its peer and its transaction. -/
abbrev CommandPair := PeerIndex × TransactionId

def EspNowInboundApplicationMessage.pair (inbound : EspNowInboundApplicationMessage) :
    CommandPair :=
  (inbound.peerIndex, inbound.message.envelope.transactionId)

def CommandClient.pair (client : CommandClient) : CommandPair :=
  (client.peer, client.command.transactionId)

def CommandResultNotification.pair (n : CommandResultNotification) : CommandPair :=
  (n.peer, n.result.transactionId)

/- The history read back -/

/-- The command was cancelled, and none was started under its id since. -/
def withdrawn (pair : CommandPair) : List EndpointEvent → Bool
  | [] => false
  | .commandCancelled _ peer transactionId _ :: older =>
    decide ((peer, transactionId) = pair) || withdrawn pair older
  | .commandStarted _ _ transactionId :: older =>
    decide (transactionId ≠ pair.2) && withdrawn pair older
  | _ :: older => withdrawn pair older

def endedReading : EndpointEvent → Option (Unit × Option CommandPair)
  | .commandCancelled _ peer transactionId _ => some ((), some (peer, transactionId))
  | .commandFinished _ peer result _ => some ((), some (peer, result.transactionId))
  | _ => none

/-- The last command that ended. -/
def lastEnded (history : List EndpointEvent) : Option CommandPair := held endedReading () history

/-- What an observer has just been given is on its way to the observers after it. -/
def deliveringReading (config : Configuration) :
    EndpointEvent → Option (Unit × Option CommandPair)
  | .resultDelivered observer peer result =>
    some ((), if config.commandResultObservers.observers.getLast? = some observer then none
      else some (peer, result.transactionId))
  | .unsolicitedDelivered observer inbound =>
    some ((), if config.unsolicitedResultObservers.observers.getLast? = some observer then none
      else some inbound.pair)
  | _ => none

/-- The result that is being given to one observer after the other. -/
def delivering (config : Configuration) (history : List EndpointEvent) : Option CommandPair :=
  held (deliveringReading config) () history

def EndpointEvent.cancellation : EndpointEvent → Option (CommandPair × Bool)
  | .commandCancelled _ peer transactionId expected => some ((peer, transactionId), expected)
  | _ => none

def EndpointEvent.consumedResult : EndpointEvent → Option CommandPair
  | .resultRouted _ inbound => some inbound.pair
  | _ => none

/-- A result that is taken for the observers or for the mailbox. -/
def EndpointEvent.offeredResult : EndpointEvent → Option CommandPair
  | .resultOffered peer result => some (peer, result.transactionId)
  | .resultRouted .unsolicited inbound | .resultRouted .mailbox inbound => some inbound.pair
  | _ => none

/-- A result that an observer is given, or that is put into the mailbox. -/
def EndpointEvent.passedResult : EndpointEvent → Option CommandPair
  | .resultDelivered _ peer result => some (peer, result.transactionId)
  | .unsolicitedDelivered _ inbound | .resultRouted .mailbox inbound => some inbound.pair
  | _ => none

/-- No result of a withdrawn command is passed on. -/
def WithholdsCancelled (history : List EndpointEvent) : Prop :=
  Throughout (fun older event => ∀ pair ∈ event.passedResult, withdrawn pair older = false) history

instance decidableWithholdsCancelled (history : List EndpointEvent) :
    Decidable (WithholdsCancelled history) :=
  have (older : List EndpointEvent) (event : EndpointEvent) :
      Decidable (∀ pair ∈ event.passedResult, withdrawn pair older = false) :=
    Option.decidableForallMem _
  inferInstanceAs (Decidable (Throughout _ history))

/-- A command is cancelled while none of its results is on its way to an observer, and a late
    result of it comes before another command has ended. -/
def QuarantineRespected (config : Configuration) (history : List EndpointEvent) : Prop :=
  Throughout (fun older event =>
    (∀ cancelled ∈ event.cancellation, cancelled.2 = false ∧
        delivering config older ≠ some cancelled.1) ∧
      ∀ pair ∈ event.consumedResult, withdrawn pair older = true → lastEnded older = some pair)
    history

instance decidableQuarantineRespected (history : List EndpointEvent) :
    Decidable (QuarantineRespected config history) :=
  have (older : List EndpointEvent) (event : EndpointEvent) :
      Decidable (∀ cancelled ∈ event.cancellation, cancelled.2 = false ∧
        delivering config older ≠ some cancelled.1) :=
    Option.decidableForallMem _
  have (older : List EndpointEvent) (event : EndpointEvent) :
      Decidable (∀ pair ∈ event.consumedResult,
        withdrawn pair older = true → lastEnded older = some pair) :=
    Option.decidableForallMem _
  inferInstanceAs (Decidable (Throughout _ history))

/-- The events the readings above do not depend on. -/
def EndpointEvent.Unrelated : EndpointEvent → Prop
  | .commandStarted _ _ _ | .commandCancelled _ _ _ _ | .commandFinished _ _ _ _
  | .resultRouted _ _ | .resultOffered _ _ | .resultDelivered _ _ _
  | .unsolicitedDelivered _ _ => False
  | _ => True

theorem EndpointEvent.Unrelated.readings {event : EndpointEvent} (unrelated : event.Unrelated) :
    (∀ pair older, withdrawn pair (event :: older) = withdrawn pair older) ∧
      endedReading event = none ∧ event.offeredResult = none ∧ event.passedResult = none := by
  cases event <;> first | exact unrelated.elim | exact ⟨fun _ _ => rfl, rfl, rfl, rfl⟩

section Readings
variable {events history : List EndpointEvent}

theorem withdrawn_unrelated (unrelated : ∀ event ∈ events, event.Unrelated) (pair : CommandPair) :
    withdrawn pair (events ++ history) = withdrawn pair history := by
  induction events with
  | nil => rfl
  | cons event events ih =>
    rw [List.cons_append, (unrelated event List.mem_cons_self).readings.1]
    exact ih fun other member => unrelated other (List.mem_cons_of_mem _ member)

theorem lastEnded_unrelated (unrelated : ∀ event ∈ events, event.Unrelated) :
    lastEnded (events ++ history) = lastEnded history :=
  held_append_silent (fun event member => (unrelated event member).readings.2.1) _ _

end Readings

/- A result on its way from one observer to the next -/

/-- Calls alone do not withdraw the command whose result is being delivered. -/
theorem called_keeps {pair : CommandPair} {history events : List EndpointEvent}
    (standing : withdrawn pair history = false) (underway : delivering config history = some pair)
    (called : ∀ event ∈ events, event.Called)
    (respected : QuarantineRespected config (events ++ history)) :
    withdrawn pair (events ++ history) = false ∧
      delivering config (events ++ history) = some pair := by
  induction events with
  | nil => exact ⟨standing, underway⟩
  | cons event events ih =>
    obtain ⟨⟨cancelled, _⟩, earlier⟩ := throughout_cons.mp respected
    obtain ⟨kept, still⟩ := ih (fun other member => called other (List.mem_cons_of_mem _ member))
      earlier
    have own := called event List.mem_cons_self
    cases event with
    | commandCancelled slot peer transactionId expected =>
      refine ⟨?_, still⟩
      have other : (peer, transactionId) ≠ pair := by
        rintro rfl
        exact (cancelled _ rfl).2 still
      simp [withdrawn, other, kept]
    | commandStarted => exact ⟨by simp [withdrawn, kept], still⟩
    | messageStarted | commandDeclared | externalDeadlineSet | senderReset | runtimeDisabled
      | transmissionAbandoned | radioEventsDiscarded => exact ⟨kept, still⟩
    | _ => exact own.elim

/-- What its observers are being given does not belong to a withdrawn command. -/
theorem offered_standing {offer : EndpointEvent} {given : Nat → EndpointEvent}
    {observers done : List Nat} {pair : CommandPair} {history : List EndpointEvent}
    (own : offer.offeredResult = some pair)
    (reading : ∀ observer, deliveringReading config (given observer) =
      some ((), if observers.getLast? = some observer then none else some pair))
    (silent : ∀ observer older, withdrawn pair (given observer :: older) = withdrawn pair older)
    (offered : Offered offer given done history)
    (unfinished : ∀ observer ∈ done, observers.getLast? ≠ some observer)
    (allowed : Throughout (fun older event =>
      ∀ pair ∈ event.offeredResult, withdrawn pair older = false) history)
    (respected : QuarantineRespected config history) : withdrawn pair history = false := by
  induction offered with
  | first older =>
    have standing := (throughout_cons.mp allowed).1 pair own
    cases offer with
    | resultOffered | resultRouted => exact standing
    | _ => simp [EndpointEvent.offeredResult] at own
  | @next observers' older events observer before called ih =>
    have past : older <:+ events ++ given observer :: older :=
      (List.suffix_cons _ _).trans (List.suffix_append _ _)
    have standing := ih (fun other member => unfinished other (List.mem_cons_of_mem _ member))
      (allowed.of_suffix past) (respected.of_suffix past)
    refine (called_keeps ((silent observer older).trans standing) ?_ called respected).1
    rw [delivering, held_cons (reading observer), if_pos rfl,
      if_neg (unfinished observer List.mem_cons_self)]

/-- The observers before the one whose turn it is are not the last. -/
theorem turn_unfinished {observers done rest : List Nat} {observer : Nat}
    (distinct : observers.Nodup) (whole : observers = done.reverse ++ observer :: rest) :
    ∀ other ∈ done, observers.getLast? ≠ some other := by
  intro other member last
  subst whole
  rw [List.getLast?_append_of_ne_nil _ (List.cons_ne_nil _ _)] at last
  have apart := (List.nodup_append.mp distinct).2.2 other (List.mem_reverse.mpr member) other
    (List.mem_of_getLast? last)
  exact apart rfl

/- The invariant -/

/-- The last command that ended is the one the endpoint remembers, and only commands with an id
    are withdrawn. -/
structure Remembers (e : EspNowNetProtocolComponent) : Prop where
  ended : ∀ pair, lastEnded e.history = some pair →
    (e.lastTerminalPeer, e.lastTerminalTransactionId) = pair
  identified : ∀ pair, withdrawn pair e.history = true → pair.2 ≠ 0

theorem Remembers.aside (remembers : Remembers e) (events : List EndpointEvent)
    (history : e'.history = events ++ e.history)
    (unrelated : ∀ event ∈ events, event.Unrelated)
    (terminal : e'.lastTerminalPeer = e.lastTerminalPeer ∧
      e'.lastTerminalTransactionId = e.lastTerminalTransactionId) : Remembers e' := by
  constructor
  · intro pair
    rw [history, lastEnded_unrelated unrelated, terminal.1, terminal.2]
    exact remembers.ended pair
  · intro pair
    rw [history, withdrawn_unrelated unrelated]
    exact remembers.identified pair

theorem Remembers.cancelSlot (remembers : Remembers e) {slot : Fin 2}
    (identified : (e.clients slot).command.transactionId ≠ 0) : Remembers (e.cancelSlot slot) := by
  rw [cancelSlot_eq e slot]
  constructor
  · intro pair ended
    exact Option.some.inj ended
  · intro pair gone
    simp only [withdrawn, Bool.or_eq_true, decide_eq_true_eq] at gone
    rcases gone with rfl | before
    · exact identified
    · exact remembers.identified pair before

theorem EndpointEvent.TurnsOff.unrelated {event : EndpointEvent} (off : event.TurnsOff) :
    event.Unrelated := by
  cases event <;> first | exact off.elim | trivial

theorem Remembers.disable (remembers : Remembers e) : Remembers e.disableRuntime := by
  apply disableRuntime_keeps ?_ ?_ remembers
  · intro e e' off remembers
    obtain ⟨events, history, turnsOff⟩ := off.history
    exact remembers.aside events history (fun event member => (turnsOff event member).unrelated)
      off.lastTerminal
  · exact fun identified remembers => remembers.cancelSlot identified

/-- A withdrawn command is in no slot and in no waiting notification, and no result of it has
    been passed on. -/
structure Withheld (config : Configuration) (e : EspNowNetProtocolComponent) : Prop where
  observers : e.commandResultObservers = config.commandResultObservers
  unsolicited : e.unsolicitedResultObservers = config.unsolicitedResultObservers
  enabled : ∀ slot, (e.clients slot).state ≠ .idle → e.runtimeEnabled = true
  remembers : Remembers e
  slots : ∀ pair, withdrawn pair e.history = true → ∀ slot, (e.clients slot).state ≠ .idle →
    (e.clients slot).pair ≠ pair
  notification : ∀ pair, withdrawn pair e.history = true → e.notification.ready = true →
    e.notification.pair ≠ pair
  offered : Throughout (fun older event =>
    ∀ pair ∈ event.offeredResult, withdrawn pair older = false) e.history
  withheld : WithholdsCancelled e.history

/-- A slot is busy after the step only with what it was busy with before. -/
def ClientsKept (clients clients' : Fin 2 → CommandClient) : Prop :=
  ∀ slot, (clients' slot).state ≠ .idle →
    (clients slot).state ≠ .idle ∧ (clients' slot).pair = (clients slot).pair

theorem clientsKept_refl (clients : Fin 2 → CommandClient) : ClientsKept clients clients :=
  fun _ busy => ⟨busy, rfl⟩

theorem clientsKept_update (clients : Fin 2 → CommandClient) {slot : Fin 2} {client : CommandClient}
    (kept : client.state ≠ .idle → (clients slot).state ≠ .idle ∧
      client.pair = (clients slot).pair) :
    ClientsKept clients (Function.update clients slot client) := by
  intro other busy
  by_cases here : other = slot
  · subst here
    rw [Function.update_self] at busy ⊢
    exact kept busy
  · rw [Function.update_of_ne here] at busy ⊢
    exact ⟨busy, rfl⟩

theorem Withheld.aside (withheld : Withheld config e) (events : List EndpointEvent)
    (history : e'.history = events ++ e.history)
    (unrelated : ∀ event ∈ events, event.Unrelated)
    (observers : e'.commandResultObservers = e.commandResultObservers)
    (unsolicited : e'.unsolicitedResultObservers = e.unsolicitedResultObservers)
    (enabled : e.runtimeEnabled = true → e'.runtimeEnabled = true)
    (terminal : e'.lastTerminalPeer = e.lastTerminalPeer ∧
      e'.lastTerminalTransactionId = e.lastTerminalTransactionId)
    (clients : ClientsKept e.clients e'.clients)
    (notification : e'.notification.ready = true → e'.notification = e.notification) :
    Withheld config e' where
  observers := observers.trans withheld.observers
  unsolicited := unsolicited.trans withheld.unsolicited
  enabled slot busy := enabled (withheld.enabled slot (clients slot busy).1)
  remembers := withheld.remembers.aside events history unrelated terminal
  slots pair gone slot busy := by
    rw [history, withdrawn_unrelated unrelated] at gone
    rw [(clients slot busy).2]
    exact withheld.slots pair gone slot (clients slot busy).1
  notification pair gone ready := by
    rw [history, withdrawn_unrelated unrelated] at gone
    have same := notification ready
    rw [same] at ready ⊢
    exact withheld.notification pair gone ready
  offered := by
    rw [history]
    refine withheld.offered.append fun event member older pair own => ?_
    simp [(unrelated event member).readings.2.2.1] at own
  withheld := by
    rw [history]
    refine Throughout.append withheld.withheld fun event member older pair own => ?_
    simp [(unrelated event member).readings.2.2.2] at own

theorem Withheld.beside (withheld : Withheld config e) (events : List EndpointEvent)
    (history : e'.history = events ++ e.history)
    (unrelated : ∀ event ∈ events, event.Unrelated)
    (same : (e'.commandResultObservers, e'.unsolicitedResultObservers, e'.runtimeEnabled,
        e'.lastTerminalPeer, e'.lastTerminalTransactionId, e'.clients, e'.notification) =
      (e.commandResultObservers, e.unsolicitedResultObservers, e.runtimeEnabled,
        e.lastTerminalPeer, e.lastTerminalTransactionId, e.clients, e.notification)) :
    Withheld config e' := by
  simp only [Prod.mk.injEq] at same
  obtain ⟨observers, unsolicited, enabled, peer, transaction, clients, notification⟩ := same
  refine withheld.aside events history unrelated observers unsolicited enabled.trans
    ⟨peer, transaction⟩ ?_ fun _ => notification
  rw [clients]
  exact clientsKept_refl _

theorem queued_notification (e : EspNowNetProtocolComponent) (peer : PeerIndex)
    (result : NetResult) : (e.queueCommandResultNotification peer result).notification =
      if e.commandResultObservers.observers.isEmpty ∨ e.notification.ready then e.notification
      else { result, peer, ready := true } := by
  unfold queueCommandResultNotification
  exact apply_ite EspNowNetProtocolComponent.notification _ _ _

/-- The notification may now hold a result of a busy slot. -/
theorem Withheld.queued (withheld : Withheld config e) {slot : Fin 2} {peer : PeerIndex}
    {result : NetResult} (busy : (e.clients slot).state ≠ .idle)
    (own : (peer, result.transactionId) = (e.clients slot).pair) :
    Withheld config (e.queueCommandResultNotification peer result) := by
  unfold queueCommandResultNotification
  split
  · exact withheld
  · refine ⟨withheld.observers, withheld.unsolicited, withheld.enabled,
      ⟨withheld.remembers.ended, withheld.remembers.identified⟩, withheld.slots, ?_,
      withheld.offered, withheld.withheld⟩
    intro pair gone _
    have other := withheld.slots pair gone slot busy
    rwa [← own] at other

/-- A slot is emptied; what its command was stays known. -/
theorem Withheld.finish (withheld : Withheld config e) {slot : Fin 2}
    {result : NetResult} (busy : (e.clients slot).state ≠ .idle)
    (own : result.transactionId = (e.clients slot).command.transactionId) :
    Withheld config (e.finishCommandClient result slot) := by
  have pair : ((e.clients slot).peer, result.transactionId) = (e.clients slot).pair := by
    rw [own]
    rfl
  have queued := (withheld.queued busy pair).notification
  have kept : (e.finishCommandClient result slot).notification =
      (e.queueCommandResultNotification (e.clients slot).peer result).notification := by
    unfold finishCommandClient
    rw [queued_notification, queued_notification]
    rfl
  have history : (e.queueCommandResultNotification (e.clients slot).peer result).history =
      e.history := by
    obtain ⟨notification, same⟩ := queueCommandResultNotification_eq e (e.clients slot).peer result
    rw [same]
  rw [history, ← kept] at queued
  obtain ⟨notification, same⟩ := finishCommandClient_eq e result slot
  rw [same] at queued ⊢
  have cleared : ClientsKept e.clients (Function.update e.clients slot
      { externalDeadline := (e.clients slot).externalDeadline }) :=
    clientsKept_update e.clients fun idle => absurd rfl idle
  refine ⟨withheld.observers, withheld.unsolicited, ?_, ⟨?_, withheld.remembers.identified⟩, ?_,
    queued, throughout_cons.mpr ⟨by simp [EndpointEvent.offeredResult], withheld.offered⟩,
    throughout_cons.mpr ⟨by simp [EndpointEvent.passedResult], withheld.withheld⟩⟩
  · intro other still
    exact withheld.enabled other (cleared other still).1
  · intro pair ended
    exact Option.some.inj ended
  · intro pair gone other still
    rw [(cleared other still).2]
    exact withheld.slots pair gone other (cleared other still).1

theorem EndpointEvent.Called.aside {event : EndpointEvent} (called : event.Called) :
    event.offeredResult = none ∧ event.passedResult = none := by
  cases event with
  | messageStarted | commandDeclared | commandStarted | commandCancelled | externalDeadlineSet
    | senderReset | runtimeDisabled | transmissionAbandoned | radioEventsDiscarded =>
    exact ⟨rfl, rfl⟩
  | _ => exact called.elim

/-- Cancelled while no other holder of its results is left. -/
theorem Withheld.cancel (withheld : Withheld config e) (coherent : e.Coherent) {slot : Fin 2}
    (busy : (e.clients slot).state ≠ .idle)
    (respected : QuarantineRespected config (e.cancelSlot slot).history) :
    Withheld config (e.cancelSlot slot) := by
  have remembers := withheld.remembers.cancelSlot (coherent.valid.command slot busy).1
  rw [cancelSlot_eq e slot] at remembers respected ⊢
  have unexpected := ((throughout_cons.mp respected).1.1 _ rfl).1
  simp only [resultExpected, withheld.enabled slot busy, Bool.true_and, Bool.or_eq_false_iff]
    at unexpected
  obtain ⟨unqueued, untwinned⟩ := unexpected
  have cleared : ClientsKept e.clients (Function.update e.clients slot
      { externalDeadline := (e.clients slot).externalDeadline }) :=
    clientsKept_update e.clients fun idle => absurd rfl idle
  refine ⟨withheld.observers, withheld.unsolicited, ?_, remembers, ?_, ?_,
    throughout_cons.mpr ⟨by simp [EndpointEvent.offeredResult], withheld.offered⟩,
    throughout_cons.mpr ⟨by simp [EndpointEvent.passedResult], withheld.withheld⟩⟩
  · intro other still
    exact withheld.enabled other (cleared other still).1
  · intro pair gone other still
    obtain ⟨before, same⟩ := cleared other still
    simp only [withdrawn, Bool.or_eq_true, decide_eq_true_eq] at gone
    rw [same]
    rcases gone with rfl | earlier
    · have apart : other ≠ slot := by
        rintro rfl
        simp at still
      have twin : other = slot.rev := by
        apply Fin.ext
        have := Fin.val_ne_of_ne apart
        simp only [Fin.val_rev]
        omega
      intro both
      obtain ⟨peer, transaction⟩ := Prod.mk.inj both
      subst twin
      simp [before, peer, transaction] at untwinned
    · exact withheld.slots pair earlier other before
  · intro pair gone ready
    simp only [withdrawn, Bool.or_eq_true, decide_eq_true_eq] at gone
    rcases gone with rfl | earlier
    · intro both
      have peer : e.notification.peer = (e.clients slot).peer := congrArg Prod.fst both
      have transaction : e.notification.result.transactionId =
          (e.clients slot).command.transactionId := congrArg Prod.snd both
      have waiting : e.notification.ready = true := ready
      simp [waiting, peer, transaction] at unqueued
    · exact withheld.notification pair earlier ready

/-- A command that is started is not withdrawn any more, under any peer. -/
theorem Withheld.start (withheld : Withheld config e) {slot : Fin 2} (client : CommandClient)
    {events : List EndpointEvent} (unrelated : ∀ event ∈ events, event.Unrelated)
    (on : e.runtimeEnabled = true) :
    Withheld config { e with
      clients := Function.update e.clients slot client
      history := .commandStarted slot client.peer client.command.transactionId ::
        (events ++ e.history) } := by
  have fresh {pair : CommandPair}
      (gone : withdrawn pair (.commandStarted slot client.peer client.command.transactionId ::
        (events ++ e.history)) = true) :
      client.command.transactionId ≠ pair.2 ∧ withdrawn pair e.history = true := by
    simpa [withdrawn, withdrawn_unrelated unrelated] using gone
  refine ⟨withheld.observers, withheld.unsolicited, fun _ _ => on, ⟨?_, ?_⟩, ?_, ?_,
    throughout_cons.mpr ⟨by simp [EndpointEvent.offeredResult], ?_⟩,
    throughout_cons.mpr ⟨by simp [EndpointEvent.passedResult], ?_⟩⟩
  · intro pair ended
    have before : lastEnded (events ++ e.history) = some pair := ended
    rw [lastEnded_unrelated unrelated] at before
    exact withheld.remembers.ended pair before
  · intro pair gone
    exact withheld.remembers.identified pair (fresh gone).2
  · intro pair gone other busy
    obtain ⟨different, earlier⟩ := fresh gone
    by_cases here : other = slot
    · subst here
      simp only [Function.update_self]
      exact fun same => different (congrArg Prod.snd same)
    · simp only [Function.update_of_ne here] at busy ⊢
      exact withheld.slots pair earlier other busy
  · intro pair gone ready
    exact withheld.notification pair (fresh gone).2 ready
  · refine withheld.offered.append fun event member older pair own => ?_
    simp [(unrelated event member).readings.2.2.1] at own
  · refine Throughout.append withheld.withheld fun event member older pair own => ?_
    simp [(unrelated event member).readings.2.2.2] at own

theorem Withheld.disable (withheld : Withheld config e) (coherent : e.Coherent) :
    Withheld config e.disableRuntime := by
  have effect := disableRuntime_effect e
  obtain ⟨events, history, called⟩ := effect.events
  obtain ⟨clients, _, _, _, _, _, same, idle⟩ := disableRuntime_eq e
  have slots : ∀ slot, (e.disableRuntime.clients slot).state = .idle := by
    rw [same]
    exact idle coherent.valid
  refine ⟨effect.observers.trans withheld.observers, effect.unsolicited.trans withheld.unsolicited,
    fun slot busy => absurd (slots slot) busy, withheld.remembers.disable,
    fun pair _ slot busy => absurd (slots slot) busy, ?_, ?_, ?_⟩
  · intro pair _ ready
    rw [same] at ready
    simp [discardRadioEvents, record] at ready
  · rw [history]
    refine withheld.offered.append fun event member older pair own => ?_
    simp [(called event member).aside.1] at own
  · rw [history]
    refine Throughout.append withheld.withheld fun event member older pair own => ?_
    simp [(called event member).aside.2] at own

/-- A RESULT that goes past the slots is not of a withdrawn command. -/
theorem Withheld.routed (withheld : Withheld config e) {route : ResultRoute}
    {inbound : EspNowInboundApplicationMessage} (routed : Routed e route inbound)
    (respected : QuarantineRespected config (.resultRouted route inbound :: e.history)) :
    Withheld config (e.record (.resultRouted route inbound)) := by
  have standing (past : route = .unsolicited ∨ route = .mailbox) :
      withdrawn inbound.pair e.history = false := by
    by_contra gone
    rw [Bool.not_eq_false] at gone
    have last := (throughout_cons.mp respected).1.2 inbound.pair rfl gone
    have remembered := withheld.remembers.ended inbound.pair last
    have peer : e.lastTerminalPeer = inbound.peerIndex := congrArg Prod.fst remembered
    have transaction : e.lastTerminalTransactionId = inbound.message.envelope.transactionId :=
      congrArg Prod.snd remembered
    have identified : e.lastTerminalTransactionId ≠ 0 := by
      rw [transaction]
      exact withheld.remembers.identified inbound.pair gone
    exact routed.past past identified peer.symm transaction.symm
  refine ⟨withheld.observers, withheld.unsolicited, withheld.enabled,
    ⟨withheld.remembers.ended, withheld.remembers.identified⟩, withheld.slots,
    withheld.notification, throughout_cons.mpr ⟨?_, withheld.offered⟩,
    throughout_cons.mpr ⟨?_, withheld.withheld⟩⟩
  · intro pair own
    cases route with
    | client | late => simp [EndpointEvent.offeredResult] at own
    | unsolicited => exact Option.some.inj own ▸ standing (Or.inl rfl)
    | mailbox => exact Option.some.inj own ▸ standing (Or.inr rfl)
  · intro pair own
    cases route with
    | client | late | unsolicited => simp [EndpointEvent.passedResult] at own
    | mailbox => exact Option.some.inj own ▸ standing (Or.inr rfl)

theorem Withheld.passed (withheld : Withheld config e) {event : EndpointEvent}
    {pair : CommandPair} (own : event.passedResult = some pair)
    (standing : withdrawn pair e.history = false)
    (readings : (∀ other, withdrawn other (event :: e.history) = withdrawn other e.history) ∧
      endedReading event = none ∧ event.offeredResult = none) :
    Withheld config (e.record event) := by
  obtain ⟨same, unended, unoffered⟩ := readings
  have last : lastEnded ([event] ++ e.history) = lastEnded e.history :=
    held_append_silent (by simpa using unended) () e.history
  refine ⟨withheld.observers, withheld.unsolicited, withheld.enabled, ⟨?_, ?_⟩, ?_, ?_,
    throughout_cons.mpr ⟨by simp [unoffered], withheld.offered⟩,
    throughout_cons.mpr ⟨?_, withheld.withheld⟩⟩
  · intro other ended
    exact withheld.remembers.ended other (last ▸ ended)
  · intro other gone
    exact withheld.remembers.identified other (same other ▸ gone)
  · intro other gone
    exact withheld.slots other (same other ▸ gone)
  · intro other gone
    exact withheld.notification other (same other ▸ gone)
  · intro other passed
    rw [own] at passed
    exact Option.some.inj passed ▸ standing

theorem Withheld.bookkeeping (withheld : Withheld config e) (kept : Bookkeeping e e')
    (respected : QuarantineRespected config e'.history) : Withheld config e' := by
  cases kept with
  | heartbeat | completionTaken | mailboxTaken | mailboxFilled =>
    exact withheld.beside [] rfl (by simp) rfl
  | laneLooped lane answers nowMs =>
    obtain ⟨events, noted, same⟩ := loopLane_eq e lane answers nowMs
    rw [same]
    refine withheld.beside events rfl (fun event member => ?_) rfl
    obtain ⟨handedOn, rfl⟩ := noted event member
    trivial
  | declarativeId | commandVerified | commandAnswered | resultTaken =>
    exact withheld.beside [_] rfl (by simp [EndpointEvent.Unrelated]) rfl
  | @unsolicitedDelivered observer inbound turn =>
    obtain ⟨done, rest, offered, whole⟩ := turn
    rw [withheld.unsolicited] at whole
    have standing : withdrawn inbound.pair e.history = false :=
      offered_standing rfl (fun _ => rfl) (fun _ _ => rfl) offered
        (turn_unfinished config.unsolicitedResultObservers.distinct whole) withheld.offered
        (throughout_cons.mp respected).2
    exact withheld.passed rfl standing ⟨fun _ => rfl, rfl, rfl⟩

theorem withheld_step (coherent : e.Coherent) (withheld : Withheld config e)
    (respected : QuarantineRespected config e'.history) (step : EndpointStep e e') :
    Withheld config e' := by
  cases step with
  | bookkeeping kept => exact withheld.bookkeeping kept respected
  | @messageTaken _ inbound runtime taken consumption =>
    have left : Withheld config { e with runtime } :=
      withheld.beside [] rfl (by simp) rfl
    cases consumption with
    | commandAccepted =>
      exact left.beside [_] rfl (by simp [EndpointEvent.Unrelated]) rfl
    | resultRouted result routed => exact left.routed routed respected
    | dropped => exact left
  | startRefused | radioPolled | recoveryRequested | completionIgnored | heartbeatReceived
    | frameAccepted | senderLooped | senderReleased | ackDropped | frameRefused =>
    exact withheld.beside [] rfl (by simp) rfl
  | started | senderReset | discarded | completionReleases | messageReady | ackSent | frameSent
    | heartbeatSent =>
    exact withheld.beside [_] rfl (by simp [EndpointEvent.Unrelated]) rfl
  | completionDelivered =>
    exact withheld.beside [_, _] rfl (by simp [EndpointEvent.Unrelated]) rfl
  | enabled =>
    exact withheld.aside [] rfl (by simp) rfl rfl (fun _ => rfl) ⟨rfl, rfl⟩ (clientsKept_refl _)
      fun _ => rfl
  | @commandStarted sender peer command encoded nowMs enabled free idle valid encodes run =>
    have prepared : Withheld config { e with
        sender, commandSenderSlot := e.nextSlot, reliableMessageOwner := .commandClient } :=
      withheld.beside [] rfl (by simp) rfl
    have unrelated : ∀ event ∈ [EndpointEvent.messageStarted peer sender.envelope
        sender.message.bytes], event.Unrelated := by
      simp [EndpointEvent.Unrelated]
    exact prepared.start { command, peer, startedMs := nowMs, state := .waitingForDeliveryAck }
      unrelated enabled
  | cancelled slot busy => exact withheld.cancel coherent busy respected
  | disabled enabled => exact withheld.disable coherent
  | externalDeadline slot busy =>
    exact withheld.aside [_] rfl (by simp [EndpointEvent.Unrelated]) rfl rfl id ⟨rfl, rfl⟩
      (clientsKept_update e.clients fun _ => ⟨busy, rfl⟩) fun _ => rfl
  | driver event =>
    cases event with
    | sendCallback | receiveCallback =>
      exact withheld.beside [_] rfl (by simp [EndpointEvent.Unrelated]) rfl
  | @ackReceived received radio runtime ack taken run handed =>
    obtain ⟨outcome, kinds, same⟩ := acceptDeliveryAck_eq
      { e with radio, runtime := { runtime with deliveryAck := none } } received.peerIndex ack
    rw [same]
    refine withheld.beside (outcome ++ [_]) (List.append_assoc outcome [_] e.history).symm ?_ rfl
    rcases kinds with rfl | rfl | rfl <;> simp [EndpointEvent.Unrelated]
  | @progressQueued peer result progress slot waiting own transaction =>
    have busy : (e.clients slot).state ≠ .idle := by simp [waiting]
    refine withheld.queued busy ?_
    rw [own, transaction]
    rfl
  | finished slot waiting terminal transaction =>
    exact withheld.finish (by simp [waiting]) transaction
  | deliveryFailed message nowMs owned ended =>
    have released : Withheld config e.releaseSender :=
      withheld.beside [] rfl (by simp) rfl
    exact released.finish (by simp [releaseSender, (coherent.owned owned).1]) rfl
  | delivered owned acknowledged =>
    have busy : (e.clients e.commandSenderSlot).state ≠ .idle := by
      simp [(coherent.owned owned).1]
    exact withheld.aside [] rfl (by simp) rfl rfl id ⟨rfl, rfl⟩
      (clientsKept_update e.clients fun _ => ⟨busy, rfl⟩) fun _ => rfl

theorem withheld_move (coherent : e.Coherent) (withheld : Withheld config e)
    (respected : QuarantineRespected config e'.history) (move : EndpointMove e e') :
    Withheld config e' := by
  cases move with
  | step step => exact withheld_step coherent withheld respected step
  | notification step =>
    cases step with
    | taken ready =>
      refine ⟨withheld.observers, withheld.unsolicited, withheld.enabled,
        ⟨withheld.remembers.ended, withheld.remembers.identified⟩, withheld.slots, ?_,
        throughout_cons.mpr ⟨?_, withheld.offered⟩,
        throughout_cons.mpr ⟨by simp [EndpointEvent.passedResult], withheld.withheld⟩⟩
      · intro pair _ still
        simp [record] at still
      · intro pair own
        by_contra gone
        rw [Bool.not_eq_false] at gone
        exact withheld.notification pair gone ready (Option.some.inj own)
    | @delivered observer peer result turn =>
      obtain ⟨done, rest, offered, whole⟩ := turn
      rw [withheld.observers] at whole
      have standing : withdrawn (peer, result.transactionId) e.history = false :=
        offered_standing rfl (fun _ => rfl) (fun _ _ => rfl) offered
          (turn_unfinished config.commandResultObservers.distinct whole) withheld.offered
          (throughout_cons.mp respected).2
      exact withheld.passed rfl standing ⟨fun _ => rfl, rfl, rfl⟩
    | cleared =>
      refine ⟨withheld.observers, withheld.unsolicited, withheld.enabled,
        ⟨withheld.remembers.ended, withheld.remembers.identified⟩, withheld.slots, ?_,
        withheld.offered, withheld.withheld⟩
      intro pair gone _ same
      exact withheld.remembers.identified pair gone (same ▸ rfl)

theorem withheld_setup (config : Configuration) (random : UInt64) :
    Withheld config (setup config random) where
  observers := rfl
  unsolicited := rfl
  enabled slot busy := absurd rfl busy
  remembers := ⟨fun _ ended => by simp [lastEnded, setup, held] at ended,
    fun _ gone => by simp [setup, withdrawn] at gone⟩
  slots _ _ slot busy := absurd rfl busy
  notification _ _ ready := by simp [setup] at ready
  offered := throughout_nil
  withheld := throughout_nil

/-- In a run in which every command is cancelled while none of its results is on its way to an
    observer, and no other command ends between a cancellation and a late result, no result of
    a cancelled command is passed on until its transaction is started again. -/
theorem cancelled_results_withheld (config : Configuration) (random : UInt64)
    (moves : EndpointMoves (setup config random) e)
    (respected : QuarantineRespected config e.history) : WithholdsCancelled e.history := by
  have both := guardedBy move_extends (fun history => QuarantineRespected config history)
    (fun extended respected => respected.of_suffix extended)
    (fun e : EspNowNetProtocolComponent => e.Coherent ∧ Withheld config e) ?_ moves
    ⟨coherent_setup config random, withheld_setup config random⟩ respected
  · exact both.2.withheld
  · intro e e' respected invariant move
    exact ⟨coherent_move invariant.1 move, withheld_move invariant.1 invariant.2 respected move⟩

def lateResult : List EndpointOperation :=
  [samplePeerFrame .result EspNowFrameCodec.flagAckRequired 2 progressPayload,
    .loop { nowMs := 5252 }]

/-- The result comes after its command was cancelled. -/
def cancelledBeforeResult : List EndpointOperation :=
  commandDelivered ++ .control (.cancelCommand 7) :: lateResult

theorem cancelled_results_withheld_once :
    QuarantineRespected observedConfiguration
        ((setup observedConfiguration 1).run cancelledBeforeResult).history ∧
      .resultRouted .late ⟨0, ⟨⟨.result, EspNowFrameCodec.flagAckRequired, 2, 7, 2⟩,
          (BoundedBytes.assign progressPayload).2⟩⟩ ∈
        ((setup observedConfiguration 1).run cancelledBeforeResult).history ∧
      WithholdsCancelled ((setup observedConfiguration 1).run cancelledBeforeResult).history :=
  have respected : QuarantineRespected observedConfiguration
      ((setup observedConfiguration 1).run cancelledBeforeResult).history := by
    decide +kernel
  ⟨respected, by decide +kernel,
    cancelled_results_withheld observedConfiguration 1 (run_moves _ cancelledBeforeResult) respected⟩

/-- Another command is started and cancelled before the result comes. -/
def cancelledTwiceBeforeResult : List EndpointOperation :=
  commandDelivered ++
    [.control (.cancelCommand 7),
      .control (.startCommand 0 { sampleCommand with transactionId := 8 } 5252),
      .control (.cancelCommand 8)] ++ lateResult

/-- The endpoint has forgotten the first cancelled command: its result is in the mailbox. -/
theorem second_cancellation_releases_result :
    ¬ ∀ (config : Configuration) (random : UInt64) (operations : List EndpointOperation),
      WithholdsCancelled ((setup config random).run operations).history := by
  intro always
  have withheld := always observedConfiguration 1 cancelledTwiceBeforeResult
  exact absurd withheld (by decide +kernel)

end EspNowNet
