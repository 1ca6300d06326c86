import EspNowNet.Notification
import EspNowNet.Library.Holdings

/- The transactions of the two client slots. Two slots hold different transactions as long as
   no command is started under the id of one that is still open. -/
namespace EspNowNet
open EspNowNetProtocolComponent Holdings

/-- The transaction a slot is busy with. -/
def CommandClient.openTransaction (client : CommandClient) : Option TransactionId :=
  if client.state = .idle then none else some client.command.transactionId

def clientReading : EndpointEvent → Option (Fin 2 × Option TransactionId)
  | .commandStarted slot _ transactionId => some (slot, some transactionId)
  | .commandFinished slot _ _ _ | .commandCancelled slot _ _ _ => some (slot, none)
  | _ => none

/-- The history knows which command each slot is busy with. -/
def ClientsRead (clients : Fin 2 → CommandClient) (history : List EndpointEvent) : Prop :=
  ∀ slot, held clientReading slot history = (clients slot).openTransaction

variable {clients : Fin 2 → CommandClient} {history : List EndpointEvent}

theorem ClientsRead.silent (read : ClientsRead clients history) {events : List EndpointEvent}
    (silent : ∀ event ∈ events, clientReading event = none) :
    ClientsRead clients (events ++ history) := by
  intro slot
  rw [held_append_silent silent, read slot]

theorem ClientsRead.changed (read : ClientsRead clients history) {event : EndpointEvent}
    {slot : Fin 2} {client : CommandClient}
    (reading : clientReading event = some (slot, client.openTransaction)) :
    ClientsRead (Function.update clients slot client) (event :: history) := by
  intro other
  rw [held_cons reading]
  by_cases here : slot = other
  · subst here
    simp
  · rw [if_neg here, Function.update_of_ne (Ne.symm here), read other]

/-- A slot may change in what does not bear on its transaction. -/
theorem ClientsRead.kept (read : ClientsRead clients history) {slot : Fin 2}
    {client : CommandClient} (same : client.openTransaction = (clients slot).openTransaction) :
    ClientsRead (Function.update clients slot client) history := by
  intro other
  by_cases here : other = slot
  · subst here
    rw [Function.update_self, same, read]
  · rw [Function.update_of_ne here, read]

theorem EndpointEvent.Incidental.client_silent {event : EndpointEvent} (aside : event.Incidental) :
    clientReading event = none := by
  cases event <;> first | rfl | exact aside.elim

theorem EndpointEvent.TurnsOff.client_silent {event : EndpointEvent} (off : event.TurnsOff) :
    clientReading event = none := by
  cases event <;> first | rfl | exact off.elim

namespace EspNowNetProtocolComponent

def SlotsRead (e : EspNowNetProtocolComponent) : Prop := ClientsRead e.clients e.history

variable {e e' : EspNowNetProtocolComponent}

theorem SlotsRead.finish (read : e.SlotsRead) (result : NetResult) (slot : Fin 2) :
    (e.finishCommandClient result slot).SlotsRead := by
  obtain ⟨notification, same⟩ := finishCommandClient_eq e result slot
  rw [same]
  exact ClientsRead.changed read rfl

theorem SlotsRead.cancelSlot (read : e.SlotsRead) (slot : Fin 2) : (e.cancelSlot slot).SlotsRead := by
  rw [cancelSlot_eq e slot]
  exact ClientsRead.changed read rfl

theorem SlotsRead.record (read : e.SlotsRead) {event : EndpointEvent}
    (silent : clientReading event = none) : (e.record event).SlotsRead := by
  have single : ∀ other ∈ [event], clientReading other = none := by simpa using silent
  exact ClientsRead.silent read single

theorem SlotsRead.disableRuntime (read : e.SlotsRead) : e.disableRuntime.SlotsRead := by
  apply disableRuntime_keeps ?_ ?_ read
  · intro e e' off read
    obtain ⟨events, history, turnsOff⟩ := off.history
    unfold SlotsRead
    rw [history, off.clients]
    exact ClientsRead.silent read fun event member => (turnsOff event member).client_silent
  · exact fun _ read => read.cancelSlot _

theorem slotsRead_step (coherent : e.Coherent) (read : e.SlotsRead) (step : EndpointStep e e') :
    e'.SlotsRead := by
  cases step with
  | bookkeeping kept =>
    obtain ⟨_, _, _, _, _, events, aside, rfl⟩ := kept.eq
    exact ClientsRead.silent read fun event member => (aside event member).client_silent
  | messageTaken taken consumption =>
    obtain ⟨_, events, aside, rfl⟩ := consumption.eq
    exact ClientsRead.silent read fun event member => (aside event member).client_silent
  | startRefused | enabled | radioPolled | recoveryRequested | completionIgnored
    | heartbeatReceived | frameAccepted | senderLooped | senderReleased
    | ackDropped | frameRefused => exact read
  | started | senderReset | discarded | completionReleases | messageReady | ackSent | frameSent
    | heartbeatSent => exact SlotsRead.record read rfl
  | commandStarted nowMs enabled free idle valid encodes run =>
    exact ClientsRead.changed (ClientsRead.silent read (List.forall_mem_singleton.mpr rfl)) rfl
  | completionDelivered => exact SlotsRead.record (SlotsRead.record read rfl) rfl
  | cancelled slot busy => exact read.cancelSlot slot
  | disabled enabled => exact read.disableRuntime
  | externalDeadline slot busy =>
    have kept : SlotsRead (e.setClient slot { e.clients slot with externalDeadline := true }) :=
      ClientsRead.kept read rfl
    exact SlotsRead.record kept rfl
  | driver event => cases event <;> exact SlotsRead.record read rfl
  | @ackReceived received radio runtime ack taken run handed =>
    obtain ⟨outcome, settled, same⟩ := acceptDeliveryAck_eq
      { e with radio, runtime := { runtime with deliveryAck := none } } received.peerIndex ack
    rw [same]
    refine ClientsRead.silent (SlotsRead.record read rfl) fun event member => ?_
    rcases settled with rfl | rfl | rfl
    · cases member
    · exact List.mem_singleton.mp member ▸ rfl
    · exact List.mem_singleton.mp member ▸ rfl
  | progressQueued peer progress =>
    obtain ⟨notification, same⟩ := queueCommandResultNotification_eq e peer _
    rw [same]
    exact read
  | finished slot waiting terminal => exact read.finish _ slot
  | deliveryFailed message nowMs owned ended =>
    have released : e.releaseSender.SlotsRead := read
    exact released.finish _ _
  | delivered owned acknowledged =>
    have waiting := (coherent.owned owned).1
    apply ClientsRead.kept read
    simp [CommandClient.openTransaction, waiting]

theorem slotsRead_moves {config : Configuration} {random : UInt64}
    (moves : EndpointMoves (setup config random) e) : e.SlotsRead := by
  have both := GuardedInvariant.preserved
    (fun e : EspNowNetProtocolComponent => e.Coherent ∧ e.SlotsRead) ?_ moves
    ⟨coherent_setup config random, fun _ => rfl⟩
  · exact both.2
  · rintro e e' ⟨coherent, read⟩ move
    refine ⟨coherent_move coherent move, ?_⟩
    cases move with
    | step step => exact slotsRead_step coherent read step
    | notification step =>
      cases step with
      | cleared => exact read
      | taken | delivered => exact SlotsRead.record read rfl

/-- A transaction identifies one slot: to `cancel_command`, to the deadline and to a RESULT. -/
structure OneSlotEach (e : EspNowNetProtocolComponent) : Prop where
  distinct : ∀ slot other, slot ≠ other → (e.clients slot).state ≠ .idle →
    (e.clients other).state ≠ .idle →
      (e.clients slot).command.transactionId ≠ (e.clients other).command.transactionId
  found : ∀ slot, (e.clients slot).state ≠ .idle →
    e.slotOf (e.clients slot).command.transactionId = some slot
  matched : ∀ slot, e.runtime.applicationMessageKind = .result → e.matchesClient slot = true →
    e.matchingCommandClient = some slot

theorem OneSlotEach.of_distinct (valid : ClientsValid e.build.dualCommandClient e.clients)
    (distinct : ∀ slot other, slot ≠ other → (e.clients slot).state ≠ .idle →
      (e.clients other).state ≠ .idle →
        (e.clients slot).command.transactionId ≠ (e.clients other).command.transactionId) :
    e.OneSlotEach := by
  have dual (busy : (e.clients 1).state ≠ .idle) : e.build.dualCommandClient = true := by
    by_contra single
    exact busy (valid.single (by simpa using single))
  refine ⟨distinct, Fin.forall_fin_two.mpr ⟨?_, ?_⟩, Fin.forall_fin_two.mpr ⟨?_, ?_⟩⟩
  · intro busy
    simp [slotOf, busy]
  · intro busy
    have other : ¬ ((e.clients 0).state ≠ .idle ∧
        (e.clients 0).command.transactionId = (e.clients 1).command.transactionId) :=
      fun first => distinct 0 1 (by decide) first.1 busy first.2
    rw [slotOf, if_neg other, if_pos ⟨dual busy, busy, rfl⟩]
  · intro result found
    simp [matchingCommandClient, result, found]
  · intro result found
    have second := found
    simp only [matchesClient, Bool.and_eq_true, decide_eq_true_eq] at second
    obtain ⟨⟨waiting, _⟩, identified⟩ := second
    have busy : (e.clients 1).state ≠ .idle := by simp [waiting]
    have other : ¬ e.matchesClient 0 = true := by
      intro first
      simp only [matchesClient, Bool.and_eq_true, decide_eq_true_eq] at first
      exact distinct 0 1 (by decide) (by simp [first.1.1]) busy (first.2.symm.trans identified)
    rw [matchingCommandClient, if_neg (by simp [result]), if_neg other,
      if_pos ⟨dual busy, found⟩]

/-- In a run that starts no command under the id of one that is still open in the other slot,
    a transaction identifies one slot in every state. -/
theorem one_slot_each (config : Configuration) (random : UInt64)
    (operations : List EndpointOperation)
    (afresh : GivenAfresh clientReading ((setup config random).run operations).history) :
    ((setup config random).run operations).OneSlotEach := by
  have read := slotsRead_moves (run_moves (setup config random) operations)
  have coherent := coherent_run config random operations
  apply OneSlotEach.of_distinct coherent.valid
  intro slot other different busy otherBusy same
  have holds := read slot
  have otherHolds := read other
  simp only [CommandClient.openTransaction, busy, otherBusy, ↓reduceIte] at holds otherHolds
  exact held_distinct afresh different holds (same ▸ otherHolds)

end EspNowNetProtocolComponent

def dualConfiguration : Configuration :=
  { observedConfiguration with build := { dualCommandClient := true } }

def pairedRun : List EndpointOperation :=
  commandDelivered ++ [.control (.startCommand 0 { sampleCommand with transactionId := 8 } 5252)]

theorem one_slot_each_in_pair :
    GivenAfresh clientReading ((setup dualConfiguration 1).run pairedRun).history ∧
      ((setup dualConfiguration 1).run pairedRun).OneSlotEach :=
  have afresh : GivenAfresh clientReading ((setup dualConfiguration 1).run pairedRun).history := by
    decide +kernel
  ⟨afresh, one_slot_each dualConfiguration 1 pairedRun afresh⟩

/-- The second command is started under the id of the first, which still waits for its result. -/
def repeatedRun : List EndpointOperation :=
  commandDelivered ++ [.control (.startCommand 0 sampleCommand 5252)]

theorem repeated_id_fills_both_slots :
    ¬ ∀ (config : Configuration) (random : UInt64) (operations : List EndpointOperation),
      ((setup config random).run operations).OneSlotEach := by
  intro always
  have distinct := (always dualConfiguration 1 repeatedRun).distinct 0 1 (by decide)
    (by decide +kernel) (by decide +kernel)
  exact absurd distinct (by decide +kernel)

end EspNowNet
