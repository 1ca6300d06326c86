import EspNowNet.CommandClientSlots
import EspNowNet.RadioInvariant

/- The transmission mark and the completion it waits for. A mark names one frame; the
   completion of that frame is in the driver or in the queue until it releases the mark. -/
namespace EspNowNet
open EspNowNetProtocolComponent

namespace ReliableMessageSender

theorem start_inFlight {s t : ReliableMessageSender} {started : Bool} {peer : PeerIndex}
    {kind : EspNowFrameKind} {transactionId : TransactionId} {data : Option (List UInt8)}
    (run : s.start peer kind transactionId data = (started, t)) :
    t.frameInFlight = true → s.frameInFlight = true := by
  unfold start at run
  split at run
  · obtain ⟨_, rfl⟩ := Prod.mk.inj run
    exact id
  · split at run
    · obtain ⟨_, rfl⟩ := Prod.mk.inj run
      exact id
    · split at run
      · obtain ⟨_, rfl⟩ := Prod.mk.inj run
        exact id
      · split at run
        · obtain ⟨_, rfl⟩ := Prod.mk.inj run
          exact id
        · simp only at run
          split at run
          · obtain ⟨_, rfl⟩ := Prod.mk.inj run
            simp [reset]
          · obtain ⟨_, rfl⟩ := Prod.mk.inj run
            simp [load]

theorem loop_inFlight (s : ReliableMessageSender) (nowMs : UInt32) :
    (s.loop nowMs).frameInFlight = s.frameInFlight := by
  unfold loop
  simp only
  split
  · split <;> rfl
  all_goals rfl

theorem markSent_inFlight (s : ReliableMessageSender) (nowMs : UInt32) :
    (s.markSent nowMs).2.frameInFlight = s.frameInFlight := by
  unfold markSent
  split <;> rfl

theorem completeFrame_inFlight (s : ReliableMessageSender) (succeeded : Bool) (nowMs : UInt32) :
    (s.completeFrame succeeded nowMs).2.frameInFlight = false := by
  unfold completeFrame
  split
  · rename_i landed
    simpa using landed
  · simp only
    split
    · rw [markSent_inFlight]
    · split
      · rfl
      · rw [markSent_inFlight]

theorem acceptAck_inFlight (s : ReliableMessageSender) (ack : EspNowAckPayload) :
    (s.acceptAck ack).2.frameInFlight = s.frameInFlight := by
  unfold acceptAck
  split <;> rfl

end ReliableMessageSender

/-- What the radio may do on its own: completions get lost, none is added. -/
structure RadioSettles (r r' : EspIdfEspNowEncryptedRadio) : Prop where
  transmitted : r'.transmitted = r.transmitted
  outstanding : r'.outstanding.Subperm r.outstanding
  attached : (r.initialized = true → r.attached = true) → r'.initialized = true →
    r'.attached = true

/-- The mark names a frame the driver has taken, and only the mark's own frame is in flight
    for the sender. -/
structure TransmissionSound (radio : EspIdfEspNowEncryptedRadio) (transmission : RadioTransmission)
    (inFlight : Bool) (senderFrame : Nat) : Prop where
  attached : radio.initialized = true → radio.attached = true
  numbered : ∀ completion ∈ radio.outstanding, completion.1 < radio.transmitted
  marked : transmission.owner ≠ .none →
    radio.initialized = true ∧ transmission.peer ≠ invalidPeerIndex ∧
      transmission.frame < radio.transmitted ∧
      ∀ completion ∈ radio.outstanding, completion.1 = transmission.frame →
        completion.2 = transmission.peer
  flight : inFlight = true → transmission.owner = .sender ∧ senderFrame = transmission.frame

/-- The completion of the marked frame is still to come. -/
def CompletionPending (radio : EspIdfEspNowEncryptedRadio) (transmission : RadioTransmission) :
    Prop :=
  transmission.owner ≠ .none → (transmission.frame, transmission.peer) ∈ radio.outstanding

/-- No completion is still to come but that of the marked frame. -/
def CompletionTracked (radio : EspIdfEspNowEncryptedRadio) (transmission : RadioTransmission) :
    Prop :=
  radio.outstanding.Subperm
    (if transmission.owner = .none then [] else [(transmission.frame, transmission.peer)])

section Transmission
variable {r r' : EspIdfEspNowEncryptedRadio} {t : RadioTransmission} {inFlight : Bool}
variable {senderFrame : Nat}

theorem RadioSettles.refl (r : EspIdfEspNowEncryptedRadio) : RadioSettles r r :=
  ⟨rfl, List.Subperm.refl _, id⟩

theorem TransmissionSound.land (sound : TransmissionSound r t inFlight senderFrame)
    {landed : Bool} (lands : landed = true → inFlight = true) :
    TransmissionSound r t landed senderFrame :=
  ⟨sound.attached, sound.numbered, sound.marked, fun flying => sound.flight (lands flying)⟩

theorem TransmissionSound.settle (sound : TransmissionSound r t inFlight senderFrame)
    (settles : RadioSettles r r')
    (kept : t.owner ≠ .none → r.initialized = true → r'.initialized = true) :
    TransmissionSound r' t inFlight senderFrame where
  attached := settles.attached sound.attached
  numbered := by
    intro completion member
    rw [settles.transmitted]
    exact sound.numbered completion (settles.outstanding.subset member)
  marked := by
    intro owned
    obtain ⟨initialized, peer, below, own⟩ := sound.marked owned
    refine ⟨kept owned initialized, peer, by rw [settles.transmitted]; exact below, ?_⟩
    exact fun completion member => own completion (settles.outstanding.subset member)
  flight := sound.flight

theorem TransmissionSound.release (sound : TransmissionSound r t inFlight senderFrame)
    (frame : Nat) : TransmissionSound r { frame } false senderFrame :=
  ⟨sound.attached, sound.numbered, by simp, by simp⟩

theorem TransmissionSound.send (sound : TransmissionSound r t inFlight senderFrame)
    {peer : PeerIndex} {data : List UInt8} {accepted : Bool} {owner : RadioTransmissionOwner}
    (newFrame : Nat) (flying : Bool) (run : r.sendFrame peer data accepted = (true, r'))
    (flight : flying = true → owner = .sender ∧ newFrame = r.transmitted) :
    TransmissionSound r' ⟨owner, peer, r.transmitted⟩ flying newFrame := by
  obtain ⟨added, known⟩ := EspIdfEspNowEncryptedRadio.outstanding_sendFrame run
  obtain ⟨initialized, _, _, same⟩ := EspIdfEspNowEncryptedRadio.sendFrame_true run
  have counted : r'.transmitted = r.transmitted + 1 := by rw [same]
  refine ⟨by rw [same]; exact sound.attached, ?_, fun _ => ⟨by rw [same]; exact initialized, known,
    by simp [counted], ?_⟩, flight⟩
  · intro completion member
    rw [counted]
    rcases List.mem_cons.mp (added.subset member) with rfl | older
    · exact Nat.lt_succ_self _
    · exact Nat.lt_succ_of_lt (sound.numbered completion older)
  · intro completion member same
    rcases List.mem_cons.mp (added.subset member) with rfl | older
    · rfl
    · -- an older frame has a smaller number
      exact absurd same (Nat.ne_of_lt (sound.numbered completion older))

theorem pending_send {peer : PeerIndex} {data : List UInt8} {accepted : Bool}
    (owner : RadioTransmissionOwner) (run : r.sendFrame peer data accepted = (true, r')) :
    CompletionPending r' ⟨owner, peer, r.transmitted⟩ :=
  fun _ => (EspIdfEspNowEncryptedRadio.outstanding_sendFrame run).1.symm.subset List.mem_cons_self

theorem CompletionTracked.none (tracked : CompletionTracked r t) (free : t.owner = .none) :
    r.outstanding = [] := by
  simp only [CompletionTracked, free, ↓reduceIte] at tracked
  exact List.subperm_nil.mp tracked

theorem CompletionTracked.send (tracked : CompletionTracked r t) (free : t.owner = .none)
    {peer : PeerIndex} {data : List UInt8} {accepted : Bool} {owner : RadioTransmissionOwner}
    (marks : owner ≠ .none) (run : r.sendFrame peer data accepted = (true, r')) :
    CompletionTracked r' ⟨owner, peer, r.transmitted⟩ := by
  have added := (EspIdfEspNowEncryptedRadio.outstanding_sendFrame run).1
  rw [tracked.none free] at added
  simp only [CompletionTracked, marks, ↓reduceIte]
  exact added.subperm

/-- With nothing but the marked frame outstanding, the completion that is taken is its own. -/
theorem CompletionTracked.take (tracked : CompletionTracked r t)
    {completion : EspNowSendCompletion} (taken : r.takeSendCompletion = (some completion, r')) :
    t.owner ≠ .none ∧ completion.frame = t.frame ∧ completion.peerIndex = t.peer ∧
      r'.outstanding = [] := by
  have split := EspIdfEspNowEncryptedRadio.outstanding_takeSendCompletion taken
  have owned : t.owner ≠ .none := by
    intro free
    rw [tracked.none free] at split
    exact absurd split (List.not_perm_nil_cons _ _)
  simp only [CompletionTracked, owned, ↓reduceIte] at tracked
  have one := split.symm.subperm.trans tracked
  have same := one.subset List.mem_cons_self
  have alone := one.length_le
  simp only [List.mem_singleton, Prod.mk.injEq, List.length_cons, List.length_nil] at same alone
  exact ⟨owned, same.1, same.2, List.eq_nil_of_length_eq_zero (by omega)⟩

theorem tracked_empty (empty : r.outstanding = []) : CompletionTracked r t := by
  simp only [CompletionTracked, empty]
  exact List.nil_subperm

end Transmission

namespace EspNowNetProtocolComponent

def TransmissionSound (e : EspNowNetProtocolComponent) : Prop :=
  EspNowNet.TransmissionSound e.radio e.transmission e.sender.frameInFlight e.senderFrame

def CompletionPending (e : EspNowNetProtocolComponent) : Prop :=
  EspNowNet.CompletionPending e.radio e.transmission

def CompletionTracked (e : EspNowNetProtocolComponent) : Prop :=
  EspNowNet.CompletionTracked e.radio e.transmission

/-- A poll of the radio restarts it only while nothing is marked. -/
theorem radioLoop_cases (e : EspNowNetProtocolComponent) (env : EndpointEnvironment) :
    ∃ radio, e.radioLoop env = { e with radio } ∧ RadioSettles e.radio radio ∧
      (radio.outstanding = e.radio.outstanding ∧
          (e.radio.initialized = true → radio.initialized = true) ∨
        e.transmission.owner = .none) := by
  refine ⟨_, rfl, ?_⟩
  have restarts : (e.radio.setRecoveryPermitted e.recoveryPermitted).recovery.permitted = true →
      e.transmission.owner = .none := by
    intro permitted
    change e.recoveryPermitted = true at permitted
    simp only [recoveryPermitted, Bool.and_eq_true, decide_eq_true_eq] at permitted
    exact permitted.1.1.1.1
  rcases EspIdfEspNowEncryptedRadio.loop_cases
    (e.radio.setRecoveryPermitted e.recoveryPermitted) env.radio env.nowMs with
    ⟨same, stays, attached⟩ | ⟨permitted, restarted⟩
  · have outstanding := same.outstanding
    exact ⟨⟨same.transmitted, by rw [outstanding]; exact List.Subperm.refl _, attached⟩,
      Or.inl ⟨outstanding, stays⟩⟩
  · refine ⟨⟨restarted.transmitted, restarted.outstanding, ?_⟩, Or.inr (restarts permitted)⟩
    simp [restarted.initialized]

theorem requestRecovery_eq (e : EspNowNetProtocolComponent) (env : EndpointEnvironment) :
    ∃ radio, e.requestRecovery env = { e with radio } ∧
      EspIdfEspNowEncryptedRadio.Quiet e.radio radio :=
  ⟨_, rfl, (EspIdfEspNowEncryptedRadio.quiet_requestPeerRefresh _ _).trans
    (EspIdfEspNowEncryptedRadio.quiet_requestRadioRecovery _ _ _)⟩

end EspNowNetProtocolComponent

theorem EspIdfEspNowEncryptedRadio.Quiet.settles {r r' : EspIdfEspNowEncryptedRadio}
    (quiet : r.Quiet r') : RadioSettles r r' where
  transmitted := quiet.transmitted
  outstanding := by rw [quiet.toSameTraffic.outstanding]
  attached := by
    rw [quiet.initialized, quiet.attached]
    exact id

theorem settles_discard (r : EspIdfEspNowEncryptedRadio)
    (receivedFrames : EspNowSpscQueue EspNowReceivedFrame 3) (limit : Nat) :
    RadioSettles r
      { r with receivedFrames, sendCompletions := r.sendCompletions.discard limit } :=
  ⟨rfl, EspIdfEspNowEncryptedRadio.outstanding_discard r receivedFrames limit, id⟩

theorem settles_takeSendCompletion {r r' : EspIdfEspNowEncryptedRadio}
    {completion : EspNowSendCompletion} (taken : r.takeSendCompletion = (some completion, r')) :
    RadioSettles r r' ∧ r'.initialized = r.initialized := by
  have split := EspIdfEspNowEncryptedRadio.outstanding_takeSendCompletion taken
  obtain ⟨queue, rfl, _⟩ := EspIdfEspNowEncryptedRadio.takeSendCompletion_some taken
  exact ⟨⟨rfl, (List.sublist_cons_self _ _).subperm.trans split.symm.subperm, id⟩, rfl⟩

theorem settles_driverEvent (e : EspNowNetProtocolComponent) (event : DriverEvent) :
    RadioSettles e.radio (e.driverEvent event).radio ∧
      (e.driverEvent event).radio.initialized = e.radio.initialized := by
  cases event with
  | sendCallback position succeeded =>
    have lost := EspIdfEspNowEncryptedRadio.subperm_sendCallback e.radio position succeeded
    rcases EspIdfEspNowEncryptedRadio.sendCallback_cases e.radio position succeeded with
      ⟨_, same⟩ | ⟨_, _, queue, same, _⟩
    · simp only [driverEvent, record, same]
      exact ⟨.refl _, trivial⟩
    · rw [same] at lost
      simp only [driverEvent, record, same]
      exact ⟨⟨rfl, lost, id⟩, trivial⟩
  | receiveCallback address data =>
    obtain ⟨receivedFrames, same⟩ :=
      EspIdfEspNowEncryptedRadio.receiveCallback_eq e.radio address data
    simp only [driverEvent, record, same]
    exact ⟨⟨rfl, List.Subperm.refl _, id⟩, trivial⟩

/-- The events that say nothing about the mark. -/
def EndpointEvent.Unmarked : EndpointEvent → Prop
  | .frameSent _ _ | .frameCompleted _ _ | .transmissionReleased _ _ | .transmissionAbandoned => False
  | _ => True

theorem EndpointEvent.Incidental.unmarked {event : EndpointEvent}
    (incidental : event.Incidental) : event.Unmarked := by
  cases event <;> trivial

/-- The mark stays as it is; the radio may lose completions. -/
structure KeepsTransmission (e e' : EspNowNetProtocolComponent) : Prop where
  transmission : e'.transmission = e.transmission
  senderFrame : e'.senderFrame = e.senderFrame
  lands : e'.sender.frameInFlight = true → e.sender.frameInFlight = true
  settles : RadioSettles e.radio e'.radio
  unmarked : ∃ events, e'.history = events ++ e.history ∧ ∀ event ∈ events, event.Unmarked

/-- Why a completion that was to come may come no more. -/
inductive CompletionLoss (e e' : EspNowNetProtocolComponent) : Prop
  | nothing (outstanding : e.radio.outstanding ⊆ e'.radio.outstanding)
  | discarded (same : e' = e.discardRadioEvents)
  | driver (event : DriverEvent) (same : e' = e.driverEvent event)

/-- What a step does to the mark and to the completions. -/
inductive TransmissionEffect (e e' : EspNowNetProtocolComponent) : Prop
  | kept (kept : KeepsTransmission e e')
      (initialized : e.radio.initialized = true → e'.radio.initialized = true)
      (loss : CompletionLoss e e')
  | restarted (kept : KeepsTransmission e e') (free : e.transmission.owner = .none)
  | disabled (same : e' = e.disableRuntime)
  | ignored {completion : EspNowSendCompletion} {radio : EspIdfEspNowEncryptedRadio}
      (taken : e.radio.takeSendCompletion = (some completion, radio))
      (foreign : e.transmission.owner = .none ∨ completion.peerIndex ≠ e.transmission.peer)
      (same : e' = { e with radio })
  | released {completion : EspNowSendCompletion}
      (taken : e.radio.takeSendCompletion = (some completion, e'.radio))
      (transmission : e'.transmission = { frame := e.transmission.frame })
      (lands : e'.sender.frameInFlight = true →
        e.sender.frameInFlight = true ∧ e.transmission.owner ≠ .sender)
      (owned : e.transmission.owner ≠ .none)
      (history : e'.history =
          .transmissionReleased completion.frame e.transmission.frame :: e.history ∨
        e.sender.frameInFlight = true ∧ e'.history =
          .transmissionReleased completion.frame e.transmission.frame ::
            .frameCompleted completion.frame e.senderFrame :: e.history)
  | sent {owner : RadioTransmissionOwner} {peer : PeerIndex} {data : List UInt8} {accepted : Bool}
      (marks : owner ≠ .none) (free : e.transmission.owner = .none)
      (run : e.radio.sendFrame peer data accepted = (true, e'.radio))
      (transmission : e'.transmission = ⟨owner, peer, e.radio.transmitted⟩)
      (flight : e'.sender.frameInFlight = true → e.sender.frameInFlight = true ∨
        owner = .sender ∧ e'.senderFrame = e.radio.transmitted)
      (history : e'.history = .frameSent peer data :: e.history)

theorem receives_settles {e : EspNowNetProtocolComponent} {received : EspNowReceivedFrame}
    {radio : EspIdfEspNowEncryptedRadio}
    (taken : e.radio.takeReceivedFrame = (some received, radio)) :
    RadioSettles e.radio radio ∧ radio.initialized = e.radio.initialized ∧
      radio.outstanding = e.radio.outstanding := by
  obtain ⟨_, frames, rfl, _⟩ := EspIdfEspNowEncryptedRadio.takeReceivedFrame_some taken
  exact ⟨⟨rfl, List.Subperm.refl _, id⟩, rfl, rfl⟩

theorem driverEvent_kept (e : EspNowNetProtocolComponent) (event : DriverEvent) :
    KeepsTransmission e (e.driverEvent event) := by
  obtain ⟨settles, _⟩ := settles_driverEvent e event
  cases event with
  | sendCallback | receiveCallback =>
    exact ⟨rfl, rfl, id, settles, [_], rfl, by simp [EndpointEvent.Unmarked]⟩

/-- A step that touches neither the radio nor the mark. -/
theorem TransmissionEffect.aside {e e' : EspNowNetProtocolComponent}
    (transmission : e'.transmission = e.transmission) (senderFrame : e'.senderFrame = e.senderFrame)
    (lands : e'.sender.frameInFlight = true → e.sender.frameInFlight = true)
    (radio : e'.radio = e.radio) (events : List EndpointEvent)
    (history : e'.history = events ++ e.history) (unmarked : ∀ event ∈ events, event.Unmarked) :
    TransmissionEffect e e' := by
  refine .kept ⟨transmission, senderFrame, lands, ?_, events, history, unmarked⟩ ?_ (.nothing ?_)
  · rw [radio]
    exact .refl _
  · rw [radio]
    exact id
  · rw [radio]
    exact List.Subset.refl _

theorem transmission_cancelled (e : EspNowNetProtocolComponent) (slot : Fin 2) :
    TransmissionEffect e (e.cancelSlot slot) := by
  rw [cancelSlot_eq e slot]
  refine .aside rfl rfl ?_ rfl [_] rfl (by simp [EndpointEvent.Unmarked])
  simp only
  split
  · simp [ReliableMessageSender.reset]
  · exact id

theorem transmission_radioPolled (e : EspNowNetProtocolComponent) (env : EndpointEnvironment) :
    TransmissionEffect e (e.radioLoop env) := by
  obtain ⟨radio, same, settles, kept⟩ := radioLoop_cases e env
  rw [same]
  have quiet : KeepsTransmission e { e with radio } := ⟨rfl, rfl, id, settles, [], rfl, by simp⟩
  rcases kept with ⟨outstanding, stays⟩ | free
  · exact .kept quiet stays (.nothing (by rw [outstanding]; exact List.Subset.refl _))
  · exact .restarted quiet free

theorem transmission_recoveryRequested (e : EspNowNetProtocolComponent)
    (env : EndpointEnvironment) : TransmissionEffect e (e.requestRecovery env) := by
  obtain ⟨radio, same, quiet⟩ := requestRecovery_eq e env
  rw [same]
  refine .kept ⟨rfl, rfl, id, quiet.settles, [], rfl, by simp⟩ quiet.initialized.trans
    (.nothing ?_)
  rw [quiet.toSameTraffic.outstanding]
  exact List.Subset.refl _

/-- Taking a received frame moves no completion, whatever the frame is read as. -/
theorem TransmissionEffect.receives {e e' : EspNowNetProtocolComponent}
    {received : EspNowReceivedFrame} (taken : e.radio.takeReceivedFrame = (some received, e'.radio))
    (transmission : e'.transmission = e.transmission) (senderFrame : e'.senderFrame = e.senderFrame)
    (lands : e'.sender.frameInFlight = true → e.sender.frameInFlight = true)
    (events : List EndpointEvent) (history : e'.history = events ++ e.history)
    (unmarked : ∀ event ∈ events, event.Unmarked) : TransmissionEffect e e' := by
  obtain ⟨settles, on, outstanding⟩ := receives_settles taken
  refine .kept ⟨transmission, senderFrame, lands, settles, events, history, unmarked⟩ on.trans
    (.nothing ?_)
  rw [outstanding]
  exact List.Subset.refl _

theorem transmission_ackReceived (e : EspNowNetProtocolComponent) {received : EspNowReceivedFrame}
    {radio : EspIdfEspNowEncryptedRadio} (runtime : EspNowProtocolRuntime) (ack : EspNowAckPayload)
    (taken : e.radio.takeReceivedFrame = (some received, radio)) :
    TransmissionEffect e ({ e with radio, runtime }.acceptDeliveryAck received.peerIndex ack) := by
  obtain ⟨outcome, kinds, same⟩ :=
    acceptDeliveryAck_eq { e with radio, runtime } received.peerIndex ack
  rw [same]
  refine .receives taken rfl rfl ?_ (outcome ++ [_]) (List.append_assoc outcome [_] e.history).symm ?_
  · rw [ReliableMessageSender.acceptAck_inFlight]
    exact id
  · rcases kinds with rfl | rfl | rfl <;> simp [EndpointEvent.Unmarked]

theorem transmission_finish (e base : EspNowNetProtocolComponent)
    (transmission : base.transmission = e.transmission)
    (senderFrame : base.senderFrame = e.senderFrame)
    (lands : base.sender.frameInFlight = true → e.sender.frameInFlight = true)
    (radio : base.radio = e.radio) (history : base.history = e.history) (result : NetResult)
    (slot : Fin 2) : TransmissionEffect e (base.finishCommandClient result slot) := by
  obtain ⟨notification, same⟩ := finishCommandClient_eq base result slot
  rw [same]
  exact .aside transmission senderFrame lands radio [_] (by rw [history]; rfl)
    (by simp [EndpointEvent.Unmarked])

theorem transmission_effect {e e' : EspNowNetProtocolComponent} (step : EndpointStep e e') :
    TransmissionEffect e e' := by
  cases step with
  | bookkeeping kept =>
    obtain ⟨_, _, _, _, _, events, incidental, rfl⟩ := kept.eq
    exact .aside rfl rfl id rfl events rfl fun event member => (incidental event member).unmarked
  | messageTaken taken consumption =>
    obtain ⟨_, events, incidental, rfl⟩ := consumption.eq
    exact .aside rfl rfl id rfl events rfl fun event member => (incidental event member).unmarked
  | enabled | ackDropped => exact .aside rfl rfl id rfl [] rfl (by simp)
  | startRefused run =>
    exact .aside rfl rfl (ReliableMessageSender.start_inFlight run) rfl [] rfl (by simp)
  | externalDeadline =>
    exact .aside rfl rfl id rfl [_] rfl (by simp [EndpointEvent.Unmarked])
  | started claim free run =>
    exact .aside rfl rfl (ReliableMessageSender.start_inFlight run) rfl [_] rfl
      (by simp [EndpointEvent.Unmarked])
  | commandStarted _ _ _ _ _ _ run =>
    exact .aside rfl rfl (ReliableMessageSender.start_inFlight run) rfl [_, _] rfl
      (by simp [EndpointEvent.Unmarked])
  | cancelled slot busy => exact transmission_cancelled e slot
  | disabled enabled => exact .disabled rfl
  | senderReset =>
    exact .aside rfl rfl (by simp [resetSender, record, ReliableMessageSender.reset]) rfl [_] rfl
      (by simp [EndpointEvent.Unmarked])
  | senderReleased other =>
    exact .aside rfl rfl (by simp [releaseSender, ReliableMessageSender.reset]) rfl [] rfl (by simp)
  | delivered owned acknowledged =>
    exact .aside rfl rfl (by simp [releaseSender, setClient, ReliableMessageSender.reset]) rfl [] rfl
      (by simp)
  | radioPolled env => exact transmission_radioPolled e env
  | recoveryRequested env => exact transmission_recoveryRequested e env
  | discarded off =>
    exact .kept ⟨rfl, rfl, id, settles_discard _ _ _, [_], rfl, by simp [EndpointEvent.Unmarked]⟩ id
      (.discarded rfl)
  | driver event =>
    exact .kept (driverEvent_kept e event) (settles_driverEvent e event).2.trans
      (.driver event rfl)
  | completionIgnored taken foreign => exact .ignored taken foreign rfl
  | completionReleases taken owned own silent =>
    exact .released taken rfl (fun flying => ⟨flying, fun mine => silent ⟨mine, flying⟩⟩) owned
      (Or.inl rfl)
  | completionDelivered nowMs taken owned own flying =>
    exact .released taken rfl (by simp [record, ReliableMessageSender.completeFrame_inFlight])
      (by simp [owned]) (Or.inr ⟨flying, rfl⟩)
  | heartbeatReceived heartbeat taken | frameAccepted taken run noAck notReady =>
    exact .receives taken rfl rfl id [] rfl (by simp)
  | messageReady taken run peeked =>
    exact .receives taken rfl rfl id [_] rfl (by simp [EndpointEvent.Unmarked])
  | ackReceived taken run handed => exact transmission_ackReceived e _ _ taken
  | progressQueued peer progress =>
    obtain ⟨notification, same⟩ := queueCommandResultNotification_eq e peer _
    rw [same]
    exact .aside rfl rfl id rfl [] rfl (by simp)
  | finished slot waiting terminal => exact transmission_finish e e rfl rfl id rfl rfl _ slot
  | deliveryFailed message nowMs owned ended =>
    have landed : e.releaseSender.sender.frameInFlight = true → e.sender.frameInFlight = true := by
      simp [releaseSender, ReliableMessageSender.reset]
    exact transmission_finish e e.releaseSender rfl rfl landed rfl rfl _ _
  | senderLooped nowMs =>
    exact .aside rfl rfl (by simp [senderLoop, ReliableMessageSender.loop_inFlight]) rfl [] rfl
      (by simp)
  | ackSent free ready valid encodes run =>
    exact .sent (by decide) free run rfl Or.inl rfl
  | heartbeatSent packet heartbeat free run => exact .sent (by decide) free run rfl Or.inl rfl
  | frameRefused nowMs free taken =>
    exact .aside rfl rfl (by simp [ReliableMessageSender.completeFrame_inFlight]) rfl [] rfl (by simp)
  | frameSent free taken run =>
    exact .sent (by decide) free run rfl (fun _ => Or.inr ⟨rfl, rfl⟩) rfl

theorem transmissionSound_step {e e' : EspNowNetProtocolComponent} (sound : e.TransmissionSound)
    (step : EndpointStep e e') : e'.TransmissionSound := by
  have keeps (kept : KeepsTransmission e e') (on : e.transmission.owner ≠ .none →
      e.radio.initialized = true → e'.radio.initialized = true) : e'.TransmissionSound := by
    have next := (sound.settle kept.settles on).land kept.lands
    rwa [← kept.transmission, ← kept.senderFrame] at next
  cases transmission_effect step with
  | kept kept initialized _ => exact keeps kept fun _ => initialized
  | restarted kept free => exact keeps kept fun owned => absurd free owned
  | disabled same =>
    obtain ⟨clients, peer, transactionId, heartbeat, _, _, disabled, _⟩ := disableRuntime_eq e
    rw [same, disabled]
    exact (sound.release e.transmission.frame).settle (settles_discard _ _ _)
      (fun owned => absurd rfl owned)
  | ignored taken foreign same =>
    obtain ⟨settles, on⟩ := settles_takeSendCompletion taken
    rw [same]
    exact sound.settle settles fun _ => on.trans
  | released taken transmission lands owned history =>
    obtain ⟨settles, on⟩ := settles_takeSendCompletion taken
    have next := (sound.settle settles fun _ => on.trans).release e.transmission.frame
    rw [← transmission] at next
    refine ⟨next.attached, next.numbered, next.marked, fun flying => ?_⟩
    -- what is in flight is the sender's, and that has just been completed
    obtain ⟨flying, other⟩ := lands flying
    exact absurd (sound.flight flying).1 other
  | sent marks free run transmission flight history =>
    have next := sound.send e'.senderFrame e'.sender.frameInFlight run
      fun flying => (flight flying).resolve_left fun before =>
        absurd ((sound.flight before).1.symm.trans free) (by decide)
    rwa [← transmission] at next

theorem CompletionPending.settle {r r' : EspIdfEspNowEncryptedRadio} {t : RadioTransmission}
    (pending : CompletionPending r t) (same : r.outstanding ⊆ r'.outstanding) :
    CompletionPending r' t :=
  fun owned => same (pending owned)

theorem CompletionTracked.settle {r r' : EspIdfEspNowEncryptedRadio} {t : RadioTransmission}
    (tracked : CompletionTracked r t) (settles : RadioSettles r r') : CompletionTracked r' t :=
  settles.outstanding.trans tracked

/-- The marked frame's completion is not thrown away from the queue, nor dropped by a full one. -/
def KeepsCompletion (event : EndpointEvent) : Prop :=
  event ≠ .radioEventsDiscarded true ∧ event ≠ .sendReported true true

theorem pending_driver {e : EspNowNetProtocolComponent} (sound : e.TransmissionSound)
    (pending : e.CompletionPending) (event : DriverEvent)
    (clear : GuardedInvariant.Clear KeepsCompletion (e.driverEvent event).history) :
    (e.driverEvent event).CompletionPending := by
  cases event with
  | receiveCallback address data =>
    obtain ⟨receivedFrames, same⟩ :=
      EspIdfEspNowEncryptedRadio.receiveCallback_eq e.radio address data
    simp only [driverEvent, same]
    exact pending
  | sendCallback position succeeded =>
    intro owned
    have kept := pending owned
    rcases EspIdfEspNowEncryptedRadio.outstanding_sendCallback e.radio position succeeded with
      moved | ⟨reported, found, lost, reason⟩
    · exact moved.symm.subset kept
    · rcases List.mem_cons.mp (lost.subset kept) with own | other
      · -- the marked frame itself is reported: it can only be lost to a full queue
        obtain ⟨frame, peer⟩ := Prod.mk.inj own
        obtain ⟨initialized, known, _⟩ := sound.marked owned
        have event := clear (.sendReported _ _) List.mem_cons_self
        rcases reason with detached | unknown | full
        · exact absurd (sound.attached initialized) (by simp [detached])
        · exact absurd (peer.trans unknown) known
        · refine absurd ?_ event.2
          simp only [EndpointEvent.sendReported.injEq, decide_eq_true_eq]
          exact ⟨⟨owned, by rw [found, Option.map_some, ← frame]⟩, full⟩
      · exact other

theorem pending_discard {e : EspNowNetProtocolComponent} (pending : e.CompletionPending)
    (clear : GuardedInvariant.Clear KeepsCompletion e.discardRadioEvents.history) :
    e.discardRadioEvents.CompletionPending := by
  intro owned
  rcases List.mem_append.mp (pending owned) with flying | queued
  · exact List.mem_append_left _ flying
  · have event := (clear (.radioEventsDiscarded _) List.mem_cons_self).1
    obtain ⟨completion, member, same⟩ := List.mem_map.mp queued
    refine absurd ?_ event
    simp only [EndpointEvent.radioEventsDiscarded.injEq, decide_eq_true_eq, List.any_eq_true]
    exact ⟨owned, completion, member, (Prod.mk.inj same).1⟩

theorem pending_step {e e' : EspNowNetProtocolComponent}
    (clear : GuardedInvariant.Clear KeepsCompletion e'.history) (sound : e.TransmissionSound)
    (pending : e.CompletionPending) (step : EndpointStep e e') : e'.CompletionPending := by
  cases transmission_effect step with
  | kept kept _ loss =>
    cases loss with
    | nothing outstanding =>
      have next := pending.settle outstanding
      rwa [← kept.transmission] at next
    | discarded same =>
      subst same
      exact pending_discard pending clear
    | driver event same =>
      subst same
      exact pending_driver sound pending event clear
  | restarted kept free => exact fun owned => absurd (kept.transmission ▸ free) owned
  | disabled same =>
    obtain ⟨clients, peer, transactionId, heartbeat, _, _, disabled, _⟩ := disableRuntime_eq e
    rw [same, disabled]
    exact fun owned => absurd rfl owned
  | ignored taken foreign same =>
    subst same
    intro owned
    have split := EspIdfEspNowEncryptedRadio.outstanding_takeSendCompletion taken
    rcases List.mem_cons.mp (split.subset (pending owned)) with own | other
    · rcases foreign with free | elsewhere
      · exact absurd free owned
      · exact absurd (Prod.mk.inj own).2.symm elsewhere
    · exact other
  | released taken transmission lands owned history =>
    exact fun owned => absurd (by rw [transmission]) owned
  | @sent owner _ _ _ marks free run transmission flight history =>
    have next := pending_send owner run
    rwa [← transmission] at next

/-- Nobody clears the mark of a frame whose completion has not come. -/
def KeepsMark (event : EndpointEvent) : Prop := event ≠ .transmissionAbandoned

theorem disabled_unmarked {e : EspNowNetProtocolComponent}
    (clear : GuardedInvariant.Clear KeepsMark e.disableRuntime.history) :
    e.transmission.owner = .none := by
  by_contra owned
  refine clear .transmissionAbandoned ?_ rfl
  obtain ⟨_, _, history⟩ := disableRuntime_history e
  simp [history, owned]

theorem tracked_step {e e' : EspNowNetProtocolComponent}
    (clear : GuardedInvariant.Clear KeepsMark e'.history) (tracked : e.CompletionTracked)
    (step : EndpointStep e e') : e'.CompletionTracked := by
  have keeps (kept : KeepsTransmission e e') : e'.CompletionTracked := by
    have next := tracked.settle kept.settles
    rwa [← kept.transmission] at next
  cases transmission_effect step with
  | kept kept _ _ => exact keeps kept
  | restarted kept free => exact keeps kept
  | disabled same =>
    subst same
    have free := disabled_unmarked clear
    obtain ⟨clients, peer, transactionId, heartbeat, _, _, disabled, _⟩ := disableRuntime_eq e
    rw [disabled]
    have dropped := (settles_discard e.radio
      (e.radio.receivedFrames.discard EspIdfEspNowEncryptedRadio.rxQueueCapacity)
      EspIdfEspNowEncryptedRadio.sendCompletionQueueCapacity).outstanding
    rw [tracked.none free] at dropped
    exact tracked_empty (List.subperm_nil.mp dropped)
  | ignored taken foreign same =>
    subst same
    exact tracked_empty (tracked.take taken).2.2.2
  | released taken transmission lands owned history =>
    exact tracked_empty (tracked.take taken).2.2.2
  | sent marks free run transmission flight history =>
    have next := tracked.send free marks run
    rwa [← transmission] at next

/-- What the mark is for: the frame a completion ends is the frame it reports on. -/
def EndpointEvent.Attributed : EndpointEvent → Prop
  | .frameCompleted reported inFlight => reported = inFlight
  | .transmissionReleased reported marked => reported = marked
  | _ => True

theorem EndpointEvent.Unmarked.attributed {event : EndpointEvent} (aside : event.Unmarked) :
    event.Attributed := by
  cases event with
  | frameSent | frameCompleted | transmissionReleased | transmissionAbandoned => exact aside.elim
  | _ => trivial

theorem attributed_step {e e' : EspNowNetProtocolComponent}
    (clear : GuardedInvariant.Clear KeepsMark e'.history) (sound : e.TransmissionSound)
    (tracked : e.CompletionTracked) (attributed : ∀ event ∈ e.history, event.Attributed)
    (step : EndpointStep e e') : ∀ event ∈ e'.history, event.Attributed := by
  have keeps (kept : KeepsTransmission e e') : ∀ event ∈ e'.history, event.Attributed := by
    obtain ⟨events, grown, aside⟩ := kept.unmarked
    rw [grown]
    exact List.forall_mem_append.mpr ⟨fun event new => (aside event new).attributed, attributed⟩
  cases transmission_effect step with
  | kept kept _ _ => exact keeps kept
  | restarted kept free => exact keeps kept
  | disabled same =>
    subst same
    obtain ⟨events, history, aside⟩ := disableRuntime_events e EndpointEvent.Attributed trivial
      (fun _ _ _ _ => trivial) (fun _ => trivial) trivial
    rw [history]
    exact List.forall_mem_append.mpr ⟨aside, attributed⟩
  | ignored taken foreign same =>
    subst same
    exact attributed
  | released taken transmission lands owned history =>
    obtain ⟨_, own, _⟩ := tracked.take taken
    rcases history with quiet | ⟨flying, completed⟩
    · simpa [quiet, EndpointEvent.Attributed, own] using attributed
    · have frame := (sound.flight flying).2
      simpa [completed, EndpointEvent.Attributed, own, frame] using attributed
  | sent marks free run transmission flight history =>
    simpa [history, EndpointEvent.Attributed] using attributed

/- Every mark is released once, or abandoned, or still held -/

def EndpointEvent.marks : EndpointEvent → Bool
  | .frameSent _ _ => true
  | _ => false

def EndpointEvent.releases : EndpointEvent → Bool
  | .transmissionReleased _ _ => true
  | _ => false

def EndpointEvent.abandons : EndpointEvent → Bool
  | .transmissionAbandoned => true
  | _ => false

def RadioTransmission.held (t : RadioTransmission) : Nat := if t.owner = .none then 0 else 1

def EspNowNetProtocolComponent.Balanced (e : EspNowNetProtocolComponent) : Prop :=
  e.history.countP EndpointEvent.marks = e.history.countP EndpointEvent.releases +
    e.history.countP EndpointEvent.abandons + e.transmission.held

theorem countP_unmarked {p : EndpointEvent → Bool} {events : List EndpointEvent}
    (aside : ∀ event ∈ events, event.Unmarked)
    (marked : ∀ event : EndpointEvent, event.Unmarked → p event = false)
    (history : List EndpointEvent) : (events ++ history).countP p = history.countP p := by
  have none : events.countP p = 0 := by
    rw [List.countP_eq_zero]
    intro event member
    simp [marked event (aside event member)]
  rw [List.countP_append, none, Nat.zero_add]

theorem counts_unmarked {events : List EndpointEvent} (aside : ∀ event ∈ events, event.Unmarked)
    (history : List EndpointEvent) :
    (events ++ history).countP EndpointEvent.marks = history.countP EndpointEvent.marks ∧
      (events ++ history).countP EndpointEvent.releases = history.countP EndpointEvent.releases ∧
      (events ++ history).countP EndpointEvent.abandons = history.countP EndpointEvent.abandons := by
  refine ⟨countP_unmarked aside ?_ history, countP_unmarked aside ?_ history,
    countP_unmarked aside ?_ history⟩
  · exact fun event => by cases event <;> simp [EndpointEvent.Unmarked, EndpointEvent.marks]
  · exact fun event => by cases event <;> simp [EndpointEvent.Unmarked, EndpointEvent.releases]
  · exact fun event => by cases event <;> simp [EndpointEvent.Unmarked, EndpointEvent.abandons]

theorem balanced_step {e e' : EspNowNetProtocolComponent} (balanced : e.Balanced)
    (step : EndpointStep e e') : e'.Balanced := by
  have keeps (kept : KeepsTransmission e e') : e'.Balanced := by
    obtain ⟨events, grown, aside⟩ := kept.unmarked
    obtain ⟨marks, releases, abandons⟩ := counts_unmarked aside e.history
    unfold EspNowNetProtocolComponent.Balanced
    rw [grown, marks, releases, abandons, kept.transmission]
    exact balanced
  unfold EspNowNetProtocolComponent.Balanced at *
  cases transmission_effect step with
  | kept kept _ _ => exact keeps kept
  | restarted kept free => exact keeps kept
  | disabled same =>
    obtain ⟨clients, peer, transactionId, heartbeat, _, _, disabled, _⟩ := disableRuntime_eq e
    have unheld : e'.transmission.owner = .none := by
      rw [same, disabled]
      rfl
    obtain ⟨_, ⟨cancels, rfl, each⟩, history⟩ := disableRuntime_history e
    have aside : ∀ event ∈ cancels, event.Unmarked := by
      intro event member
      obtain ⟨slot, peer, transactionId, expected, rfl⟩ := each event member
      trivial
    obtain ⟨marks, releases, abandons⟩ := counts_unmarked aside (.runtimeDisabled :: e.history)
    rw [same, history, ← same]
    by_cases free : e.transmission.owner = .none <;>
      simp [free, unheld, marks, releases, abandons, List.countP_cons, EndpointEvent.marks,
        EndpointEvent.releases, EndpointEvent.abandons, RadioTransmission.held] at balanced ⊢ <;>
      omega
  | ignored taken foreign same =>
    subst same
    exact balanced
  | released taken transmission lands owned history =>
    rcases history with quiet | ⟨flying, completed⟩
    · simp [quiet, transmission, owned, List.countP_cons, EndpointEvent.marks,
        EndpointEvent.releases, EndpointEvent.abandons, RadioTransmission.held] at balanced ⊢
      omega
    · simp [completed, transmission, owned, List.countP_cons, EndpointEvent.marks,
        EndpointEvent.releases, EndpointEvent.abandons, RadioTransmission.held] at balanced ⊢
      omega
  | sent marks free run transmission flight history =>
    simp [history, transmission, free, marks, List.countP_cons, EndpointEvent.marks,
      EndpointEvent.releases, EndpointEvent.abandons, RadioTransmission.held] at balanced ⊢
    omega

/- Whole runs -/

theorem radio_setup (config : Configuration) (random : UInt64) :
    (setup config random).radio.outstanding = [] := by
  simp [setup, EspIdfEspNowEncryptedRadio.outstanding, EspNowSpscQueue.contents_empty]

theorem transmissionSound_setup (config : Configuration) (random : UInt64) :
    (setup config random).TransmissionSound := by
  refine ⟨fun on => absurd on (by simp [setup]), ?_, fun owned => absurd rfl owned, ?_⟩
  · simp [radio_setup]
  · intro flying
    rcases ReliableMessageSender.configure_eq {} (if random = 0 then 1 else random)
      config.retryPolicy with same | same <;>
      simp [setup, same] at flying

theorem transmissionSound_move {e e' : EspNowNetProtocolComponent} (sound : e.TransmissionSound)
    (move : EndpointMove e e') : e'.TransmissionSound := by
  cases move with
  | step step => exact transmissionSound_step sound step
  | notification step => cases step <;> exact sound

theorem transmissionSound_moves {config : Configuration} {random : UInt64}
    {e : EspNowNetProtocolComponent} (moves : EndpointMoves (setup config random) e) :
    e.TransmissionSound :=
  GuardedInvariant.preserved (fun e : EspNowNetProtocolComponent => e.TransmissionSound)
    (fun sound move => transmissionSound_move sound move) moves
    (transmissionSound_setup config random)

theorem pending_run {config : Configuration} {random : UInt64}
    {operations : List EndpointOperation}
    (clear : ∀ event ∈ ((setup config random).run operations).history, KeepsCompletion event) :
    ((setup config random).run operations).CompletionPending := by
  have both := GuardedInvariant.guarded move_extends KeepsCompletion
    (fun e : EspNowNetProtocolComponent => e.TransmissionSound ∧ e.CompletionPending)
    ?_ (run_moves _ operations) ⟨transmissionSound_setup config random, fun owned => absurd rfl owned⟩
    clear
  · exact both.2
  · intro e e' clear ⟨sound, pending⟩ move
    refine ⟨transmissionSound_move sound move, ?_⟩
    cases move with
    | step step => exact pending_step clear sound pending step
    | notification step => cases step <;> exact pending

theorem attributed_run {config : Configuration} {random : UInt64}
    {operations : List EndpointOperation}
    (clear : ∀ event ∈ ((setup config random).run operations).history, KeepsMark event) :
    ∀ event ∈ ((setup config random).run operations).history, event.Attributed := by
  have all := GuardedInvariant.guarded move_extends KeepsMark
    (fun e : EspNowNetProtocolComponent => e.TransmissionSound ∧ e.CompletionTracked ∧
      ∀ event ∈ e.history, event.Attributed) ?_ (run_moves _ operations)
    ⟨transmissionSound_setup config random, tracked_empty (radio_setup config random),
      by simp [setup]⟩ clear
  · exact all.2.2
  · intro e e' clear holds move
    obtain ⟨sound, tracked, attributed⟩ := holds
    refine ⟨transmissionSound_move sound move, ?_⟩
    cases move with
    | step step =>
      exact ⟨tracked_step clear tracked step, attributed_step clear sound tracked attributed step⟩
    | notification step =>
      cases step with
      | cleared => exact ⟨tracked, attributed⟩
      | taken | delivered =>
        exact ⟨tracked, by simpa [record, EndpointEvent.Attributed] using attributed⟩

theorem balanced_run (config : Configuration) (random : UInt64)
    (operations : List EndpointOperation) : ((setup config random).run operations).Balanced := by
  refine GuardedInvariant.preserved _ ?_ (run_moves _ operations) rfl
  intro e e' balanced move
  cases move with
  | step step => exact balanced_step balanced step
  | notification step =>
    cases step with
    | cleared => exact balanced
    | taken | delivered =>
      simpa [EspNowNetProtocolComponent.Balanced, record, List.countP_cons, EndpointEvent.marks,
        EndpointEvent.releases,
        EndpointEvent.abandons] using balanced

/-- A marked transmission always has its completion still to come, as long as no disabled
    iteration throws that completion away and no full queue drops it. -/
theorem marked_completion_outstanding (config : Configuration) (random : UInt64)
    (operations : List EndpointOperation)
    (kept : ∀ event ∈ ((setup config random).run operations).history,
      event ≠ .radioEventsDiscarded true ∧ event ≠ .sendReported true true)
    (owned : ((setup config random).run operations).transmission.owner ≠ .none) :
    ((setup config random).run operations).transmission.frame ∈
      ((setup config random).run operations).radio.outstanding.map Prod.fst :=
  List.mem_map_of_mem (f := Prod.fst) (pending_run kept owned)

theorem marked_completion_outstanding_after_send :
    (∀ event ∈ ((setup { peers := samplePeers } 1).run (radioReady ++ startAndSend 5251)).history,
        event ≠ .radioEventsDiscarded true ∧ event ≠ .sendReported true true) ∧
      ((setup { peers := samplePeers } 1).run
        (radioReady ++ startAndSend 5251)).transmission.owner ≠ .none ∧
      ((setup { peers := samplePeers } 1).run
        (radioReady ++ startAndSend 5251)).transmission.frame ∈
          ((setup { peers := samplePeers } 1).run
            (radioReady ++ startAndSend 5251)).radio.outstanding.map Prod.fst :=
  have kept : ∀ event ∈ ((setup { peers := samplePeers } 1).run
      (radioReady ++ startAndSend 5251)).history,
      event ≠ .radioEventsDiscarded true ∧ event ≠ .sendReported true true := by decide +kernel
  have owned : ((setup { peers := samplePeers } 1).run
      (radioReady ++ startAndSend 5251)).transmission.owner ≠ .none := by decide +kernel
  ⟨kept, owned, marked_completion_outstanding _ _ _ kept owned⟩

/-- The sample command as one frame of a peer whose boot id is 2. -/
def sampleCommandFrame : List UInt8 :=
  match EspNowCommandCodec.encode sampleCommand with
  | .error _ => []
  | .ok payload =>
    (EspNowFrameCodec.fragmentFrame ⟨.command, EspNowFrameCodec.flagAckRequired, 2, 7, 1⟩
      payload.bytes 0).bytes

/-- The handler's `start` switches the runtime off; the ACK of the command is still sent. -/
def switchedOffByHandler : List EndpointOperation :=
  radioReady ++
    [.driver (.receiveCallback (nodeAddress 1) sampleCommandFrame),
      .loop { nowMs := 5251, lanes := fun _ =>
        { answers := { start := .started }, startCalls := [.setRuntimeEnabled false] } },
      .driver (.sendCallback 0 true),
      .loop { nowMs := 5252 }]

/-- The completion of that ACK is thrown away by the next iteration, and the mark stays. -/
theorem disabled_loop_strands_mark :
    ¬ ∀ (config : Configuration) (random : UInt64) (operations : List EndpointOperation),
      (∀ marked, .sendReported marked true ∉ ((setup config random).run operations).history) →
      ((setup config random).run operations).transmission.owner ≠ .none →
        ((setup config random).run operations).transmission.frame ∈
          ((setup config random).run operations).radio.outstanding.map Prod.fst := by
  intro always
  have outstanding := always { peers := samplePeers, handlerInstalled := true } 1
    switchedOffByHandler (by decide +kernel) (by decide +kernel)
  exact absurd outstanding (by decide +kernel)

/-- Every completion ends the frame it reports on, and every mark is released by exactly one
    completion or still held. -/
structure EspNowNetProtocolComponent.Attributed (e : EspNowNetProtocolComponent) : Prop where
  own : ∀ event ∈ e.history, event.Attributed
  released : e.history.countP EndpointEvent.marks =
    e.history.countP EndpointEvent.releases + e.transmission.held

/-- Completions are attributed to their own frames exactly in the runs in which
    `set_runtime_enabled(false)` never clears the mark of a frame whose completion is still
    to come. -/
theorem transmissions_attributed_iff (config : Configuration) (random : UInt64)
    (operations : List EndpointOperation) :
    ((setup config random).run operations).Attributed ↔
      .transmissionAbandoned ∉ ((setup config random).run operations).history := by
  have balanced := balanced_run config random operations
  have abandoned : ((setup config random).run operations).history.countP EndpointEvent.abandons = 0 ↔
      .transmissionAbandoned ∉ ((setup config random).run operations).history := by
    rw [List.countP_eq_zero]
    constructor
    · intro none member
      exact none _ member rfl
    · intro absent event member abandons
      cases event <;> simp_all [EndpointEvent.abandons]
  constructor
  · intro attributed
    rw [← abandoned]
    have released := attributed.released
    unfold EspNowNetProtocolComponent.Balanced at balanced
    omega
  · intro absent
    refine ⟨attributed_run fun event member same => absent (same ▸ member), ?_⟩
    have none := abandoned.mpr absent
    unfold EspNowNetProtocolComponent.Balanced at balanced
    omega

def DriverEvent.InOrder : DriverEvent → Prop
  | .sendCallback position _ => position = 0
  | .receiveCallback _ _ => True

/-- The driver reports the frames in the order it took them. -/
def EndpointOperation.InOrder : EndpointOperation → Prop
  | .control _ => True
  | .driver event => event.InOrder
  | .loop env => ∀ phase, ∀ event ∈ env.driver phase, event.InOrder

/-- A frame in the air, the runtime switched off and on, and the same message again. -/
def switchedOffAndOn : List EndpointOperation :=
  radioReady ++ startAndSend 5251 ++
    [.control (.setRuntimeEnabled false), .control (.setRuntimeEnabled true)] ++
    startAndSend 5252 ++ [.driver (.sendCallback 0 true), .loop { nowMs := 5253 }]

/-- The first frame's completion completes the second one. -/
theorem late_completion_completes_next_frame :
    ¬ ∀ (config : Configuration) (random : UInt64) (operations : List EndpointOperation),
      (∀ operation ∈ operations, operation.InOrder) →
      (∀ marked, .sendReported marked true ∉ ((setup config random).run operations).history) →
      ∀ event ∈ ((setup config random).run operations).history, event.Attributed := by
  intro always
  have attributed := always { peers := samplePeers } 1 switchedOffAndOn
    (by simp [switchedOffAndOn, radioReady, startAndSend, EndpointOperation.InOrder,
      DriverEvent.InOrder])
    (by decide +kernel) (.frameCompleted 0 1) (by decide +kernel)
  simp [EndpointEvent.Attributed] at attributed

end EspNowNet
