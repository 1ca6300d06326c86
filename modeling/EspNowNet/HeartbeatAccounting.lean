import EspNowNet.Loop
import EspNowNet.ReconnectSuppression

/- What becomes of the PINGs. Each is answered, lost, refused by the radio or still awaited, and
   an awaited one is forgotten, uncounted, when the runtime is disabled. -/
namespace EspNowNet

namespace HeartbeatExchange
variable {x x' : HeartbeatExchange}

theorem accept_true {reply : HeartbeatPacket} {nowMs : UInt32}
    (accepted : x.accept reply nowMs = (true, x')) : x.pending = true ∧ x'.pending = false := by
  unfold accept at accepted
  split at accepted
  · cases accepted
  · rename_i fits
    obtain ⟨-, rfl⟩ := Prod.mk.inj accepted
    exact ⟨Decidable.not_not.mp fun idle => fits (Or.inl idle), rfl⟩

end HeartbeatExchange

namespace ApplicationHeartbeat

def awaited (h : ApplicationHeartbeat) : UInt32 := if h.exchange.pending then 1 else 0

/-- The PINGs of which the counters tell nothing. -/
def unaccounted (h : ApplicationHeartbeat) : UInt32 :=
  h.sent - (h.ok + h.lost + h.sendErrors + h.awaited)

/-- What waits to be sent as a reply is a PONG. -/
def Replies (h : ApplicationHeartbeat) : Prop := h.replyPending = true → h.reply.kind = 2

variable {h h' : ApplicationHeartbeat} {localBootId : UInt64} {nowMs : UInt32}

theorem awaited_pending (pending : h.exchange.pending = true) : h.awaited = 1 := if_pos pending

theorem awaited_idle (idle : h.exchange.pending = false) : h.awaited = 0 :=
  if_neg (Bool.eq_false_iff.mp idle)

/- One lemma for each function: what it does to the PINGs and to the reply -/

theorem unaccounted_receive {received : EspNowReceivedFrame} {taken : Bool}
    (run : h.receive received localBootId nowMs = (taken, h')) (replies : h.Replies) :
    h'.unaccounted = h.unaccounted ∧ h'.Replies := by
  have same (run : (true, h) = (taken, h')) : h'.unaccounted = h.unaccounted ∧ h'.Replies := by
    obtain ⟨-, rfl⟩ := Prod.mk.inj run
    exact ⟨rfl, replies⟩
  unfold receive at run
  split at run
  · obtain ⟨-, rfl⟩ := Prod.mk.inj run
    exact ⟨rfl, replies⟩
  split at run
  · exact same run
  split at run
  · exact same run
  split at run
  · split at run
    · exact same run
    · obtain ⟨-, rfl⟩ := Prod.mk.inj run
      exact ⟨rfl, fun _ => rfl⟩
  split at run
  · rename_i exchange accepted
    obtain ⟨waiting, settled⟩ := HeartbeatExchange.accept_true accepted
    obtain ⟨-, rfl⟩ := Prod.mk.inj run
    refine ⟨?_, replies⟩
    unfold unaccounted
    rw [awaited_pending waiting, awaited_idle settled]
    grind
  · exact same run

theorem unaccounted_tick (replies : h.Replies) :
    (h.tick nowMs).unaccounted = h.unaccounted ∧ (h.tick nowMs).Replies := by
  have expiry {expired : ApplicationHeartbeat} (counted : expired.unaccounted = h.unaccounted)
      (replies : expired.Replies) :
      (if expired.replyPending ∧ nowMs - expired.replyReceivedMs ≥ expired.timeoutMs then
        { expired with replyPending := false } else expired).unaccounted = h.unaccounted ∧
      (if expired.replyPending ∧ nowMs - expired.replyReceivedMs ≥ expired.timeoutMs then
        { expired with replyPending := false } else expired).Replies := by
    split
    · exact ⟨counted, fun pending => by cases pending⟩
    · exact ⟨counted, replies⟩
  unfold tick
  apply expiry
  · split
    · rename_i expired
      have waiting : h.exchange.pending = true := (Bool.and_eq_true _ _ ▸ expired).1
      unfold unaccounted
      rw [awaited_pending waiting, awaited_idle rfl]
      grind
    · rfl
  · split <;> exact replies

theorem unaccounted_answered {packet : HeartbeatPacket} (accepted : Bool) (ping : packet.kind ≠ 2)
    (idle : h.exchange.pending = false) :
    (h.transmitted packet accepted nowMs).unaccounted = h.unaccounted - 1 := by
  rw [transmitted, if_neg ping]
  cases accepted with
  | true =>
    change h.sent - (h.ok + h.lost + h.sendErrors + 1) = h.unaccounted - 1
    unfold unaccounted
    rw [awaited_idle idle]
    grind
  | false =>
    change h.sent - (h.ok + h.lost + (h.sendErrors + 1) + h.awaited) = h.unaccounted - 1
    unfold unaccounted
    grind

theorem unaccounted_transmitted {packet : HeartbeatPacket} (accepted : Bool)
    (prepared : h.prepare localBootId nowMs = (some packet, h')) (replies : h.Replies) :
    (h'.transmitted packet accepted nowMs).unaccounted = h.unaccounted ∧
      (h'.transmitted packet accepted nowMs).Replies := by
  unfold prepare at prepared
  split at prepared
  · rename_i pending
    obtain ⟨first, rfl⟩ := Prod.mk.inj prepared
    have pong : packet.kind = 2 := by
      rw [← Option.some.inj first]
      exact replies pending
    rw [transmitted, if_pos pong]
    exact ⟨rfl, fun pending => by cases pending⟩
  split at prepared
  · cases prepared
  · rename_i due
    have idle : h.exchange.pending = false :=
      Bool.eq_false_iff.mpr fun waiting => due (Or.inr (Or.inl waiting))
    obtain ⟨first, rfl⟩ := Prod.mk.inj prepared
    have ping : packet.kind ≠ 2 := by
      rw [← Option.some.inj first]
      exact (by decide : (1 : UInt8) ≠ 2)
    let asked : ApplicationHeartbeat :=
      { h with lastAttemptMs := nowMs, sequence := nextSequence h.sequence, sent := h.sent + 1 }
    constructor
    · -- the PING is counted as sent before the radio is asked
      apply (@unaccounted_answered asked nowMs packet accepted ping idle).trans
      change h.sent + 1 - (h.ok + h.lost + h.sendErrors + h.awaited) - 1 = h.unaccounted
      unfold unaccounted
      grind
    · rw [transmitted, if_neg ping]
      split <;> exact replies

theorem prepare_none (prepared : h.prepare localBootId nowMs = (none, h')) : h' = h := by
  unfold prepare at prepared
  split at prepared
  · cases prepared
  split at prepared
  · exact (Prod.mk.inj prepared).2.symm
  · cases prepared

theorem unaccounted_disable : h.disable.unaccounted = h.unaccounted + h.awaited := by
  unfold unaccounted
  rw [awaited_idle rfl]
  grind [disable]

end ApplicationHeartbeat

namespace EspNowNetProtocolComponent

theorem disableRuntime_heartbeat (e : EspNowNetProtocolComponent) :
    e.disableRuntime.heartbeat =
      if e.build.applicationHeartbeat then e.heartbeat.disable else e.heartbeat := by
  let off := { e with
    runtimeEnabled := false
    heartbeat := if e.build.applicationHeartbeat then e.heartbeat.disable else e.heartbeat
    sender := e.sender.reset
    reliableMessageOwner := .none }.record .runtimeDisabled
  obtain ⟨clients, peer, transactionId, cancelled, since, same⟩ := cancelClients_same (e := off) rfl
  have abandoned (e : EspNowNetProtocolComponent) :
      e.abandonTransmission.heartbeat = e.heartbeat := by
    unfold abandonTransmission
    simp only
    split <;> rfl
  have whole : e.disableRuntime.heartbeat = off.cancelClients.abandonTransmission.heartbeat := by
    unfold disableRuntime discardRadioEvents record
    rfl
  rw [whole, abandoned, same]
  rfl

/-- The heartbeat's part of a received frame. -/
def receiveHeartbeat (e : EspNowNetProtocolComponent) (received : EspNowReceivedFrame)
    (nowMs : UInt32) : EspNowNetProtocolComponent :=
  if e.build.applicationHeartbeat then
    match e.heartbeat.receive received e.localBootId nowMs with
    | (true, heartbeat) => { e with heartbeat }
    | (false, _) => e
  else e

/-- Disabling finds an exchange that waits for its PONG. -/
def Drops (e : EspNowNetProtocolComponent) (enabled : Bool) : Prop :=
  e.runtimeEnabled = true ∧ enabled = false ∧ e.build.applicationHeartbeat = true ∧
    e.heartbeat.exchange.pending = true

instance decidableDrops (e : EspNowNetProtocolComponent) (enabled : Bool) :
    Decidable (e.Drops enabled) :=
  inferInstanceAs (Decidable (_ ∧ _))

end EspNowNetProtocolComponent

/- Runs -/

/-- Besides the heartbeat's own functions, anything may happen to the rest of the endpoint. -/
inductive HeartbeatCall where
  | tick (nowMs : UInt32)
  | dispatch (nowMs : UInt32) (accepted : Bool)
  | receive (received : EspNowReceivedFrame) (nowMs : UInt32)
  | setRuntimeEnabled (enabled : Bool)
  | aside (other : EspNowNetProtocolComponent)

/-- The number of exchanges that disabling has dropped is a history variable. -/
structure HeartbeatRun where
  component : EspNowNetProtocolComponent
  dropped : Nat := 0

namespace HeartbeatRun
open EspNowNetProtocolComponent ApplicationHeartbeat

def call (s : HeartbeatRun) : HeartbeatCall → HeartbeatRun
  | .tick nowMs => { s with component := s.component.heartbeatTick nowMs }
  | .dispatch nowMs accepted =>
    { s with component := s.component.dispatchHeartbeat nowMs accepted }
  | .receive received nowMs => { s with component := s.component.receiveHeartbeat received nowMs }
  | .setRuntimeEnabled enabled =>
    { component := s.component.setRuntimeEnabled enabled
      dropped := s.dropped + if s.component.Drops enabled then 1 else 0 }
  | .aside other =>
    { s with component := { other with
        build := s.component.build, heartbeat := s.component.heartbeat } }

def calls (s : HeartbeatRun) (made : List HeartbeatCall) : HeartbeatRun := made.foldl call s

/-- The configuration gives the peer and the times; the counters start from zero. -/
def start (config : Configuration) (peer : PeerIndex) (intervalMs timeoutMs : UInt32)
    (random : UInt64) : HeartbeatRun where
  component := setup { config with heartbeat := { peer, intervalMs, timeoutMs } } random

structure Accounted (s : HeartbeatRun) : Prop where
  unaccounted : s.component.heartbeat.unaccounted = UInt32.ofNat s.dropped
  replies : s.component.heartbeat.Replies

theorem accounted_setRuntimeEnabled (s : HeartbeatRun) (enabled : Bool) (accounted : s.Accounted) :
    (s.call (.setRuntimeEnabled enabled)).Accounted := by
  have kept {heartbeat : ApplicationHeartbeat} (same : heartbeat = s.component.heartbeat)
      (undropped : ¬ s.component.Drops enabled) : heartbeat.unaccounted =
        UInt32.ofNat (s.dropped + if s.component.Drops enabled then 1 else 0) ∧
      heartbeat.Replies := by
    rw [same, if_neg undropped]
    exact ⟨accounted.unaccounted, accounted.replies⟩
  have result : (s.component.setRuntimeEnabled enabled).heartbeat.unaccounted =
        UInt32.ofNat (s.dropped + if s.component.Drops enabled then 1 else 0) ∧
      (s.component.setRuntimeEnabled enabled).heartbeat.Replies := by
    unfold setRuntimeEnabled
    split
    · rename_i unchanged
      apply kept rfl
      rintro ⟨on, off, _⟩
      rw [on, off] at unchanged
      cases unchanged
    split
    · rename_i on
      apply kept rfl
      rintro ⟨_, off, _⟩
      rw [off] at on
      cases on
    · rename_i changed off
      rw [disableRuntime_heartbeat]
      split
      · rename_i build
        refine ⟨?_, fun pending => by cases pending⟩
        rw [unaccounted_disable, accounted.unaccounted]
        cases pending : s.component.heartbeat.exchange.pending with
        | true =>
          have enabled' : enabled = false := Bool.eq_false_iff.mpr off
          have running : s.component.runtimeEnabled = true := by
            rw [enabled'] at changed
            exact Decidable.not_not.mp fun idle => changed (Bool.eq_false_iff.mpr idle)
          rw [if_pos ⟨running, enabled', build, pending⟩, awaited_pending pending, UInt32.ofNat_add]
          rfl
        | false =>
          have undropped : ¬ s.component.Drops enabled := fun drops =>
            Bool.false_ne_true (pending.symm.trans drops.2.2.2)
          rw [if_neg undropped, awaited_idle pending, UInt32.add_zero, Nat.add_zero]
      · rename_i build
        exact kept rfl fun drops => build drops.2.2.1
  exact ⟨result.1, result.2⟩

theorem accounted_call (s : HeartbeatRun) (made : HeartbeatCall) (accounted : s.Accounted) :
    (s.call made).Accounted := by
  have keep {e : EspNowNetProtocolComponent}
      (step : e.heartbeat.unaccounted = s.component.heartbeat.unaccounted ∧ e.heartbeat.Replies) :
      Accounted { s with component := e } :=
    ⟨step.1.trans accounted.unaccounted, step.2⟩
  cases made with
  | tick nowMs =>
    apply keep
    unfold heartbeatTick
    split
    · exact unaccounted_tick accounted.replies
    · exact ⟨rfl, accounted.replies⟩
  | dispatch nowMs accepted =>
    apply keep
    unfold dispatchHeartbeat
    split
    · exact ⟨rfl, accounted.replies⟩
    split
    · rename_i heartbeat prepared
      rw [prepare_none prepared]
      exact ⟨rfl, accounted.replies⟩
    · rename_i packet heartbeat prepared
      exact unaccounted_transmitted _ prepared accounted.replies
  | receive received nowMs =>
    apply keep
    unfold receiveHeartbeat
    split
    · split
      · rename_i heartbeat run
        exact unaccounted_receive run accounted.replies
      · exact ⟨rfl, accounted.replies⟩
    · exact ⟨rfl, accounted.replies⟩
  | setRuntimeEnabled enabled => exact s.accounted_setRuntimeEnabled enabled accounted
  | aside other => exact keep ⟨rfl, accounted.replies⟩

theorem accounted_calls (s : HeartbeatRun) (made : List HeartbeatCall) (accounted : s.Accounted) :
    (s.calls made).Accounted := by
  induction made generalizing s with
  | nil => exact accounted
  | cons first rest ih => exact ih _ (s.accounted_call first accounted)

/-- Each PING is answered, lost, refused, awaited, or one of those that disabling the runtime
    has dropped. -/
theorem pings_accounted (config : Configuration) (peer : PeerIndex) (intervalMs timeoutMs : UInt32)
    (random : UInt64) (made : List HeartbeatCall) :
    let s := (start config peer intervalMs timeoutMs random).calls made
    let h := s.component.heartbeat
    h.sent = h.ok + h.lost + h.sendErrors + (if h.exchange.pending then 1 else 0) +
      UInt32.ofNat s.dropped := by
  intro s h
  have accounted : s.Accounted := by
    apply accounted_calls
    constructor
    · exact (by decide : (0 : UInt32) - (0 + 0 + 0 + 0) = UInt32.ofNat 0)
    · intro pending
      cases pending
  have counted : h.sent - (h.ok + h.lost + h.sendErrors + h.awaited) = UInt32.ofNat s.dropped :=
    accounted.unaccounted
  rw [← counted]
  change h.sent = h.ok + h.lost + h.sendErrors + h.awaited + _
  grind

/-- An endpoint with one peer, to which it sends a PING each second. -/
def pinging : HeartbeatRun :=
  start { build := { applicationHeartbeat := true }, peers := RadioRun.lonePeer } 0 1000 1500 7

/-- The radio comes up, a PING goes out, and the runtime is disabled before the PONG. -/
def disabledWhileAwaited : List HeartbeatCall :=
  [.aside ((pinging.component.radioLoop { nowMs := 250 }).radioLoop { nowMs := 5250 }),
    .dispatch 5250 true, .setRuntimeEnabled false]

theorem dropped_ping_is_not_counted :
    let h := (pinging.calls disabledWhileAwaited).component.heartbeat
    h.sent ≠ h.ok + h.lost + h.sendErrors + if h.exchange.pending then 1 else 0 := by
  decide +kernel

end HeartbeatRun

end EspNowNet
