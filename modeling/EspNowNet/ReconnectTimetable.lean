import EspNowNet.Library.GuardedInvariant
import EspNowNet.RadioClock
import EspNowNet.ReconnectSuppression

/- When Wi-Fi's reconnection is turned off and on again. The polls follow a timetable whose phases
   have a least and a greatest length, whatever the clock wraps through. -/
namespace EspNowNet
open EspIdfEspNowEncryptedRadio GuardedInvariant TimedLog

inductive ReconnectEvent where
  | observed (associated : Bool)
  | requested (accepted : Bool)
  | confirmed
  | released
  deriving DecidableEq

abbrev ReconnectRecord := TimedRecord ReconnectEvent

/-- A phase of the timetable, and the instant it began at. Once the association is back, a
    suppression that is still held is `regained` until it is released. -/
inductive ReconnectPhase where
  | connected
  | regained (since : Nat)
  | lost (since : Nat)
  | refused (since : Nat)
  | requested (since : Nat)
  | suppressed (since : Nat)
  | window (since : Nat)
  deriving DecidableEq

/-- How long a phase may last, from an instant on. -/
structure ReconnectSpell where
  since : Nat
  least : Nat
  greatest : Nat
  deriving DecidableEq

namespace ReconnectPhase

def spell : ReconnectPhase → Option ReconnectSpell
  | .connected => none
  | .regained since => some ⟨since, 0, 0⟩
  | .lost since => some ⟨since, wifiReconnectGraceBaseMs.toNat,
      wifiReconnectGraceBaseMs.toNat + wifiReconnectGraceJitterMs.toNat⟩
  | .refused since | .requested since =>
    some ⟨since, wifiReconnectRequestRetryMs.toNat, wifiReconnectRequestRetryMs.toNat⟩
  | .suppressed since => some ⟨since, wifiReconnectHoldBaseMs.toNat,
      wifiReconnectHoldBaseMs.toNat + wifiReconnectHoldJitterMs.toNat⟩
  | .window since => some ⟨since, wifiReconnectWindowMs.toNat, wifiReconnectWindowMs.toNat⟩

def turn (p : ReconnectPhase) (record : ReconnectRecord) : ReconnectPhase :=
  match record.event, p with
  | .observed true, .requested _ | .observed true, .suppressed _ => .regained record.instant
  | .observed true, .regained since => .regained since
  | .observed true, _ => .connected
  | .observed false, .connected => .lost record.instant
  | .observed false, p => p
  | .requested true, _ => .requested record.instant
  | .requested false, _ => .refused record.instant
  | .confirmed, _ => .suppressed record.instant
  | .released, .regained _ => .connected
  | .released, _ => .window record.instant

/-- The least length of the phase is over. -/
def Ripe (p : ReconnectPhase) (instant : Nat) : Prop :=
  ∃ spell, p.spell = some spell ∧ spell.since + spell.least ≤ instant

/-- What may happen in a phase. A suppression is requested while none is held, confirmed while it
    is requested, and released when the phase is over or in the poll that finds the association. -/
def Permits (p : ReconnectPhase) (record : ReconnectRecord) : Prop :=
  match record.event, p with
  | .observed _, .regained _ => False
  | .observed _, _ => True
  | .requested _, .lost _ | .requested _, .refused _ | .requested _, .window _ =>
    p.Ripe record.instant
  | .confirmed, .requested _ => True
  | .released, .requested _ | .released, .suppressed _ => p.Ripe record.instant
  | .released, .regained since => since = record.instant
  | _, _ => False

def after (log : List ReconnectRecord) : ReconnectPhase :=
  log.foldr (fun record p => p.turn record) .connected

@[simp] theorem after_nil : after [] = .connected := rfl

@[simp] theorem after_cons (record : ReconnectRecord) (log : List ReconnectRecord) :
    after (record :: log) = (after log).turn record :=
  rfl

/-- A suppression is asked for or holds. -/
def holding : ReconnectPhase → Bool
  | .requested _ | .suppressed _ | .regained _ => true
  | .connected | .lost _ | .refused _ | .window _ => false

end ReconnectPhase

/-- The past of a record leaves a phase that permits it. -/
def OnTimetable (older : List ReconnectRecord) (record : ReconnectRecord) : Prop :=
  (ReconnectPhase.after older).Permits record

def RadioAction.reconnectEvent : RadioAction → Option ReconnectEvent
  | .suppressionRequested accepted => some (.requested accepted)
  | .suppressionConfirmed => some .confirmed
  | .suppressionReleased => some .released
  | .polled _ | .restarted | .initializeRadio => none

/-- A poll observes the association before it does anything. -/
def EspIdfEspNowEncryptedRadio.reconnectEvents (r : EspIdfEspNowEncryptedRadio)
    (env : RadioEnvironment) (nowMs : UInt32) : List ReconnectEvent :=
  if r.Resting nowMs then []
  else .observed env.associated :: (r.loopActions env nowMs).filterMap RadioAction.reconnectEvent

/-- A run of the radio with the log of its arbitration, newest first. -/
structure ReconnectRun where
  run : RadioRun
  log : List ReconnectRecord := []

namespace ReconnectRun

def call (s : ReconnectRun) (made : RadioCall) : ReconnectRun where
  run := s.run.call made
  log :=
    match made with
    | .loop env => stamped s.run.instant (s.run.radio.reconnectEvents env s.run.nowMs) ++ s.log
    | _ => s.log

def wait (s : ReconnectRun) (elapsedMs : Nat) : ReconnectRun :=
  { s with run := s.run.wait elapsedMs }

def calls (s : ReconnectRun) (made : List (Nat × RadioCall)) : ReconnectRun :=
  made.foldl (fun s timed => (s.wait timed.1).call timed.2) s

def phase (s : ReconnectRun) : ReconnectPhase := .after s.log

end ReconnectRun

/- What the arbitration holds in each phase -/

/-- The association is known to be lost. -/
structure Apart (w : WiFiArbitration) : Prop where
  known : w.associationKnown = true
  associated : w.associated = false

def ReconnectPhase.Stands (w : WiFiArbitration) : ReconnectPhase → Prop
  | .connected => (w.associationKnown = true → w.associated = true) ∧ w.state = .monitoring
  | .regained _ => False
  | .lost _ => Apart w ∧ w.state = .grace
  | .refused _ => Apart w ∧ (w.state = .grace ∨ w.state = .reconnectWindow)
  | .requested _ => Apart w ∧ w.state = .requesting
  | .suppressed _ => Apart w ∧ w.state = .suppressed
  | .window _ => Apart w ∧ w.state = .reconnectWindow

/-- The arbitration stands where the phase says, and its deadline stamps an instant at which the
    phase may end. -/
structure Keeps (w : WiFiArbitration) (instant dueAt : Nat) (p : ReconnectPhase) : Prop where
  stands : p.Stands w
  held : w.suppressionHeld = p.holding
  stamped : ∀ spell, p.spell = some spell → w.dueMs = UInt32.ofNat dueAt
  begun : ∀ spell, p.spell = some spell → spell.since ≤ instant
  least : ∀ spell, p.spell = some spell → spell.since + spell.least ≤ dueAt
  greatest : ∀ spell, p.spell = some spell → dueAt ≤ spell.since + spell.greatest

theorem greatest_le {p : ReconnectPhase} {spell : ReconnectSpell} (spells : p.spell = some spell) :
    spell.greatest ≤ 60000 := by
  cases p with
  | connected => cases spells
  | regained | lost | refused | requested | suppressed | window =>
    obtain rfl := Option.some.inj spells
    dsimp only
    decide

theorem spell_of_waiting {p : ReconnectPhase} (waiting : p ≠ .connected) :
    ∃ spell, p.spell = some spell := by
  cases p with
  | connected => exact absurd rfl waiting
  | regained | lost | refused | requested | suppressed | window => exact ⟨_, rfl⟩

section Phases
variable {w : WiFiArbitration} {p : ReconnectPhase} {instant later dueAt : Nat}

theorem Keeps.wait (keeps : Keeps w instant dueAt p) (after : instant ≤ later) :
    Keeps w later dueAt p :=
  { keeps with begun := fun spell spells => (keeps.begun spell spells).trans after }

theorem Keeps.near (keeps : Keeps w instant dueAt p) {spell : ReconnectSpell}
    (spells : p.spell = some spell) : dueAt ≤ instant + 2 ^ 31 := by
  have greatest := keeps.greatest spell spells
  have begun := keeps.begun spell spells
  have bound := greatest_le spells
  omega

theorem Keeps.ripe (keeps : Keeps w instant dueAt p) {spell : ReconnectSpell}
    (spells : p.spell = some spell)
    (elapsed : deadlinePending (UInt32.ofNat instant) w.dueMs = false) : p.Ripe instant := by
  rw [keeps.stamped spell spells] at elapsed
  have due := due_of_over (keeps.near spells) elapsed
  exact ⟨spell, spells, (keeps.least spell spells).trans due⟩

theorem keeps_begun {least greatest : Nat} (stands : p.Stands w)
    (held : w.suppressionHeld = p.holding) (spells : p.spell = some ⟨instant, least, greatest⟩)
    (stamped : w.dueMs = UInt32.ofNat dueAt) (after : instant + least ≤ dueAt)
    (before : dueAt ≤ instant + greatest) : Keeps w instant dueAt p := by
  have same {other : ReconnectSpell} (spells' : p.spell = some other) :
      other = ⟨instant, least, greatest⟩ :=
    Option.some.inj (spells'.symm.trans spells)
  refine ⟨stands, held, ?_, ?_, ?_, ?_⟩
  · exact fun _ _ => stamped
  · intro other spells'
    rw [same spells']
  · intro other spells'
    rw [same spells']
    exact after
  · intro other spells'
    rw [same spells']
    exact before

theorem Keeps.apart (keeps : Keeps w instant dueAt p) (waiting : p ≠ .connected) : Apart w := by
  have stands := keeps.stands
  cases p with
  | connected => exact absurd rfl waiting
  | regained => exact stands.elim
  | lost | refused | requested | suppressed | window => exact stands.1

theorem Keeps.connected (keeps : Keeps w instant dueAt p) (near : ¬ Apart w) : p = .connected := by
  by_contra waiting
  exact near (keeps.apart waiting)

theorem keeps_connected (associated : w.associationKnown = true → w.associated = true)
    (monitoring : w.state = .monitoring) (free : w.suppressionHeld = false) :
    Keeps w instant dueAt .connected := by
  refine ⟨⟨associated, monitoring⟩, free, ?_, ?_, ?_, ?_⟩ <;>
  · intro spell spells
    cases spells

end Phases

/- One poll -/

/-- Events at an instant that a phase and those it turns into permit. -/
inductive Passes (instant : Nat) : ReconnectPhase → List ReconnectEvent → ReconnectPhase → Prop
  | rest (p : ReconnectPhase) : Passes instant p [] p
  | turn {p q : ReconnectPhase} {event : ReconnectEvent} {later : List ReconnectEvent}
      (permits : p.Permits ⟨instant, event⟩) (rest : Passes instant (p.turn ⟨instant, event⟩) later q) :
    Passes instant p (event :: later) q

theorem Passes.append {instant : Nat} {p q r : ReconnectPhase} {first second : List ReconnectEvent}
    (before : Passes instant p first q) (after : Passes instant q second r) :
    Passes instant p (first ++ second) r := by
  induction before with
  | rest => exact after
  | turn permits _ ih => exact .turn permits (ih after)

theorem passes_one {instant : Nat} {p : ReconnectPhase} {event : ReconnectEvent}
    (permits : p.Permits ⟨instant, event⟩) :
    Passes instant p [event] (p.turn ⟨instant, event⟩) :=
  .turn permits (.rest _)

theorem Passes.logged {instant : Nat} {p q : ReconnectPhase} {events : List ReconnectEvent}
    (passes : Passes instant p events q) {log : List ReconnectRecord}
    (phase : ReconnectPhase.after log = p) (onTime : Throughout OnTimetable log) :
    ReconnectPhase.after (stamped instant events ++ log) = q ∧
      Throughout OnTimetable (stamped instant events ++ log) := by
  induction passes generalizing log with
  | rest p => exact ⟨phase, onTime⟩
  | @turn p q event later permits _ ih =>
    have permitted : OnTimetable log ⟨instant, event⟩ := by
      unfold OnTimetable
      rw [phase]
      exact permits
    have turned : ReconnectPhase.after (⟨instant, event⟩ :: log) = p.turn ⟨instant, event⟩ := by
      rw [ReconnectPhase.after_cons, phase]
    have step := ih turned (throughout_cons.mpr ⟨permitted, onTime⟩)
    simpa [stamped] using step

/-- The events pass to a phase that the arbitration keeps. -/
structure Turned (instant : Nat) (p : ReconnectPhase) (events : List ReconnectEvent)
    (w : WiFiArbitration) (q : ReconnectPhase) (dueAt : Nat) : Prop where
  passes : Passes instant p events q
  keeps : Keeps w instant dueAt q

/-- The deadline of the phase that a poll passes to is to come, or it is the one from before and
    is pending by the clock. -/
def Fresh (instant dueAt : Nat) (p q : ReconnectPhase) (dueAt' : Nat) : Prop :=
  q = .connected ∨ instant < dueAt' ∨
    p ≠ .connected ∧ dueAt' = dueAt ∧
      deadlinePending (UInt32.ofNat instant) (UInt32.ofNat dueAt) = true

namespace EspIdfEspNowEncryptedRadio
variable {r : EspIdfEspNowEncryptedRadio} {env : RadioEnvironment} {p : ReconnectPhase}
  {instant dueAt : Nat}

theorem reconnect_releaseActions (arbitrates : env.Arbitrates) :
    (r.releaseActions env).filterMap RadioAction.reconnectEvent =
      if r.wifi.suppressionHeld then [.released] else [] := by
  unfold releaseActions
  rw [arbitrates.component]
  cases r.wifi.suppressionHeld with
  | true => rfl
  | false => rfl

theorem keeps_graced (arbitrates : env.Arbitrates) (known : r.wifi.associationKnown = true)
    (apart : r.wifi.associated = false) :
    ∃ dueAt, instant < dueAt ∧
      Keeps (r.scheduleWifiArbitrationGrace env (UInt32.ofNat instant)).wifi instant dueAt
        (.lost instant) := by
  have jitter := jitterMs_le env wifiReconnectGraceJitterMs 0x47524143 (by decide)
  have base : wifiReconnectGraceBaseMs.toNat = 10000 := rfl
  have unfixed : ¬ (env.fixedChannel = true ∧ env.wifiComponent = true) := by
    simp [arbitrates.free]
  refine ⟨instant + wifiReconnectGraceBaseMs.toNat +
    (jitterMs env wifiReconnectGraceJitterMs 0x47524143).toNat, by omega, ?_⟩
  unfold scheduleWifiArbitrationGrace
  simp only [if_neg unfixed]
  refine keeps_begun ⟨⟨known, apart⟩, rfl⟩ rfl rfl ?_ ?_ ?_
  · exact stamp_add instant _ _
  · omega
  · omega

theorem wifi_scheduled (fixed : Prop) [Decidable fixed] (nowMs : UInt32) :
    (if fixed then r else r.scheduleRadioRecovery env nowMs).wifi = r.wifi := by
  split
  · rfl
  · exact congrArg View.wifi (view_scheduleRadioRecovery r env nowMs)

/-- The association is back: what was held is released, and nothing else is. -/
theorem passes_regained (apart : p ≠ .connected ∧ ∀ since, p ≠ .regained since) :
    Passes instant p (.observed true :: if p.holding then [.released] else []) .connected := by
  cases p with
  | connected => exact absurd rfl apart.1
  | regained since => exact absurd rfl (apart.2 since)
  | lost | refused | window => exact passes_one trivial
  | requested | suppressed => exact .turn trivial (passes_one rfl)

theorem turned_lost (arbitrates : env.Arbitrates) (known : r.wifi.associationKnown = true)
    (apart : r.wifi.associated = false) :
    ∃ dueAt', Turned instant .connected [.observed false]
      (r.scheduleWifiArbitrationGrace env (UInt32.ofNat instant)).wifi (.lost instant) dueAt' ∧
      instant < dueAt' := by
  obtain ⟨dueAt', later, keeps⟩ := @keeps_graced r env instant arbitrates known apart
  exact ⟨dueAt', ⟨passes_one trivial, keeps⟩, later⟩

/-- Observing the association keeps the deadline or sets one to come. -/
theorem turned_observe (arbitrates : env.Arbitrates) (keeps : Keeps r.wifi instant dueAt p) :
    ∃ q dueAt', Turned instant p
      (.observed env.associated :: (r.observeActions env).filterMap RadioAction.reconnectEvent)
      (r.observeWifiAssociation env (UInt32.ofNat instant)).wifi q dueAt' ∧
      (instant < dueAt' ∨ (q = .connected ∨ q = p) ∧ dueAt' = dueAt) := by
  have released := reconnect_releaseActions arbitrates (r := r)
  unfold observeWifiAssociation observeActions
  by_cases known : r.wifi.associationKnown = true
  swap
  · -- the first observation
    obtain rfl := keeps.connected fun apart => known apart.known
    have free : r.wifi.suppressionHeld = false := keeps.held
    rw [free] at released
    rw [if_pos known, if_pos known]
    cases associated : env.associated with
    | true =>
      refine ⟨.connected, dueAt, ⟨passes_one trivial, ?_⟩, Or.inr ⟨Or.inl rfl, rfl⟩⟩
      exact keeps_connected (fun _ => rfl) keeps.stands.2 free
    | false =>
      simp only [Bool.false_eq_true, not_false_eq_true, ↓reduceIte, released]
      let unmet : EspIdfEspNowEncryptedRadio :=
        { r with wifi := { r.wifi with associationKnown := true, associated := false } }
      obtain ⟨dueAt', turned, later⟩ := @turned_lost unmet env instant arbitrates rfl rfl
      exact ⟨.lost instant, dueAt', turned, Or.inl later⟩
  rw [if_neg (not_not.mpr known), if_neg (not_not.mpr known)]
  cases associated : env.associated with
  | true =>
    cases before : r.wifi.associated with
    | true =>
      obtain rfl := keeps.connected fun apart => by simp [apart.associated] at before
      simp only [↓reduceIte]
      exact ⟨.connected, dueAt, ⟨passes_one trivial, keeps⟩, Or.inr ⟨Or.inl rfl, rfl⟩⟩
    | false =>
      have apart : p ≠ .connected ∧ ∀ since, p ≠ .regained since := by
        constructor
        · rintro rfl
          have associated := keeps.stands.1 known
          rw [before] at associated
          cases associated
        · rintro since rfl
          exact keeps.stands
      simp only [Bool.true_eq_false, ↓reduceIte]
      rw [released, keeps.held, wifi_scheduled]
      refine ⟨.connected, dueAt, ⟨passes_regained apart, ?_⟩, Or.inr ⟨Or.inl rfl, rfl⟩⟩
      exact keeps_connected (fun _ => rfl) rfl rfl
  | false =>
    cases before : r.wifi.associated with
    | true =>
      obtain rfl := keeps.connected fun apart => by simp [apart.associated] at before
      have free : r.wifi.suppressionHeld = false := keeps.held
      rw [free] at released
      simp only [Bool.false_eq_true, ↓reduceIte]
      rw [released, wifi_scheduled]
      let parted : EspIdfEspNowEncryptedRadio :=
        { r with wifi := { r.wifi with associated := false } }
      obtain ⟨dueAt', turned, later⟩ := @turned_lost parted env instant arbitrates known rfl
      exact ⟨.lost instant, dueAt', turned, Or.inl later⟩
    | false =>
      have waiting : p ≠ .connected := by
        rintro rfl
        have associated := keeps.stands.1 known
        rw [before] at associated
        cases associated
      have same : p.turn ⟨instant, .observed false⟩ = p := by
        cases p with
        | connected => exact absurd rfl waiting
        | regained | lost | refused | requested | suppressed | window => rfl
      have permits : p.Permits ⟨instant, .observed false⟩ := by
        cases p with
        | regained since => exact keeps.stands
        | connected | lost | refused | requested | suppressed | window => trivial
      have passes := passes_one permits
      rw [same] at passes
      simp only [↓reduceIte]
      exact ⟨p, dueAt, ⟨passes, keeps⟩, Or.inr ⟨Or.inr rfl, rfl⟩⟩

theorem keeps_delayed {w : WiFiArbitration} {q : ReconnectPhase} (delayMs : UInt32)
    (stands : q.Stands w) (held : w.suppressionHeld = q.holding)
    (spells : q.spell = some ⟨instant, delayMs.toNat, delayMs.toNat⟩)
    (stamped : w.dueMs = UInt32.ofNat instant + delayMs) :
    Keeps w instant (instant + delayMs.toNat) q := by
  rw [stamp_add_one] at stamped
  exact keeps_begun stands held spells stamped (Nat.le_refl _) (Nat.le_refl _)

theorem turned_confirmed (keeps : Keeps r.wifi instant dueAt p)
    (requesting : r.wifi.state = .requesting) :
    ∃ dueAt', Turned instant p [.confirmed]
      { r.wifi with
        state := .suppressed
        dueMs := UInt32.ofNat instant + wifiReconnectHoldBaseMs +
          jitterMs env wifiReconnectHoldJitterMs 0x484F4C44 } (.suppressed instant) dueAt' ∧
      Fresh instant dueAt p (.suppressed instant) dueAt' := by
  obtain ⟨since, rfl⟩ : ∃ since, p = .requested since := by
    have stands := keeps.stands
    cases p with
    | requested since => exact ⟨since, rfl⟩
    | regained since => exact stands.elim
    | connected | lost | refused | suppressed | window =>
      simp [ReconnectPhase.Stands, requesting] at stands
  have jitter := jitterMs_le env wifiReconnectHoldJitterMs 0x484F4C44 (by decide)
  have base : wifiReconnectHoldBaseMs.toNat = 30000 := rfl
  refine ⟨instant + wifiReconnectHoldBaseMs.toNat +
    (jitterMs env wifiReconnectHoldJitterMs 0x484F4C44).toNat,
    ⟨passes_one trivial, keeps_begun ⟨⟨?_, ?_⟩, rfl⟩ keeps.held rfl ?_ ?_ ?_⟩, ?_⟩
  · exact keeps.stands.1.known
  · exact keeps.stands.1.associated
  · exact stamp_add instant _ _
  · omega
  · omega
  · exact Or.inr (Or.inl (by omega))

theorem turned_requested (apart : Apart r.wifi)
    (asking : r.wifi.state = .grace ∨ r.wifi.state = .reconnectWindow)
    (free : r.wifi.suppressionHeld = false)
    (permits : ∀ accepted, p.Permits ⟨instant, .requested accepted⟩) :
    ∃ q dueAt', Turned instant p
      ([RadioAction.suppressionRequested env.suppressionAccepted].filterMap
        RadioAction.reconnectEvent)
      (if env.suppressionAccepted then
        { r with wifi := { r.wifi with
          suppressionHeld := true, state := .requesting
          dueMs := UInt32.ofNat instant + wifiReconnectRequestRetryMs } }
      else { r with wifi := { r.wifi with
        dueMs := UInt32.ofNat instant + wifiReconnectRequestRetryMs } }).wifi q dueAt' ∧
      Fresh instant dueAt p q dueAt' := by
  let next := instant + wifiReconnectRequestRetryMs.toNat
  have later : instant < next := Nat.lt_add_of_pos_right (by decide)
  cases env.suppressionAccepted with
  | true =>
    have passes := passes_one (permits true)
    rw [if_pos rfl]
    refine ⟨.requested instant, next, ⟨passes, ?_⟩, Or.inr (Or.inl later)⟩
    exact keeps_delayed wifiReconnectRequestRetryMs ⟨⟨apart.known, apart.associated⟩, rfl⟩ rfl
      rfl rfl
  | false =>
    have passes := passes_one (permits false)
    rw [if_neg Bool.false_ne_true]
    refine ⟨.refused instant, next, ⟨passes, ?_⟩, Or.inr (Or.inl later)⟩
    exact keeps_delayed wifiReconnectRequestRetryMs ⟨⟨apart.known, apart.associated⟩, asking⟩ free
      rfl rfl

theorem turned_released (apart : Apart r.wifi) (permits : p.Permits ⟨instant, .released⟩)
    (turn : p.turn ⟨instant, .released⟩ = .window instant) :
    ∃ q dueAt', Turned instant p [.released]
      { r.releaseWifiReconnectSuppression.wifi with
        state := .reconnectWindow
        dueMs := UInt32.ofNat instant + wifiReconnectWindowMs } q dueAt' ∧
      Fresh instant dueAt p q dueAt' := by
  have later : instant < instant + wifiReconnectWindowMs.toNat :=
    Nat.lt_add_of_pos_right (by decide)
  have passes := passes_one permits
  rw [turn] at passes
  refine ⟨.window instant, _, ⟨passes, ?_⟩, Or.inr (Or.inl later)⟩
  exact keeps_delayed wifiReconnectWindowMs ⟨⟨apart.known, apart.associated⟩, rfl⟩ rfl rfl rfl

/-- Nothing is asked for while the deadline is pending, and what is asked once it is over sets
    another. -/
theorem turned_arbitrate (arbitrates : env.Arbitrates) (keeps : Keeps r.wifi instant dueAt p) :
    ∃ q dueAt', Turned instant p
      ((r.arbitrationActions env (UInt32.ofNat instant)).filterMap RadioAction.reconnectEvent)
      (r.processWifiArbitration env (UInt32.ofNat instant)).wifi q dueAt' ∧
      Fresh instant dueAt p q dueAt' := by
  have released := reconnect_releaseActions arbitrates (r := r)
  have unfixed : ¬ env.fixedChannel = true := by simp [arbitrates.free]
  unfold processWifiArbitration arbitrationActions
  rw [if_neg unfixed, if_neg unfixed]
  by_cases waiting : p = .connected
  · subst waiting
    have idle : ¬ r.wifi.associationKnown = true ∨ r.wifi.associated = true ∨
        ¬ env.wifiComponent = true := by
      by_cases known : r.wifi.associationKnown = true
      · exact Or.inr (Or.inl (keeps.stands.1 known))
      · exact Or.inl known
    rw [if_pos idle, if_pos idle]
    exact ⟨.connected, dueAt, ⟨.rest _, keeps⟩, Or.inl rfl⟩
  have apart := keeps.apart waiting
  have busy : ¬ (¬ r.wifi.associationKnown = true ∨ r.wifi.associated = true ∨
      ¬ env.wifiComponent = true) := by
    simp [apart.known, apart.associated, arbitrates.component]
  rw [if_neg busy, if_neg busy]
  by_cases confirmed : r.wifi.state = .requesting ∧ env.suppressionActive = true
  · rw [if_pos confirmed, if_pos confirmed]
    exact ⟨.suppressed instant, turned_confirmed keeps confirmed.1⟩
  rw [if_neg confirmed, if_neg confirmed]
  obtain ⟨spell, spells⟩ := spell_of_waiting waiting
  by_cases pending : deadlinePending (UInt32.ofNat instant) r.wifi.dueMs = true
  · rw [if_pos pending, if_pos pending]
    refine ⟨p, dueAt, ⟨.rest _, keeps⟩, Or.inr (Or.inr ⟨waiting, rfl, ?_⟩)⟩
    rwa [keeps.stamped spell spells] at pending
  rw [if_neg pending, if_neg pending]
  have ripe := keeps.ripe spells (Bool.eq_false_iff.mpr pending)
  have stands := keeps.stands
  have held := keeps.held
  cases p with
  | connected => exact absurd rfl waiting
  | regained since => exact stands.elim
  | lost since =>
    rw [stands.2]
    exact turned_requested apart (Or.inl stands.2) held fun _ => ripe
  | refused since =>
    have requested := @turned_requested r env (.refused since) instant dueAt apart stands.2 held
      fun _ => ripe
    rcases stands.2 with state | state
    · rw [state]
      exact requested
    · rw [state]
      exact requested
  | window since =>
    rw [stands.2]
    exact turned_requested apart (Or.inr stands.2) held fun _ => ripe
  | requested since =>
    rw [stands.2, released, held]
    exact turned_released apart ripe rfl
  | suppressed since =>
    rw [stands.2, released, held]
    exact turned_released apart ripe rfl

theorem reconnect_listenActions (nowMs : UInt32) :
    (r.listenActions env nowMs).filterMap RadioAction.reconnectEvent = [] := by
  have listened := r.listened_listen env nowMs
  generalize r.listenActions env nowMs = actions at listened ⊢
  generalize (r.listen env nowMs).view = next at listened
  cases listened with
  | lost | begun | settled | restarted | initializing => rfl

/-- A poll passes to a phase that the arbitration keeps, with a deadline to come unless the clock
    has left the old one behind. -/
theorem turned_loop (arbitrates : env.Arbitrates) (keeps : Keeps r.wifi instant dueAt p)
    (polls : ¬ r.Resting (UInt32.ofNat instant)) :
    ∃ q dueAt', Turned instant p (r.reconnectEvents env (UInt32.ofNat instant))
      (r.loop env (UInt32.ofNat instant)).wifi q dueAt' ∧
      Fresh instant dueAt p q dueAt' := by
  let polling : EspIdfEspNowEncryptedRadio := { r with lastChannelPollMs := UInt32.ofNat instant }
  have start : Keeps polling.wifi instant dueAt p := keeps
  obtain ⟨between, dueAt₁, observed, kept⟩ := turned_observe arbitrates start
  obtain ⟨q, dueAt₂, processed, fresh⟩ := turned_arbitrate arbitrates observed.keeps
  refine ⟨q, dueAt₂, ⟨?_, ?_⟩, ?_⟩
  · unfold reconnectEvents loopActions arbitrateActions
    rw [if_neg polls, if_neg polls, List.filterMap_append, reconnect_listenActions,
      List.append_nil, List.filterMap_append, ← List.cons_append]
    exact observed.passes.append processed.passes
  · rw [loop_eq, if_neg polls]
    have same := ((r.arbitrate env (UInt32.ofNat instant)).listened_listen env
      (UInt32.ofNat instant)).wifi.1
    have wifi : ((r.arbitrate env (UInt32.ofNat instant)).listen env (UInt32.ofNat instant)).wifi =
        (r.arbitrate env (UInt32.ofNat instant)).wifi := same
    rw [wifi]
    exact processed.keeps
  · rcases fresh with connected | later | ⟨waiting, same, pending⟩
    · exact Or.inl connected
    · exact Or.inr (Or.inl later)
    · rcases kept with later | ⟨connected | still, unmoved⟩
      · exact Or.inr (Or.inl (same ▸ later))
      · exact absurd connected waiting
      · exact Or.inr (Or.inr ⟨still ▸ waiting, same.trans unmoved, unmoved ▸ pending⟩)

end EspIdfEspNowEncryptedRadio

/- Runs -/

namespace ReconnectRun

/-- The log is on the timetable, and the arbitration keeps the phase it ends in. -/
structure Timely (s : ReconnectRun) (dueAt : Nat) : Prop where
  keeps : Keeps s.run.radio.wifi s.run.instant dueAt s.phase
  onTime : Throughout OnTimetable s.log

theorem log_resting (s : ReconnectRun) (env : RadioEnvironment)
    (rests : s.run.radio.Resting s.run.nowMs) : (s.call (.loop env)).log = s.log := by
  change stamped s.run.instant (s.run.radio.reconnectEvents env s.run.nowMs) ++ s.log = s.log
  rw [reconnectEvents, if_pos rests]
  rfl

/-- Everything that a call can do to the log and to the arbitration. -/
theorem call_cases (s : ReconnectRun) (made : RadioCall) :
    (∃ env, made = .loop env ∧ ¬ s.run.radio.Resting s.run.nowMs) ∨
      (s.call made).run.radio.wifi = s.run.radio.wifi ∧ (s.call made).log = s.log := by
  rcases s.run.call_cases made with ⟨env, rfl⟩ | ⟨same, _⟩
  · by_cases rests : s.run.radio.Resting s.run.nowMs
    · right
      constructor
      · change (s.run.radio.loop env s.run.nowMs).wifi = _
        rw [loop_eq, if_pos rests]
      · exact log_resting s env rests
    · exact Or.inl ⟨env, rfl, rests⟩
  · cases made with
    | loop env =>
      by_cases rests : s.run.radio.Resting s.run.nowMs
      · exact Or.inr ⟨congrArg View.wifi same, log_resting s env rests⟩
      · exact Or.inl ⟨env, rfl, rests⟩
    | setRecoveryPermitted | requestRadioRecovery | requestPeerRefresh | sendFrame |
        takeReceivedFrame | takeSendCompletion | sendCallback | receiveCallback =>
      exact Or.inr ⟨congrArg View.wifi same, rfl⟩

variable {s : ReconnectRun} {dueAt : Nat}

theorem Timely.wait (timely : s.Timely dueAt) (elapsedMs : Nat) : (s.wait elapsedMs).Timely dueAt :=
  ⟨timely.keeps.wait (Nat.le_add_right _ _), timely.onTime⟩

theorem instant_call (s : ReconnectRun) (made : RadioCall) :
    (s.call made).run.instant = s.run.instant :=
  s.run.instant_call made

theorem Timely.poll (timely : s.Timely dueAt) {env : RadioEnvironment}
    (arbitrates : env.Arbitrates) (polls : ¬ s.run.radio.Resting s.run.nowMs) :
    ∃ dueAt', (s.call (.loop env)).Timely dueAt' ∧
      Fresh s.run.instant dueAt s.phase (s.call (.loop env)).phase dueAt' := by
  obtain ⟨q, dueAt', turned, fresh⟩ := turned_loop arbitrates timely.keeps polls
  obtain ⟨phase, onTime⟩ := turned.passes.logged rfl timely.onTime
  have same : (s.call (.loop env)).phase = q := phase
  refine ⟨dueAt', ⟨?_, onTime⟩, ?_⟩
  · rw [same]
    exact turned.keeps
  · rw [same]
    exact fresh

theorem Timely.other (timely : s.Timely dueAt) {made : RadioCall}
    (wifi : (s.call made).run.radio.wifi = s.run.radio.wifi) (log : (s.call made).log = s.log) :
    (s.call made).Timely dueAt := by
  refine ⟨?_, log ▸ timely.onTime⟩
  rw [wifi, instant_call, phase, log]
  exact timely.keeps

def fresh (peers : PeerRegistry) (expectedChannel : UInt8) (configured : Bool) (instant : Nat) :
    ReconnectRun :=
  { run := .fresh peers expectedChannel configured instant }

theorem timely_fresh (peers : PeerRegistry) (expectedChannel : UInt8) (configured : Bool)
    (instant : Nat) : (fresh peers expectedChannel configured instant).Timely 0 := by
  refine ⟨keeps_connected ?_ rfl rfl, throughout_nil⟩
  intro known
  cases known

/-- Iterations come at most so far apart; `quietMs` have passed since the last. -/
def Served (gapMs : Nat) : Nat → List (Nat × RadioCall) → Prop
  | _, [] => True
  | quietMs, (waitMs, made) :: later =>
    quietMs + waitMs ≤ gapMs ∧
      Served gapMs (match made with | .loop _ => 0 | _ => quietMs + waitMs) later

end ReconnectRun

namespace EspIdfEspNowEncryptedRadio

/-- What decides whether an iteration polls. -/
def pacing (r : EspIdfEspNowEncryptedRadio) : Bool × PeerRegistry × UInt32 :=
  (r.configured, r.peers, r.lastChannelPollMs)

variable (r : EspIdfEspNowEncryptedRadio) (env : RadioEnvironment) (nowMs : UInt32)

theorem pacing_scheduleRadioRecovery : (r.scheduleRadioRecovery env nowMs).pacing = r.pacing := by
  obtain ⟨pending, dueMs, same⟩ := scheduleRadioRecovery_eq r env nowMs
  rw [same]
  rfl

theorem pacing_arbitrate :
    (r.arbitrate env nowMs).pacing = (r.configured, r.peers, nowMs) := by
  obtain ⟨_, _, _, _, same⟩ := arbitrate_eq r env nowMs
  rw [same]
  rfl

theorem pacing_processRadioRecovery :
    (r.processRadioRecovery env nowMs).2.pacing = r.pacing := by
  unfold processRadioRecovery
  split
  · rfl
  · split <;> rfl

theorem pacing_initializeRadio : (r.initializeRadio env).pacing = r.pacing := by
  rcases initializeRadio_eq r env with same | ⟨_, _, _, _, same, _⟩
  · rw [same]
  · rw [same]
    rfl

theorem pacing_processPeerRefresh : (r.processPeerRefresh env nowMs).pacing = r.pacing := by
  obtain ⟨lastMs, attempted, pending, driverPeers, same⟩ := processPeerRefresh_eq r env nowMs
  rw [same]
  rfl

theorem pacing_listen : (r.listen env nowMs).pacing = r.pacing := by
  unfold listen
  split
  · rfl
  · rename_i primary _
    simp only
    split
    · split
      · exact pacing_scheduleRadioRecovery _ env nowMs
      · rfl
    split
    · rfl
    split
    · rfl
    have restarted := pacing_processRadioRecovery
      { r with currentChannel := primary, channelMatches := primary = r.expectedChannel } env nowMs
    split
    · rename_i next run
      rw [run] at restarted
      exact restarted
    · rename_i next run
      rw [run] at restarted
      refine Eq.trans ?_ restarted
      split
      · exact pacing_processPeerRefresh next env nowMs
      split
      · rfl
      · exact pacing_initializeRadio _ env

theorem pacing_loop (polls : ¬ r.Resting nowMs) :
    (r.loop env nowMs).pacing = (r.configured, r.peers, nowMs) := by
  rw [loop_eq, if_neg polls, pacing_listen, pacing_arbitrate]

end EspIdfEspNowEncryptedRadio

namespace ReconnectRun
variable {s : ReconnectRun} {dueAt gapMs quietMs polledAt : Nat}

theorem pacing_traffic (s : RadioRun) {made : RadioCall} (traffic : RadioRun.Traffic made) :
    (s.call made).radio.pacing = s.radio.pacing := by
  obtain ⟨_, _, _, _, same⟩ := s.traffic_call traffic
  rw [same]
  rfl

theorem pacing_call (s : RadioRun) {made : RadioCall} (other : ∀ env, made ≠ .loop env) :
    (s.call made).radio.pacing = s.radio.pacing := by
  cases made with
  | loop env => exact absurd rfl (other env)
  | setRecoveryPermitted => rfl
  | requestRadioRecovery env =>
    simp only [RadioRun.call, requestRadioRecovery]
    split
    · rfl
    · exact pacing_scheduleRadioRecovery _ env _
  | requestPeerRefresh index =>
    simp only [RadioRun.call, requestPeerRefresh]
    split <;> rfl
  | sendFrame | takeReceivedFrame | takeSendCompletion | sendCallback | receiveCallback =>
    exact pacing_traffic s trivial

/-- The last poll is recent and has left the deadline pending. -/
structure Pending (s : ReconnectRun) (quietMs polledAt dueAt : Nat) : Prop where
  polls : ¬ (¬ s.run.radio.configured ∨ s.run.radio.peers.size = 0)
  stamped : s.run.radio.lastChannelPollMs = UInt32.ofNat polledAt
  past : polledAt + quietMs ≤ s.run.instant
  recent : s.run.instant < polledAt + channelPollIntervalMs.toNat + quietMs
  pending : polledAt < dueAt

/-- The association holds, or the phase is still to end. -/
def Prompt (s : ReconnectRun) (quietMs dueAt : Nat) : Prop :=
  s.Timely dueAt ∧ (s.phase = .connected ∨ ∃ polledAt, s.Pending quietMs polledAt dueAt)

theorem Pending.wait (pending : s.Pending quietMs polledAt dueAt) (waitMs : Nat) :
    (s.wait waitMs).Pending (quietMs + waitMs) polledAt dueAt := by
  obtain ⟨polls, stamped, past, recent, before⟩ := pending
  refine ⟨polls, stamped, ?_, ?_, before⟩
  · change polledAt + (quietMs + waitMs) ≤ s.run.instant + waitMs
    omega
  · change s.run.instant + waitMs < polledAt + channelPollIntervalMs.toNat + (quietMs + waitMs)
    omega

theorem Prompt.wait (prompt : s.Prompt quietMs dueAt) (waitMs : Nat) :
    (s.wait waitMs).Prompt (quietMs + waitMs) dueAt := by
  obtain ⟨timely, connected | ⟨polledAt, pending⟩⟩ := prompt
  · exact ⟨timely.wait waitMs, Or.inl connected⟩
  · exact ⟨timely.wait waitMs, Or.inr ⟨polledAt, pending.wait waitMs⟩⟩

theorem Prompt.poll (prompt : s.Prompt quietMs dueAt) (inTime : quietMs ≤ gapMs)
    (near : gapMs + channelPollIntervalMs.toNat ≤ 2 ^ 31) {env : RadioEnvironment}
    (arbitrates : env.Arbitrates) (polls : ¬ s.run.radio.Resting s.run.nowMs) :
    ∃ dueAt', (s.call (.loop env)).Prompt 0 dueAt' := by
  obtain ⟨timely, standing⟩ := prompt
  obtain ⟨dueAt', next, fresh⟩ := timely.poll arbitrates polls
  refine ⟨dueAt', next, ?_⟩
  have pacing := pacing_loop s.run.radio env s.run.nowMs polls
  have later (before : s.run.instant < dueAt') :
      (s.call (.loop env)).Pending 0 s.run.instant dueAt' := by
    refine ⟨?_, congrArg (fun pacing => pacing.2.2) pacing, le_refl _, ?_, before⟩
    · have configured : (s.run.radio.loop env s.run.nowMs).configured = s.run.radio.configured :=
        congrArg Prod.fst pacing
      have peers : (s.run.radio.loop env s.run.nowMs).peers = s.run.radio.peers :=
        congrArg (fun pacing => pacing.2.1) pacing
      change ¬ (¬ (s.run.radio.loop env s.run.nowMs).configured ∨
        (s.run.radio.loop env s.run.nowMs).peers.size = 0)
      rw [configured, peers]
      exact fun idle => polls (or_assoc.mp (Or.inl idle))
    · exact Nat.lt_add_of_pos_right (by decide)
  rcases fresh with connected | before | ⟨waiting, rfl, before⟩
  · exact Or.inl connected
  · exact Or.inr ⟨_, later before⟩
  · rcases standing with connected | ⟨polledAt, pending⟩
    · exact absurd connected waiting
    · obtain ⟨spell, spells⟩ := spell_of_waiting waiting
      have ahead := timely.keeps.near spells
      have recent := pending.recent
      have after := pending.pending
      exact Or.inr ⟨_, later ((deadlinePending_real ahead (by omega)).mp before)⟩

theorem Prompt.other (prompt : s.Prompt quietMs dueAt) {made : RadioCall}
    (other : ∀ env, made ≠ .loop env) : (s.call made).Prompt quietMs dueAt := by
  rcases s.call_cases made with ⟨env, rfl, _⟩ | ⟨wifi, log⟩
  · exact absurd rfl (other env)
  obtain ⟨timely, standing⟩ := prompt
  refine ⟨timely.other wifi log, ?_⟩
  have phase : (s.call made).phase = s.phase := congrArg ReconnectPhase.after log
  rw [phase]
  apply standing.imp id
  rintro ⟨polledAt, pending⟩
  have pacing := pacing_call s.run other
  obtain ⟨polls, stamped, past, recent, before⟩ := pending
  simp only [EspIdfEspNowEncryptedRadio.pacing, Prod.mk.injEq] at pacing
  refine ⟨polledAt, ?_, pacing.2.2.trans stamped, ?_, ?_, before⟩
  · change ¬ (¬ (s.run.call made).radio.configured ∨ (s.run.call made).radio.peers.size = 0)
    rw [pacing.1, pacing.2.1]
    exact polls
  · rw [instant_call]
    exact past
  · rw [instant_call]
    exact recent

theorem Prompt.rest (prompt : s.Prompt quietMs dueAt) (inTime : quietMs ≤ gapMs)
    (near : gapMs + channelPollIntervalMs.toNat ≤ 2 ^ 31) {env : RadioEnvironment}
    (rests : s.run.radio.Resting s.run.nowMs) : (s.call (.loop env)).Prompt 0 dueAt := by
  have loop : s.run.radio.loop env s.run.nowMs = s.run.radio := by
    rw [loop_eq, if_pos rests]
  have radio : (s.call (.loop env)).run.radio = s.run.radio := loop
  have log := s.log_resting env rests
  obtain ⟨timely, standing⟩ := prompt
  refine ⟨timely.other (congrArg EspIdfEspNowEncryptedRadio.wifi radio) log, ?_⟩
  have phase : (s.call (.loop env)).phase = s.phase := congrArg ReconnectPhase.after log
  rw [phase]
  apply standing.imp id
  rintro ⟨polledAt, polls, stamped, past, recent, before⟩
  have soon : s.run.nowMs - s.run.radio.lastChannelPollMs < channelPollIntervalMs :=
    (or_assoc.mpr rests).resolve_left polls
  rw [stamped] at soon
  have elapsed : (s.run.nowMs - UInt32.ofNat polledAt).toNat = s.run.instant - polledAt := by
    unfold RadioRun.nowMs
    rw [UInt32.toNat_sub, UInt32.toNat_ofNat', UInt32.toNat_ofNat']
    omega
  have short := UInt32.lt_iff_toNat_lt.mp soon
  rw [elapsed] at short
  refine ⟨polledAt, ?_, ?_, ?_, ?_, before⟩
  · rw [radio]
    exact polls
  · rw [radio]
    exact stamped
  · rw [instant_call]
    omega
  · rw [instant_call]
    omega

theorem prompt_calls (s : ReconnectRun) (made : List (Nat × RadioCall))
    (managed : ∀ timed ∈ made, RadioRun.Managed timed.2) (served : Served gapMs quietMs made)
    (near : gapMs + channelPollIntervalMs.toNat ≤ 2 ^ 31) (inTime : quietMs ≤ gapMs)
    (prompt : s.Prompt quietMs dueAt) :
    ∃ quietMs' dueAt', quietMs' ≤ gapMs ∧ (s.calls made).Prompt quietMs' dueAt' := by
  induction made generalizing s quietMs dueAt with
  | nil => exact ⟨quietMs, dueAt, inTime, prompt⟩
  | cons timed rest ih =>
    obtain ⟨waitMs, made⟩ := timed
    obtain ⟨soon, later⟩ := served
    have own := managed ⟨waitMs, made⟩ List.mem_cons_self
    have others : ∀ timed ∈ rest, RadioRun.Managed timed.2 :=
      fun timed member => managed timed (List.mem_cons_of_mem _ member)
    have waited := prompt.wait waitMs
    change ∃ quietMs' dueAt', quietMs' ≤ gapMs ∧
      (((s.wait waitMs).call made).calls rest).Prompt quietMs' dueAt'
    cases made with
    | loop env =>
      by_cases rests : (s.wait waitMs).run.radio.Resting (s.wait waitMs).run.nowMs
      · exact ih _ others later (Nat.zero_le _) (waited.rest soon near rests)
      · obtain ⟨dueAt', next⟩ := waited.poll soon near (own env rfl) rests
        exact ih _ others later (Nat.zero_le _) next
    | setRecoveryPermitted | requestRadioRecovery | requestPeerRefresh | sendFrame |
        takeReceivedFrame | takeSendCompletion | sendCallback | receiveCallback =>
      exact ih _ others later soon (waited.other (by simp))

/-- While iterations come at most `gapMs` apart, no phase outlasts its greatest length by more than
    that and the interval of the polls: a request is made, and what is held is released, in time. -/
theorem reconnection_within_timetable (peers : PeerRegistry) (expectedChannel : UInt8)
    (configured : Bool) (instant gapMs : Nat) (made : List (Nat × RadioCall))
    (managed : ∀ timed ∈ made, RadioRun.Managed timed.2) (served : Served gapMs 0 made)
    (near : gapMs + channelPollIntervalMs.toNat ≤ 2 ^ 31) :
    let s := (fresh peers expectedChannel configured instant).calls made
    ∀ spell, s.phase.spell = some spell →
      s.run.instant < spell.since + spell.greatest + channelPollIntervalMs.toNat + gapMs := by
  intro s spell spells
  have start : (fresh peers expectedChannel configured instant).Prompt 0 0 :=
    ⟨timely_fresh peers expectedChannel configured instant, Or.inl rfl⟩
  obtain ⟨quietMs, dueAt, inTime, timely, connected | ⟨polledAt, pending⟩⟩ :=
    prompt_calls _ made managed served near (Nat.zero_le _) start
  · have same : s.phase = .connected := connected
    rw [same] at spells
    cases spells
  · have greatest := timely.keeps.greatest spell spells
    have recent : s.run.instant < polledAt + channelPollIntervalMs.toNat + quietMs := pending.recent
    have before := pending.pending
    omega

theorem reconnection_within_timetable_suppressed :
    let s := (fresh RadioRun.lonePeer 1 true 0).calls RadioRun.lossAndSuppression
    s.phase.spell = some ⟨30600, 30000, 60000⟩ ∧
      s.run.instant < 30600 + 60000 + channelPollIntervalMs.toNat + 30000 := by
  have spells : ((fresh RadioRun.lonePeer 1 true 0).calls
      RadioRun.lossAndSuppression).phase.spell = some ⟨30600, 30000, 60000⟩ := by
    decide +kernel
  refine ⟨spells, ?_⟩
  apply reconnection_within_timetable RadioRun.lonePeer 1 true 0 30000
    RadioRun.lossAndSuppression RadioRun.lossAndSuppression_managed _ (by decide) _ spells
  refine ⟨?_, ?_, ?_, trivial⟩ <;> decide

end ReconnectRun

end EspNowNet
