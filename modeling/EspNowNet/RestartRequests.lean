import EspNowNet.RadioClock
import EspNowNet.RadioHistory
import EspNowNet.Library.GuardedInvariant

/- Requests to restart the radio. Many things ask for a restart while the radio must not be
   interrupted; what was asked for is kept until a restart serves it, unless one is under way, and
   no restart comes unasked. -/
namespace EspNowNet
open EspIdfEspNowEncryptedRadio GuardedInvariant TimedLog

inductive RestartEvent where
  | permitted (permitted : Bool)
  | asked
  | restarted
  | broughtUp
  deriving DecidableEq

abbrev RestartRecord := TimedRecord RestartEvent

/-- Nothing is asked for, a restart was first asked for at an instant, or one is under way. -/
inductive RestartPhase where
  | idle
  | scheduled (since : Nat)
  | running
  deriving DecidableEq

namespace RestartPhase

def turn (p : RestartPhase) (record : RestartRecord) : RestartPhase :=
  match record.event, p with
  | .permitted _, p => p
  | .asked, .idle => .scheduled record.instant
  | .asked, p => p
  | .restarted, _ => .running
  | .broughtUp, .running => .idle
  | .broughtUp, p => p

/-- The phase that a log, newest first, ends in. -/
def after (log : List RestartRecord) : RestartPhase :=
  log.foldr (fun record p => p.turn record) .idle

@[simp] theorem after_nil : after [] = .idle := rfl

@[simp] theorem after_cons (record : RestartRecord) (log : List RestartRecord) :
    after (record :: log) = (after log).turn record :=
  rfl

end RestartPhase

/-- What a log says last about the permission; a radio is permitted to restart at first. -/
def lastPermission : List RestartRecord → Bool
  | [] => true
  | ⟨_, .permitted permitted⟩ :: _ => permitted
  | _ :: older => lastPermission older

/-- The instant of the last restart. -/
def lastRestart : List RestartRecord → Option Nat
  | [] => none
  | ⟨instant, .restarted⟩ :: _ => some instant
  | _ :: older => lastRestart older

/-- A restart serves requests of which the first was made long enough ago, while permitted. -/
def ServesRequest (older : List RestartRecord) (record : RestartRecord) : Prop :=
  record.event = .restarted → lastPermission older = true ∧ ∃ since,
    RestartPhase.after older = .scheduled since ∧
      since + radioRecoveryBaseDelayMs.toNat ≤ record.instant

namespace EspIdfEspNowEncryptedRadio

/-- A change of the association asks for a restart unless Wi-Fi keeps to a fixed channel. -/
def observeRestarts (r : EspIdfEspNowEncryptedRadio) (env : RadioEnvironment) :
    List RestartEvent :=
  if r.wifi.associationKnown ∧ env.associated ≠ r.wifi.associated ∧
      ¬ (env.fixedChannel ∧ env.wifiComponent ∧ env.fixedChannelOperation) then [.asked]
  else []

def listenRestarts (r : EspIdfEspNowEncryptedRadio) (env : RadioEnvironment) (nowMs : UInt32) :
    List RestartEvent :=
  match env.channel with
  | none => []
  | some primary =>
    let r := { r with currentChannel := primary, channelMatches := primary = r.expectedChannel }
    if primary ≠ r.expectedChannel then if r.initialized then [.asked] else []
    else if ¬ r.channelStable then []
    else if nowMs - r.channelStableSinceMs < channelStabilizationMs then []
    else if (r.processRadioRecovery env nowMs).1 then [.restarted]
    else if r.initialized then []
    else if r.lastInitializationAttemptMs ≠ 0 ∧
        nowMs - r.lastInitializationAttemptMs < initializationRetryMs then []
    else if ({ r with lastInitializationAttemptMs := nowMs }.initializeRadio env).initialized then
      [.broughtUp]
    else []

def loopRestarts (r : EspIdfEspNowEncryptedRadio) (env : RadioEnvironment) (nowMs : UInt32) :
    List RestartEvent :=
  if r.Resting nowMs then []
  else r.observeRestarts env ++ (r.arbitrate env nowMs).listenRestarts env nowMs

end EspIdfEspNowEncryptedRadio

/-- A run of the radio with the log of its restarts, newest first. -/
structure RestartRun where
  run : RadioRun
  log : List RestartRecord := []

namespace RestartRun

def events (s : RestartRun) : RadioCall → List RestartEvent
  | .loop env => s.run.radio.loopRestarts env s.run.nowMs
  | .setRecoveryPermitted permitted => [.permitted permitted]
  | .requestRadioRecovery _ =>
    if ¬ s.run.radio.configured ∨ s.run.radio.peers.size = 0 then [] else [.asked]
  | .requestPeerRefresh _ | .sendFrame _ _ _ | .takeReceivedFrame | .takeSendCompletion
  | .sendCallback _ _ | .receiveCallback _ _ => []

def call (s : RestartRun) (made : RadioCall) : RestartRun where
  run := s.run.call made
  log := stamped s.run.instant (s.events made) ++ s.log

def wait (s : RestartRun) (elapsedMs : Nat) : RestartRun :=
  { s with run := s.run.wait elapsedMs }

def calls (s : RestartRun) (made : List (Nat × RadioCall)) : RestartRun :=
  made.foldl (fun s timed => (s.wait timed.1).call timed.2) s

def fresh (peers : PeerRegistry) (expectedChannel : UInt8) (configured : Bool) (instant : Nat) :
    RestartRun :=
  { run := .fresh peers expectedChannel configured instant }

def phase (s : RestartRun) : RestartPhase := .after s.log

end RestartRun

/- What the radio holds in each phase -/

/-- The flags stand for the phase; the deadline of a scheduled restart stamps an instant. -/
def RestartPhase.Stands (recovery : RadioRecovery) (instant : Nat) : RestartPhase → Prop
  | .idle => recovery.pending = false ∧ recovery.inProgress = false
  | .scheduled since => recovery.pending = true ∧ recovery.inProgress = false ∧
      since ≤ instant ∧ ∃ dueAt, recovery.dueMs = UInt32.ofNat dueAt ∧
        since + radioRecoveryBaseDelayMs.toNat ≤ dueAt ∧
        dueAt ≤ since + radioRecoveryBaseDelayMs.toNat + radioRecoveryJitterMs.toNat
  | .running => recovery.pending = false ∧ recovery.inProgress = true

/-- The stamp is of the last restart; zero stands for none. -/
def Dates (lastMs : UInt32) (instant : Nat) : Option Nat → Prop
  | none => lastMs = 0
  | some last => last ≤ instant ∧ lastMs = UInt32.ofNat last

structure Requested (recovery : RadioRecovery) (instant : Nat) (log : List RestartRecord) :
    Prop where
  stands : (RestartPhase.after log).Stands recovery instant
  permitted : recovery.permitted = lastPermission log
  dates : Dates recovery.lastMs instant (lastRestart log)
  each : Throughout ServesRequest log

section Requested
variable {recovery next : RadioRecovery} {instant later : Nat} {log : List RestartRecord}
  {r : EspIdfEspNowEncryptedRadio} {env : RadioEnvironment}

theorem Dates.wait {lastMs : UInt32} {last : Option Nat} (dates : Dates lastMs instant last)
    (after : instant ≤ later) : Dates lastMs later last := by
  cases last with
  | none => exact dates
  | some last => exact ⟨dates.1.trans after, dates.2⟩

theorem lastRestart_cons {record : RestartRecord} (other : record.event ≠ .restarted) :
    lastRestart (record :: log) = lastRestart log := by
  obtain ⟨instant, event⟩ := record
  cases event with
  | restarted => exact absurd rfl other
  | permitted | asked | broughtUp => rfl

theorem Requested.wait (requested : Requested recovery instant log) (after : instant ≤ later) :
    Requested recovery later log := by
  obtain ⟨stands, permitted, dates, each⟩ := requested
  refine ⟨?_, permitted, dates.wait after, each⟩
  cases phase : RestartPhase.after log with
  | idle =>
    rw [phase] at stands
    exact stands
  | running =>
    rw [phase] at stands
    exact stands
  | scheduled since =>
    rw [phase] at stands
    exact ⟨stands.1, stands.2.1, stands.2.2.1.trans after, stands.2.2.2⟩

/-- What is no restart is permitted at any time. -/
theorem Requested.noted (requested : Requested recovery instant log) {event : RestartEvent}
    (other : event ≠ .restarted)
    (stands : ((RestartPhase.after log).turn ⟨instant, event⟩).Stands next instant)
    (permitted : next.permitted = lastPermission (⟨instant, event⟩ :: log))
    (same : next.lastMs = recovery.lastMs) : Requested next instant (⟨instant, event⟩ :: log) := by
  refine ⟨stands, permitted, ?_, ?_⟩
  · have kept : lastRestart (⟨instant, event⟩ :: log) = lastRestart log := lastRestart_cons other
    rw [kept, same]
    exact requested.dates
  · exact throughout_cons.mpr ⟨fun restarts => absurd restarts other, requested.each⟩

theorem Requested.permit (requested : Requested recovery instant log) (permitted : Bool) :
    Requested { recovery with permitted } instant (⟨instant, .permitted permitted⟩ :: log) :=
  requested.noted RestartEvent.noConfusion requested.stands rfl rfl

/-- The first request sets the deadline; the others wait for the same restart. -/
theorem Requested.asked (requested : Requested r.recovery instant log) :
    Requested (r.scheduleRadioRecovery env (UInt32.ofNat instant)).recovery instant
      (⟨instant, .asked⟩ :: log) := by
  have stands := requested.stands
  have permitted := requested.permitted
  have unchanged : (r.scheduleRadioRecovery env (UInt32.ofNat instant)).recovery.permitted =
        r.recovery.permitted ∧
      (r.scheduleRadioRecovery env (UInt32.ofNat instant)).recovery.lastMs = r.recovery.lastMs := by
    obtain ⟨pending, dueMs, same⟩ := scheduleRadioRecovery_eq r env (UInt32.ofNat instant)
    rw [same]
    exact ⟨rfl, rfl⟩
  refine requested.noted RestartEvent.noConfusion ?_ (unchanged.1.trans permitted) unchanged.2
  · cases phase : RestartPhase.after log with
    | idle =>
      rw [phase] at stands
      have free : ¬ (r.recovery.pending = true ∨ r.recovery.inProgress = true) := by
        simp [stands.1, stands.2]
      have jitter := jitterMs_le env radioRecoveryJitterMs 0 (by decide)
      unfold scheduleRadioRecovery
      rw [if_neg free]
      refine ⟨rfl, stands.2, le_refl _, _, stamp_add instant _ _, ?_, ?_⟩
      · dsimp only
        omega
      · dsimp only
        omega
    | scheduled since =>
      rw [phase] at stands
      unfold scheduleRadioRecovery
      rw [if_pos (Or.inl stands.1)]
      exact stands
    | running =>
      rw [phase] at stands
      unfold scheduleRadioRecovery
      rw [if_pos (Or.inr stands.2)]
      exact stands

theorem Requested.observe (requested : Requested r.recovery instant log) :
    Requested (r.observeWifiAssociation env (UInt32.ofNat instant)).recovery instant
      (stamped instant (r.observeRestarts env) ++ log) := by
  have graced (r : EspIdfEspNowEncryptedRadio) :
      (r.scheduleWifiArbitrationGrace env (UInt32.ofNat instant)).recovery = r.recovery := by
    obtain ⟨wifi, same⟩ := scheduleWifiArbitrationGrace_eq r env (UInt32.ofNat instant)
    rw [same]
  by_cases asks : r.wifi.associationKnown ∧ env.associated ≠ r.wifi.associated ∧
      ¬ (env.fixedChannel ∧ env.wifiComponent ∧ env.fixedChannelOperation)
  swap
  · have silent : r.observeRestarts env = [] := if_neg asks
    rw [silent]
    unfold observeWifiAssociation
    by_cases known : r.wifi.associationKnown = true
    · rw [if_neg (not_not.mpr known)]
      by_cases same : env.associated = r.wifi.associated
      · rw [if_pos same]
        exact requested
      · have fixed : env.fixedChannel ∧ env.wifiComponent ∧ env.fixedChannelOperation :=
          Decidable.not_not.mp fun free => asks ⟨known, same, free⟩
        rw [if_neg same]
        dsimp only
        rw [if_pos fixed]
        split
        · exact requested
        · rw [graced]
          exact requested
    · rw [if_pos known]
      dsimp only
      split
      · rw [graced]
        exact requested
      · exact requested
  · obtain ⟨known, differs, free⟩ := asks
    have asked : r.observeRestarts env = [.asked] := if_pos ⟨known, differs, free⟩
    rw [asked]
    unfold observeWifiAssociation
    rw [if_neg (not_not.mpr known), if_neg differs]
    dsimp only
    rw [if_neg free]
    split
    · exact Requested.asked requested
    · apply Requested.asked
      rw [graced]
      exact requested

theorem recovery_processWifiArbitration (nowMs : UInt32) :
    (r.processWifiArbitration env nowMs).recovery = r.recovery := by
  obtain ⟨wifi, channelStable, same⟩ := processWifiArbitration_eq r env nowMs
  rw [same]

theorem recovery_initializeRadio (off : r.initialized = false) :
    ((r.initializeRadio env).initialized = true ∧
        (r.initializeRadio env).recovery = { r.recovery with inProgress := false }) ∨
      (r.initializeRadio env).initialized = false ∧
        (r.initializeRadio env).recovery = r.recovery := by
  unfold initializeRadio
  split
  · exact Or.inr ⟨off, rfl⟩
  dsimp only
  split
  · exact Or.inr ⟨rfl, rfl⟩
  obtain ⟨driverPeers, added⟩ := addConfiguredPeers_eq { r with attached := true } env
    ((List.range r.peers.size).map UInt8.ofNat)
  split
  · rename_i next run
    obtain rfl := (congrArg Prod.snd run).symm.trans added
    exact Or.inr ⟨rfl, rfl⟩
  · rename_i next run
    obtain rfl := (congrArg Prod.snd run).symm.trans added
    exact Or.inl ⟨rfl, rfl⟩

/-- A restart needs a request whose deadline has passed, and the permission. -/
theorem Requested.restarted (requested : Requested r.recovery instant log)
    (ran : (r.processRadioRecovery env (UInt32.ofNat instant)).1 = true) :
    Requested (r.processRadioRecovery env (UInt32.ofNat instant)).2.recovery instant
      (⟨instant, .restarted⟩ :: log) := by
  obtain ⟨stands, permitted, dates, each⟩ := requested
  unfold processRadioRecovery at ran ⊢
  split at ran
  · cases ran
  rename_i due
  split at ran
  · cases ran
  rename_i cooled
  rw [if_neg due, if_neg cooled]
  simp only [not_or, Bool.not_eq_true, Bool.not_eq_false] at due
  obtain ⟨pending, allowed, elapsed⟩ := due
  have serves : ServesRequest log ⟨instant, .restarted⟩ := by
    intro _
    refine ⟨permitted.symm.trans allowed, ?_⟩
    cases phase : RestartPhase.after log with
    | idle =>
      rw [phase] at stands
      rw [stands.1] at pending
      cases pending
    | running =>
      rw [phase] at stands
      rw [stands.1] at pending
      cases pending
    | scheduled since =>
      rw [phase] at stands
      obtain ⟨_, _, past, dueAt, stamped, least, greatest⟩ := stands
      rw [stamped] at elapsed
      have base : radioRecoveryBaseDelayMs.toNat = 3000 := rfl
      have jitter : radioRecoveryJitterMs.toNat = 7000 := rfl
      have passed : dueAt ≤ instant := due_of_over (by omega) elapsed
      exact ⟨since, rfl, least.trans passed⟩
  exact ⟨⟨rfl, rfl⟩, permitted, ⟨le_refl _, rfl⟩, throughout_cons.mpr ⟨serves, each⟩⟩

theorem Requested.broughtUp (requested : Requested recovery instant log) :
    Requested { recovery with inProgress := false } instant
      (⟨instant, .broughtUp⟩ :: log) := by
  have stands := requested.stands
  refine requested.noted RestartEvent.noConfusion ?_ requested.permitted rfl
  cases phase : RestartPhase.after log with
  | idle =>
    rw [phase] at stands
    exact ⟨stands.1, rfl⟩
  | running =>
    rw [phase] at stands
    exact ⟨stands.1, rfl⟩
  | scheduled since =>
    rw [phase] at stands
    exact ⟨stands.1, rfl, stands.2.2⟩

theorem Requested.elsewhere {primary : UInt8} (requested : Requested r.recovery instant log)
    (read : env.channel = some primary) (other : primary ≠ r.expectedChannel) :
    Requested (r.listen env (UInt32.ofNat instant)).recovery instant
      (stamped instant (r.listenRestarts env (UInt32.ofNat instant)) ++ log) := by
  rw [listen_elsewhere read other, listenRestarts, read]
  dsimp only
  rw [if_pos other]
  cases up : r.initialized with
  | true => exact Requested.asked requested
  | false => exact requested

theorem Requested.initialize (requested : Requested r.recovery instant log)
    (down : r.initialized = false) :
    Requested (r.initializeRadio env).recovery instant
      (stamped instant (if (r.initializeRadio env).initialized then [.broughtUp] else []) ++
        log) := by
  rcases recovery_initializeRadio down with ⟨succeeded, recovery⟩ | ⟨failed, recovery⟩
  · rw [if_pos succeeded, recovery]
    exact requested.broughtUp
  · rw [if_neg (Bool.eq_false_iff.mp failed), recovery]
    exact requested

theorem listenRestarts_on (on : r.OnChannel env (UInt32.ofNat instant)) :
    r.listenRestarts env (UInt32.ofNat instant) =
      if (r.processRadioRecovery env (UInt32.ofNat instant)).1 then [.restarted]
      else if r.initialized then []
      else if r.AwaitsRetry (UInt32.ofNat instant) then []
      else if ({ r.heard with lastInitializationAttemptMs := UInt32.ofNat instant
          }.initializeRadio env).initialized then [.broughtUp]
      else [] := by
  have matching : decide (r.expectedChannel = r.expectedChannel) = true := decide_eq_true rfl
  rw [EspIdfEspNowEncryptedRadio.listenRestarts, on.own]
  dsimp only
  rw [if_neg (not_not.mpr rfl), if_neg (not_not.mpr on.stable), if_neg (UInt32.not_lt.mpr on.long),
    matching]
  exact congrArg (if · = true then _ else _) (processRadioRecovery_heard r env _)

theorem Requested.listen (requested : Requested r.recovery instant log) :
    Requested (r.listen env (UInt32.ofNat instant)).recovery instant
      (stamped instant (r.listenRestarts env (UInt32.ofNat instant)) ++ log) := by
  have start : Requested r.heard.recovery instant log := requested
  have silent (none : r.listenRestarts env (UInt32.ofNat instant) = [])
      (same : (r.listen env (UInt32.ofNat instant)).recovery = r.recovery) :
      Requested (r.listen env (UInt32.ofNat instant)).recovery instant
        (stamped instant (r.listenRestarts env (UInt32.ofNat instant)) ++ log) := by
    rw [none, same]
    exact requested
  cases r.listening_cases env (UInt32.ofNat instant) with
  | unread read =>
    apply silent
    · simp [listenRestarts, read]
    · rw [listen_unread read]
  | elsewhere read other => exact requested.elsewhere read other
  | begun own unstable =>
    apply silent
    · simp [listenRestarts, own, unstable]
    · rw [listen_begun own unstable]
      rfl
  | settling own stable short =>
    apply silent
    · simp [listenRestarts, own, stable, short]
    · rw [listen_settling own stable short]
      rfl
  | restarted on ran =>
    rw [listenRestarts_on on, if_pos ran, on.restarted ran]
    exact start.restarted ((processRadioRecovery_heard r env _).trans ran)
  | refreshed on idle up =>
    apply silent
    · rw [listenRestarts_on on, idle, if_neg Bool.false_ne_true, if_pos up]
    · obtain ⟨_, _, _, _, refreshed⟩ := processPeerRefresh_eq r.heard env (UInt32.ofNat instant)
      rw [on.unrestarted idle, if_pos up, refreshed]
      rfl
  | waiting on idle down waits =>
    have off : ¬ r.initialized = true := Bool.eq_false_iff.mp down
    apply silent
    · rw [listenRestarts_on on, idle, if_neg Bool.false_ne_true, if_neg off, if_pos waits]
    · rw [on.unrestarted idle, if_neg off, if_pos waits]
      rfl
  | initializing on idle down due =>
    have off : ¬ r.initialized = true := Bool.eq_false_iff.mp down
    rw [listenRestarts_on on, idle, if_neg Bool.false_ne_true, if_neg off, if_neg due,
      on.unrestarted idle, if_neg off, if_neg due]
    have attempting : Requested
        { r.heard with lastInitializationAttemptMs := UInt32.ofNat instant }.recovery instant log :=
      requested
    exact attempting.initialize down

theorem Requested.arbitrate (requested : Requested r.recovery instant log) :
    Requested (r.arbitrate env (UInt32.ofNat instant)).recovery instant
      (stamped instant (r.observeRestarts env) ++ log) := by
  let polling : EspIdfEspNowEncryptedRadio := { r with lastChannelPollMs := UInt32.ofNat instant }
  have start : Requested polling.recovery instant log := requested
  unfold EspIdfEspNowEncryptedRadio.arbitrate
  rw [recovery_processWifiArbitration]
  exact start.observe

theorem Requested.loop (requested : Requested r.recovery instant log) :
    Requested (r.loop env (UInt32.ofNat instant)).recovery instant
      (stamped instant (r.loopRestarts env (UInt32.ofNat instant)) ++ log) := by
  rw [loop_eq, loopRestarts]
  split
  · exact requested
  · rw [stamped_append, List.append_assoc]
    exact requested.arbitrate.listen

/-- The last restart is a cooldown ago, and not a whole turn of the clock. -/
def Cooled (log : List RestartRecord) (instant : Nat) : Prop :=
  ∀ last ∈ lastRestart log,
    last + radioRecoveryCooldownMs.toNat ≤ instant ∧ instant < last + 2 ^ 32

theorem Requested.cooled (requested : Requested recovery instant log)
    (cooled : Cooled log instant) :
    recovery.lastMs = 0 ∨ radioRecoveryCooldownMs ≤ UInt32.ofNat instant - recovery.lastMs := by
  have dates := requested.dates
  cases restarted : lastRestart log with
  | none =>
    rw [restarted] at dates
    exact Or.inl dates
  | some last =>
    rw [restarted] at dates
    obtain ⟨long, near⟩ := cooled last restarted
    right
    rw [dates.2, UInt32.le_iff_toNat_le, UInt32.toNat_sub, UInt32.toNat_ofNat', UInt32.toNat_ofNat']
    omega

end Requested

/- Runs -/

namespace RestartRun
variable {s : RestartRun}

def Served (s : RestartRun) : Prop := Requested s.run.radio.recovery s.run.instant s.log

theorem recovery_refresh (s : RadioRun) (index : PeerIndex) :
    (s.call (.requestPeerRefresh index)).radio.recovery = s.radio.recovery := by
  simp only [RadioRun.call, requestPeerRefresh]
  split <;> rfl

theorem recovery_traffic (s : RadioRun) {made : RadioCall} (traffic : RadioRun.Traffic made) :
    (s.call made).radio.recovery = s.radio.recovery := by
  obtain ⟨_, _, _, _, same⟩ := s.traffic_call traffic
  rw [same]

theorem Served.aside (served : s.Served) {made : RadioCall}
    (same : (s.run.call made).radio.recovery = s.run.radio.recovery)
    (silent : s.events made = []) : (s.call made).Served := by
  have requested : Requested s.run.radio.recovery s.run.instant s.log := served
  unfold RestartRun.call Served
  rw [silent]
  dsimp only
  rw [same, s.run.instant_call]
  exact requested

theorem Served.call (served : s.Served) (made : RadioCall) : (s.call made).Served := by
  have requested : Requested s.run.radio.recovery s.run.instant s.log := served
  cases made with
  | loop env => exact requested.loop
  | setRecoveryPermitted permitted => exact requested.permit permitted
  | requestRadioRecovery env =>
    unfold RestartRun.call Served events
    dsimp only [RadioRun.call]
    rw [EspIdfEspNowEncryptedRadio.requestRadioRecovery]
    split
    · exact requested
    · exact Requested.asked requested
  | requestPeerRefresh index => exact served.aside (recovery_refresh s.run index) rfl
  | sendFrame | takeReceivedFrame | takeSendCompletion | sendCallback | receiveCallback =>
    exact served.aside (recovery_traffic s.run trivial) rfl

theorem Served.calls (served : s.Served) (made : List (Nat × RadioCall)) :
    (s.calls made).Served := by
  induction made generalizing s with
  | nil => exact served
  | cons timed rest ih =>
    have waited : (s.wait timed.1).Served := Requested.wait served (Nat.le_add_right _ _)
    exact ih (waited.call timed.2)

/-- The poll finds its own channel, stable for long enough. -/
structure Settled (r : EspIdfEspNowEncryptedRadio) (env : RadioEnvironment) (nowMs : UInt32) :
    Prop where
  polls : ¬ r.Resting nowMs
  own : env.channel = some (r.arbitrate env nowMs).expectedChannel
  stable : (r.arbitrate env nowMs).channelStable = true
  long : channelStabilizationMs ≤ nowMs - (r.arbitrate env nowMs).channelStableSinceMs

theorem listenRestarts_due {r : EspIdfEspNowEncryptedRadio} {env : RadioEnvironment}
    {nowMs : UInt32} (own : env.channel = some r.expectedChannel) (stable : r.channelStable = true)
    (long : channelStabilizationMs ≤ nowMs - r.channelStableSinceMs)
    (pending : r.recovery.pending = true) (permitted : r.recovery.permitted = true)
    (elapsed : deadlinePending nowMs r.recovery.dueMs = false)
    (cooled : r.recovery.lastMs = 0 ∨ radioRecoveryCooldownMs ≤ nowMs - r.recovery.lastMs) :
    .restarted ∈ r.listenRestarts env nowMs := by
  have due : ¬ (¬ r.recovery.pending = true ∨ ¬ r.recovery.permitted = true ∨
      deadlinePending nowMs r.recovery.dueMs = true) := by
    simp [pending, permitted, elapsed]
  have cool : ¬ (r.recovery.lastMs ≠ 0 ∧ nowMs - r.recovery.lastMs < radioRecoveryCooldownMs) := by
    rintro ⟨known, early⟩
    exact absurd early (UInt32.not_lt.mpr (cooled.resolve_left known))
  unfold listenRestarts
  rw [own]
  dsimp only
  rw [if_neg (not_not.mpr rfl), if_neg (not_not.mpr stable), if_neg (UInt32.not_lt.mpr long)]
  unfold processRadioRecovery
  rw [if_neg due, if_neg cool, if_pos rfl]
  exact List.mem_singleton_self _

/-- What was asked for long enough ago is served by the first poll that may. -/
theorem Served.due (served : s.Served) {env : RadioEnvironment} {since : Nat}
    (scheduled : s.phase = .scheduled since) (permitted : lastPermission s.log = true)
    (settled : Settled s.run.radio env s.run.nowMs) (cool : Cooled s.log s.run.instant)
    (late : since + radioRecoveryBaseDelayMs.toNat + radioRecoveryJitterMs.toNat ≤ s.run.instant)
    (recent : s.run.instant < since + 2 ^ 31) :
    .restarted ∈ s.run.radio.loopRestarts env s.run.nowMs := by
  have requested : Requested s.run.radio.recovery s.run.instant s.log := served
  have stands := requested.stands
  have phase : RestartPhase.after s.log = .scheduled since := scheduled
  obtain ⟨polls, own, stable, long⟩ := settled
  have cooled := requested.cooled cool
  rw [loopRestarts, if_neg polls]
  apply List.mem_append_right
  -- whatever the association does, the first request keeps its deadline
  have polled : Requested (s.run.radio.arbitrate env s.run.nowMs).recovery s.run.instant
      (stamped s.run.instant (s.run.radio.observeRestarts env) ++ s.log) := requested.arbitrate
  have kept : RestartPhase.after (stamped s.run.instant (s.run.radio.observeRestarts env) ++ s.log) =
        .scheduled since ∧
      lastPermission (stamped s.run.instant (s.run.radio.observeRestarts env) ++ s.log) = true := by
    unfold observeRestarts
    split
    · exact ⟨by simp [stamped, phase, RestartPhase.turn], permitted⟩
    · exact ⟨phase, permitted⟩
  have lastMs : (s.run.radio.arbitrate env s.run.nowMs).recovery.lastMs =
      s.run.radio.recovery.lastMs := by
    obtain ⟨_, _, _, _, same⟩ := arbitrate_eq s.run.radio env s.run.nowMs
    rw [same]
  rw [← lastMs] at cooled
  have standing := polled.stands
  rw [kept.1] at standing
  obtain ⟨pending, _, past, dueAt, stamped, least, greatest⟩ := standing
  have allowed := polled.permitted.trans kept.2
  have elapsed : deadlinePending s.run.nowMs
      (s.run.radio.arbitrate env s.run.nowMs).recovery.dueMs = false := by
    have base : radioRecoveryBaseDelayMs.toNat = 3000 := rfl
    have jitter : radioRecoveryJitterMs.toNat = 7000 := rfl
    have real : deadlinePending (UInt32.ofNat s.run.instant) (UInt32.ofNat dueAt) = true ↔
        s.run.instant < dueAt := deadlinePending_real (by omega) (by omega)
    rw [stamped, Bool.eq_false_iff, Ne]
    intro early
    have before := real.mp early
    omega
  exact listenRestarts_due own stable long pending allowed elapsed cooled

end RestartRun

end EspNowNet
