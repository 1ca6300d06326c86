import EspNowNet.Library.TimedLog
import EspNowNet.RadioEffects

/- What the radio's loop asks of Wi-Fi and of the driver, poll after poll. The actions of a poll
   follow the branches of the loop; a history keeps them with the instants they happen at. -/
namespace EspNowNet
open TimedLog

inductive RadioAction where
  | polled (channel : Option UInt8)
  | suppressionRequested (accepted : Bool)
  | suppressionReleased
  | suppressionConfirmed
  | restarted
  | initializeRadio
  deriving DecidableEq

namespace EspIdfEspNowEncryptedRadio

/- The actions of one poll -/

/-- Only a held suppression is released, and only while there is a Wi-Fi component. -/
def releaseActions (r : EspIdfEspNowEncryptedRadio) (env : RadioEnvironment) : List RadioAction :=
  if r.wifi.suppressionHeld ∧ env.wifiComponent then [.suppressionReleased] else []

def observeActions (r : EspIdfEspNowEncryptedRadio) (env : RadioEnvironment) : List RadioAction :=
  if ¬ r.wifi.associationKnown then if ¬ env.associated then r.releaseActions env else []
  else if env.associated = r.wifi.associated then []
  else r.releaseActions env

def arbitrationActions (r : EspIdfEspNowEncryptedRadio) (env : RadioEnvironment)
    (nowMs : UInt32) : List RadioAction :=
  if env.fixedChannel then r.releaseActions env
  else if ¬ r.wifi.associationKnown ∨ r.wifi.associated ∨ ¬ env.wifiComponent then []
  else if r.wifi.state = .requesting ∧ env.suppressionActive then [.suppressionConfirmed]
  else if deadlinePending nowMs r.wifi.dueMs then []
  else
    match r.wifi.state with
    | .grace | .reconnectWindow => [.suppressionRequested env.suppressionAccepted]
    | .monitoring | .requesting | .suppressed => r.releaseActions env

/-- The poll before the channel is read. -/
def arbitrate (r : EspIdfEspNowEncryptedRadio) (env : RadioEnvironment) (nowMs : UInt32) :
    EspIdfEspNowEncryptedRadio :=
  ({ r with lastChannelPollMs := nowMs }.observeWifiAssociation env nowMs).processWifiArbitration
    env nowMs

def arbitrateActions (r : EspIdfEspNowEncryptedRadio) (env : RadioEnvironment)
    (nowMs : UInt32) : List RadioAction :=
  let r := { r with lastChannelPollMs := nowMs }
  r.observeActions env ++ (r.observeWifiAssociation env nowMs).arbitrationActions env nowMs

/-- The poll from the reading of the channel on. -/
def listen (r : EspIdfEspNowEncryptedRadio) (env : RadioEnvironment) (nowMs : UInt32) :
    EspIdfEspNowEncryptedRadio :=
  match env.channel with
  | none => { r with channelMatches := false, channelStable := false }
  | some primary =>
    let r := { r with currentChannel := primary, channelMatches := primary = r.expectedChannel }
    if primary ≠ r.expectedChannel then
      let r := { r with channelStable := false }
      if r.initialized then r.scheduleRadioRecovery env nowMs else r
    else if ¬ r.channelStable then { r with channelStable := true, channelStableSinceMs := nowMs }
    else if nowMs - r.channelStableSinceMs < channelStabilizationMs then r
    else
      match r.processRadioRecovery env nowMs with
      | (true, r) => r
      | (false, r) =>
        if r.initialized then r.processPeerRefresh env nowMs
        else if r.lastInitializationAttemptMs ≠ 0 ∧
            nowMs - r.lastInitializationAttemptMs < initializationRetryMs then r
        else { r with lastInitializationAttemptMs := nowMs }.initializeRadio env

theorem arbitrate_eq (r : EspIdfEspNowEncryptedRadio) (env : RadioEnvironment)
    (nowMs : UInt32) : ∃ wifi channelStable pending dueMs, r.arbitrate env nowMs =
      { r with
        lastChannelPollMs := nowMs, wifi, channelStable
        recovery := { r.recovery with pending, dueMs } } := by
  obtain ⟨_, pending, dueMs, observed⟩ :=
    observeWifiAssociation_eq { r with lastChannelPollMs := nowMs } env nowMs
  obtain ⟨wifi, channelStable, processed⟩ := processWifiArbitration_eq
    ({ r with lastChannelPollMs := nowMs }.observeWifiAssociation env nowMs) env nowMs
  refine ⟨wifi, channelStable, pending, dueMs, ?_⟩
  rw [arbitrate, processed, observed]

def listenActions (r : EspIdfEspNowEncryptedRadio) (env : RadioEnvironment) (nowMs : UInt32) :
    List RadioAction :=
  .polled env.channel ::
    match env.channel with
    | none => []
    | some primary =>
      if primary ≠ r.expectedChannel then []
      else if ¬ r.channelStable then []
      else if nowMs - r.channelStableSinceMs < channelStabilizationMs then []
      else if (r.processRadioRecovery env nowMs).1 then [.restarted]
      else if r.initialized then []
      else if r.lastInitializationAttemptMs ≠ 0 ∧
          nowMs - r.lastInitializationAttemptMs < initializationRetryMs then []
      else [.initializeRadio]

/- Where the reading of the channel leads -/

/-- The channel is the expected one and has been stable for long enough. -/
structure OnChannel (r : EspIdfEspNowEncryptedRadio) (env : RadioEnvironment) (nowMs : UInt32) :
    Prop where
  own : env.channel = some r.expectedChannel
  stable : r.channelStable = true
  long : channelStabilizationMs ≤ nowMs - r.channelStableSinceMs

/-- The last attempt to initialise is too recent to make another. -/
def AwaitsRetry (r : EspIdfEspNowEncryptedRadio) (nowMs : UInt32) : Prop :=
  r.lastInitializationAttemptMs ≠ 0 ∧
    nowMs - r.lastInitializationAttemptMs < initializationRetryMs

instance decidableAwaitsRetry (r : EspIdfEspNowEncryptedRadio) (nowMs : UInt32) :
    Decidable (r.AwaitsRetry nowMs) :=
  inferInstanceAs (Decidable (_ ∧ _))

inductive Listening (r : EspIdfEspNowEncryptedRadio) (env : RadioEnvironment) (nowMs : UInt32) :
    Prop
  | unread (read : env.channel = none)
  | elsewhere {primary : UInt8} (read : env.channel = some primary)
      (other : primary ≠ r.expectedChannel)
  | begun (own : env.channel = some r.expectedChannel) (unstable : r.channelStable = false)
  | settling (own : env.channel = some r.expectedChannel) (stable : r.channelStable = true)
      (short : nowMs - r.channelStableSinceMs < channelStabilizationMs)
  | restarted (on : r.OnChannel env nowMs) (ran : (r.processRadioRecovery env nowMs).1 = true)
  | refreshed (on : r.OnChannel env nowMs) (idle : (r.processRadioRecovery env nowMs).1 = false)
      (up : r.initialized = true)
  | waiting (on : r.OnChannel env nowMs) (idle : (r.processRadioRecovery env nowMs).1 = false)
      (down : r.initialized = false) (waits : r.AwaitsRetry nowMs)
  | initializing (on : r.OnChannel env nowMs)
      (idle : (r.processRadioRecovery env nowMs).1 = false) (down : r.initialized = false)
      (due : ¬ r.AwaitsRetry nowMs)

/-- The radio once it has read the expected channel. -/
def heard (r : EspIdfEspNowEncryptedRadio) : EspIdfEspNowEncryptedRadio :=
  { r with currentChannel := r.expectedChannel, channelMatches := true }

section Listening
variable {r : EspIdfEspNowEncryptedRadio} {env : RadioEnvironment} {nowMs : UInt32}

theorem listening_cases (r : EspIdfEspNowEncryptedRadio) (env : RadioEnvironment)
    (nowMs : UInt32) : r.Listening env nowMs := by
  cases read : env.channel with
  | none => exact .unread read
  | some primary =>
    by_cases other : primary ≠ r.expectedChannel
    · exact .elsewhere read other
    have own : env.channel = some r.expectedChannel := by rw [read, Decidable.not_not.mp other]
    cases stable : r.channelStable with
    | false => exact .begun own stable
    | true =>
      by_cases short : nowMs - r.channelStableSinceMs < channelStabilizationMs
      · exact .settling own stable short
      have on : r.OnChannel env nowMs := ⟨own, stable, UInt32.not_lt.mp short⟩
      cases ran : (r.processRadioRecovery env nowMs).1 with
      | true => exact .restarted on ran
      | false =>
        cases up : r.initialized with
        | true => exact .refreshed on ran up
        | false =>
          by_cases waits : r.AwaitsRetry nowMs
          · exact .waiting on ran up waits
          · exact .initializing on ran up waits

theorem idle_recovery (r : EspIdfEspNowEncryptedRadio) (env : RadioEnvironment) (nowMs : UInt32)
    (idle : (r.processRadioRecovery env nowMs).1 = false) :
    r.processRadioRecovery env nowMs = (false, r) := by
  unfold processRadioRecovery at idle ⊢
  split at idle
  · rename_i unready
    rw [if_pos unready]
  · rename_i pending
    split at idle
    · rename_i cooling
      rw [if_neg pending, if_pos cooling]
    · cases idle

theorem processRadioRecovery_heard (r : EspIdfEspNowEncryptedRadio) (env : RadioEnvironment)
    (nowMs : UInt32) :
    (r.heard.processRadioRecovery env nowMs).1 = (r.processRadioRecovery env nowMs).1 := by
  unfold processRadioRecovery heard
  dsimp only
  split
  · rfl
  · split <;> rfl

theorem listen_unread (read : env.channel = none) :
    r.listen env nowMs = { r with channelMatches := false, channelStable := false } := by
  rw [listen, read]

theorem listen_elsewhere {primary : UInt8} (read : env.channel = some primary)
    (other : primary ≠ r.expectedChannel) :
    r.listen env nowMs =
      let r := { r with
        currentChannel := primary, channelMatches := primary = r.expectedChannel
        channelStable := false }
      if r.initialized then r.scheduleRadioRecovery env nowMs else r := by
  rw [listen, read]
  exact if_pos other

theorem listen_begun (own : env.channel = some r.expectedChannel)
    (unstable : r.channelStable = false) :
    r.listen env nowMs = { r.heard with channelStable := true, channelStableSinceMs := nowMs } := by
  simp [listen, heard, own, unstable]

theorem listen_settling (own : env.channel = some r.expectedChannel)
    (stable : r.channelStable = true)
    (short : nowMs - r.channelStableSinceMs < channelStabilizationMs) :
    r.listen env nowMs = r.heard := by
  simp [listen, heard, own, stable, short]

theorem OnChannel.listen (on : r.OnChannel env nowMs) :
    r.listen env nowMs =
      match r.heard.processRadioRecovery env nowMs with
      | (true, r) => r
      | (false, r) =>
        if r.initialized then r.processPeerRefresh env nowMs
        else if r.AwaitsRetry nowMs then r
        else { r with lastInitializationAttemptMs := nowMs }.initializeRadio env := by
  have matching : decide (r.expectedChannel = r.expectedChannel) = true := decide_eq_true rfl
  rw [EspIdfEspNowEncryptedRadio.listen, on.own]
  dsimp only
  rw [if_neg (not_not.mpr rfl), if_neg (not_not.mpr on.stable), if_neg (UInt32.not_lt.mpr on.long),
    matching]
  rfl

theorem OnChannel.restarted (on : r.OnChannel env nowMs)
    (ran : (r.processRadioRecovery env nowMs).1 = true) :
    r.listen env nowMs = (r.heard.processRadioRecovery env nowMs).2 := by
  have shape : r.heard.processRadioRecovery env nowMs =
      (true, (r.heard.processRadioRecovery env nowMs).2) :=
    Prod.ext ((processRadioRecovery_heard r env nowMs).trans ran) rfl
  rw [on.listen, shape]

theorem OnChannel.unrestarted (on : r.OnChannel env nowMs)
    (idle : (r.processRadioRecovery env nowMs).1 = false) :
    r.listen env nowMs =
      if r.initialized then r.heard.processPeerRefresh env nowMs
      else if r.AwaitsRetry nowMs then r.heard
      else { r.heard with lastInitializationAttemptMs := nowMs }.initializeRadio env := by
  have still := (processRadioRecovery_heard r env nowMs).trans idle
  rw [on.listen, idle_recovery r.heard env nowMs still]
  rfl

end Listening

/-- The loop is called before it is configured, or too soon after the last poll. -/
def Resting (r : EspIdfEspNowEncryptedRadio) (nowMs : UInt32) : Prop :=
  ¬ r.configured ∨ r.peers.size = 0 ∨ nowMs - r.lastChannelPollMs < channelPollIntervalMs

instance decidableResting (r : EspIdfEspNowEncryptedRadio) (nowMs : UInt32) :
    Decidable (r.Resting nowMs) :=
  inferInstanceAs (Decidable (_ ∨ _))

def loopActions (r : EspIdfEspNowEncryptedRadio) (env : RadioEnvironment) (nowMs : UInt32) :
    List RadioAction :=
  if r.Resting nowMs then []
  else r.arbitrateActions env nowMs ++ (r.arbitrate env nowMs).listenActions env nowMs

theorem loop_eq (r : EspIdfEspNowEncryptedRadio) (env : RadioEnvironment) (nowMs : UInt32) :
    r.loop env nowMs =
      if r.Resting nowMs then r else (r.arbitrate env nowMs).listen env nowMs :=
  rfl

end EspIdfEspNowEncryptedRadio

/- Runs -/

inductive RadioCall where
  | loop (env : RadioEnvironment)
  | setRecoveryPermitted (permitted : Bool)
  | requestRadioRecovery (env : RadioEnvironment)
  | requestPeerRefresh (index : PeerIndex)
  | sendFrame (index : PeerIndex) (data : List UInt8) (accepted : Bool)
  | takeReceivedFrame
  | takeSendCompletion
  | sendCallback (position : Nat) (succeeded : Bool)
  | receiveCallback (address : Vector UInt8 6) (data : List UInt8)

abbrev RadioRecord := TimedRecord RadioAction

/-- The radio at an instant of real time, of which the code sees the low 32 bits. The history is
    newest first. -/
structure RadioRun where
  radio : EspIdfEspNowEncryptedRadio
  instant : Nat := 0
  history : List RadioRecord := []

namespace RadioRun

def nowMs (s : RadioRun) : UInt32 := UInt32.ofNat s.instant

def wait (s : RadioRun) (elapsedMs : Nat) : RadioRun := { s with instant := s.instant + elapsedMs }

def record (s : RadioRun) (actions : List RadioAction) : RadioRun :=
  { s with history := stamped s.instant actions ++ s.history }

def call (s : RadioRun) : RadioCall → RadioRun
  | .loop env =>
    { s.record (s.radio.loopActions env s.nowMs) with radio := s.radio.loop env s.nowMs }
  | .setRecoveryPermitted permitted => { s with radio := s.radio.setRecoveryPermitted permitted }
  | .requestRadioRecovery env => { s with radio := s.radio.requestRadioRecovery env s.nowMs }
  | .requestPeerRefresh index => { s with radio := s.radio.requestPeerRefresh index }
  | .sendFrame index data accepted => { s with radio := (s.radio.sendFrame index data accepted).2 }
  | .takeReceivedFrame => { s with radio := s.radio.takeReceivedFrame.2 }
  | .takeSendCompletion => { s with radio := s.radio.takeSendCompletion.2 }
  | .sendCallback position succeeded =>
    { s with radio := s.radio.sendCallback position succeeded }
  | .receiveCallback address data => { s with radio := s.radio.receiveCallback address data }

/-- Each call comes some milliseconds after the one before. -/
def calls (s : RadioRun) (made : List (Nat × RadioCall)) : RadioRun :=
  made.foldl (fun s timed => (s.wait timed.1).call timed.2) s

/-- A radio before its first poll. -/
def fresh (peers : PeerRegistry) (expectedChannel : UInt8) (configured : Bool)
    (instant : Nat) : RadioRun where
  radio := { peers, expectedChannel, configured }
  instant := instant

end RadioRun

namespace EspIdfEspNowEncryptedRadio

/- What a poll does to the timers and to the arbitration -/

/-- The part of the radio that the arbitration and the timers live in, and what they decide. -/
structure View where
  wifi : WiFiArbitration
  expectedChannel : UInt8
  initialized : Bool
  channelStable : Bool
  stableSinceMs : UInt32
  initializationMs : UInt32
  recoveryMs : UInt32

def view (r : EspIdfEspNowEncryptedRadio) : View :=
  ⟨r.wifi, r.expectedChannel, r.initialized, r.channelStable, r.channelStableSinceMs,
    r.lastInitializationAttemptMs, r.recovery.lastMs⟩

variable (r : EspIdfEspNowEncryptedRadio) (env : RadioEnvironment) (nowMs : UInt32)

@[simp] theorem view_scheduleRadioRecovery : (r.scheduleRadioRecovery env nowMs).view = r.view := by
  obtain ⟨pending, dueMs, same⟩ := scheduleRadioRecovery_eq r env nowMs
  rw [same]
  rfl

theorem view_initializeRadio : (r.initializeRadio env).view =
    { r.view with initialized := (r.initializeRadio env).initialized } := by
  rcases initializeRadio_eq r env with same | ⟨_, _, _, _, same, _⟩
  · rw [same]
    rfl
  · rw [same]
    rfl

theorem view_processPeerRefresh : (r.processPeerRefresh env nowMs).view = r.view := by
  obtain ⟨lastMs, attempted, pending, driverPeers, same⟩ := processPeerRefresh_eq r env nowMs
  rw [same]
  rfl

/-- Wi-Fi after a release: nothing is held, in a state that holds nothing. -/
structure Freed (w : WiFiArbitration) : Prop where
  held : w.suppressionHeld = false
  known : w.associationKnown = true
  idle : w.state ≠ .requesting ∧ w.state ≠ .suppressed

theorem freed_scheduleWifiArbitrationGrace (known : r.wifi.associationKnown = true) :
    ∃ w, (r.scheduleWifiArbitrationGrace env nowMs).view = { r.view with wifi := w } ∧ Freed w := by
  unfold scheduleWifiArbitrationGrace
  simp only
  split
  · exact ⟨_, rfl, rfl, known, by simp⟩
  · exact ⟨_, rfl, rfl, known, by simp⟩

/-- Everything that observing the association can do, given the actions of a release. -/
inductive Observed (w : WiFiArbitration) (released : List RadioAction) :
    List RadioAction → WiFiArbitration → Prop
  | unchanged : Observed w released [] w
  | met (unknown : w.associationKnown = false) :
    Observed w released [] { w with associationKnown := true, associated := true }
  | freed {w' : WiFiArbitration} (freed : Freed w') : Observed w released released w'

theorem observed_observeWifiAssociation :
    ∃ w, (r.observeWifiAssociation env nowMs).view = { r.view with wifi := w } ∧
      Observed r.wifi (r.releaseActions env) (r.observeActions env) w := by
  unfold observeWifiAssociation observeActions
  split
  · rename_i unknown
    simp only
    split
    · obtain ⟨w, same, freed⟩ := freed_scheduleWifiArbitrationGrace { r with
        wifi := { r.wifi with associationKnown := true, associated := env.associated } } env nowMs rfl
      exact ⟨w, same, .freed freed⟩
    · rename_i associated
      have associated : env.associated = true := by simpa using associated
      refine ⟨_, rfl, ?_⟩
      rw [associated]
      exact .met (Bool.eq_false_iff.mpr unknown)
  · rename_i unknown
    have known : r.wifi.associationKnown = true := Decidable.not_not.mp unknown
    split
    · exact ⟨r.wifi, rfl, .unchanged⟩
    · simp only
      let turned : EspIdfEspNowEncryptedRadio :=
        { r with wifi := { r.wifi with associated := env.associated } }
      let observed : EspIdfEspNowEncryptedRadio :=
        if env.associated then
          { turned.releaseWifiReconnectSuppression with
            wifi := { turned.releaseWifiReconnectSuppression.wifi with
              state := .monitoring, dueMs := 0 } }
        else turned.scheduleWifiArbitrationGrace env nowMs
      have freed : ∃ w, observed.view = { r.view with wifi := w } ∧ Freed w := by
        unfold observed
        split
        · exact ⟨_, rfl, rfl, known, by simp⟩
        · exact freed_scheduleWifiArbitrationGrace turned env nowMs known
      obtain ⟨w, same, freed⟩ := freed
      refine ⟨w, ?_, .freed freed⟩
      split
      · exact same
      · exact (view_scheduleRadioRecovery observed env nowMs).trans same

/-- Everything that the arbitration can do, given the actions of a release. A fixed channel only
    releases; a confirmed suppression ends the stability of the channel. -/
inductive Processed (v : View) (env : RadioEnvironment) (released : List RadioAction) :
    List RadioAction → View → Prop
  | idle : Processed v env released [] v
  | fixed (fixed : env.fixedChannel = true) :
    Processed v env released released { v with wifi := { v.wifi with suppressionHeld := false } }
  | freed {w : WiFiArbitration} (freed : Freed w) :
    Processed v env released released { v with wifi := w }
  | confirmed (known : v.wifi.associationKnown = true) (requesting : v.wifi.state = .requesting)
      (active : env.suppressionActive = true) (dueMs : UInt32) :
    Processed v env released [.suppressionConfirmed]
      { v with wifi := { v.wifi with state := .suppressed, dueMs }, channelStable := false }
  | accepted (known : v.wifi.associationKnown = true) (apart : v.wifi.associated = false)
      (state : v.wifi.state = .grace ∨ v.wifi.state = .reconnectWindow) (dueMs : UInt32) :
    Processed v env released [.suppressionRequested true]
      { v with wifi := { v.wifi with suppressionHeld := true, state := .requesting, dueMs } }
  | refused (dueMs : UInt32) :
    Processed v env released [.suppressionRequested false] { v with wifi := { v.wifi with dueMs } }

theorem processed_processWifiArbitration :
    Processed r.view env (r.releaseActions env) (r.arbitrationActions env nowMs)
      (r.processWifiArbitration env nowMs).view := by
  unfold processWifiArbitration arbitrationActions
  split
  · rename_i fixed
    exact .fixed fixed
  · split
    · exact .idle
    · rename_i applicable
      obtain ⟨asked, rest⟩ := not_or.mp applicable
      have known : r.wifi.associationKnown = true := Decidable.not_not.mp asked
      have apart : r.wifi.associated = false := Bool.eq_false_iff.mpr (not_or.mp rest).1
      split
      · rename_i confirmed
        exact .confirmed known confirmed.1 confirmed.2 _
      · split
        · exact .idle
        · have requested (state : r.wifi.state = .grace ∨ r.wifi.state = .reconnectWindow) :
              Processed r.view env (r.releaseActions env)
                [.suppressionRequested env.suppressionAccepted]
                (if env.suppressionAccepted then
                  { r with wifi := { r.wifi with
                    suppressionHeld := true, state := .requesting
                    dueMs := nowMs + wifiReconnectRequestRetryMs } }
                else
                  { r with wifi := { r.wifi with
                    dueMs := nowMs + wifiReconnectRequestRetryMs } }).view := by
            cases env.suppressionAccepted with
            | true => exact .accepted known apart state _
            | false => exact .refused _
          cases state : r.wifi.state with
          | monitoring =>
            obtain ⟨w, same, freed⟩ := freed_scheduleWifiArbitrationGrace r env nowMs known
            simp only
            rw [same]
            exact .freed freed
          | grace => exact requested (Or.inl state)
          | reconnectWindow => exact requested (Or.inr state)
          | requesting => exact .freed ⟨rfl, known, by simp⟩
          | suppressed => exact .freed ⟨rfl, known, by simp⟩

/-- What is asked of Wi-Fi, as opposed to what it confirms and to what the radio does. -/
def ForWifi : RadioAction → Prop
  | .suppressionRequested _ | .suppressionReleased => True
  | .polled _ | .suppressionConfirmed | .restarted | .initializeRadio => False

/-- Everything that reading the channel can lead to. -/
inductive Listened (v : View) (env : RadioEnvironment) (nowMs : UInt32) :
    List RadioAction → View → Prop
  | lost (other : env.channel ≠ some v.expectedChannel) :
    Listened v env nowMs [.polled env.channel] { v with channelStable := false }
  | begun (own : env.channel = some v.expectedChannel) :
    Listened v env nowMs [.polled env.channel]
      { v with channelStable := true, stableSinceMs := nowMs }
  | settled (own : env.channel = some v.expectedChannel) :
    Listened v env nowMs [.polled env.channel] v
  | restarted (own : env.channel = some v.expectedChannel) (stable : v.channelStable = true)
      (long : channelStabilizationMs ≤ nowMs - v.stableSinceMs)
      (due : v.recoveryMs = 0 ∨ radioRecoveryCooldownMs ≤ nowMs - v.recoveryMs) :
    Listened v env nowMs [.polled env.channel, .restarted]
      { v with
        initialized := false, channelStable := false, stableSinceMs := nowMs
        initializationMs := 0, recoveryMs := nowMs }
  | initializing (outcome : Bool) (own : env.channel = some v.expectedChannel)
      (stable : v.channelStable = true)
      (long : channelStabilizationMs ≤ nowMs - v.stableSinceMs)
      (due : v.initializationMs = 0 ∨ initializationRetryMs ≤ nowMs - v.initializationMs) :
    Listened v env nowMs [.polled env.channel, .initializeRadio]
      { v with initialized := outcome, initializationMs := nowMs }

theorem restarted_view (ran : (r.processRadioRecovery env nowMs).1 = true) :
    (r.recovery.lastMs = 0 ∨ radioRecoveryCooldownMs ≤ nowMs - r.recovery.lastMs) ∧
      (r.processRadioRecovery env nowMs).2.view =
        { r.view with
          initialized := false, channelStable := false, stableSinceMs := nowMs
          initializationMs := 0, recoveryMs := nowMs } := by
  unfold processRadioRecovery at ran ⊢
  split at ran
  · cases ran
  · rename_i pending
    split at ran
    · cases ran
    · rename_i cooled
      rw [if_neg pending, if_neg cooled]
      refine ⟨?_, rfl⟩
      by_cases first : r.recovery.lastMs = 0
      · exact Or.inl first
      · exact Or.inr (UInt32.not_lt.mp fun early => cooled ⟨first, early⟩)

theorem listened_of_eq {actions : List RadioAction}
    (same : r.listenActions env nowMs = .polled env.channel :: actions) {w : View}
    (listened : Listened r.view env nowMs (.polled env.channel :: actions) w)
    (next : (r.listen env nowMs).view = w) :
    Listened r.view env nowMs (r.listenActions env nowMs) (r.listen env nowMs).view := by
  rw [same, next]
  exact listened

theorem listened_elsewhere {primary : UInt8} (read : env.channel = some primary)
    (other : primary ≠ r.expectedChannel) :
    (r.listen env nowMs).view = { r.view with channelStable := false } := by
  rw [listen_elsewhere read other]
  dsimp only
  split
  · rw [view_scheduleRadioRecovery]
    rfl
  · rfl

theorem listened_listen :
    Listened r.view env nowMs (r.listenActions env nowMs) (r.listen env nowMs).view := by
  cases r.listening_cases env nowMs with
  | unread read =>
    refine r.listened_of_eq env nowMs ?_ (.lost ?_) ?_
    · simp [listenActions, read]
    · simp [read]
    · rw [listen_unread read]
      rfl
  | elsewhere read other =>
    refine r.listened_of_eq env nowMs ?_ (.lost ?_) (r.listened_elsewhere env nowMs read other)
    · simp [listenActions, read, other]
    · rw [read]
      exact fun same => other (Option.some.inj same)
  | begun own unstable =>
    refine r.listened_of_eq env nowMs ?_ (.begun own) ?_
    · simp [listenActions, own, unstable]
    · rw [listen_begun own unstable]
      rfl
  | settling own stable short =>
    refine r.listened_of_eq env nowMs ?_ (.settled own) ?_
    · simp [listenActions, own, stable, short]
    · rw [listen_settling own stable short]
      rfl
  | restarted on ran =>
    obtain ⟨due, next⟩ := restarted_view r.heard env nowMs
      ((processRadioRecovery_heard r env nowMs).trans ran)
    refine r.listened_of_eq env nowMs ?_ (.restarted on.own on.stable on.long due) ?_
    · simp [listenActions, on.own, on.stable, UInt32.not_lt.mpr on.long, ran]
    · rw [on.restarted ran, next]
      rfl
  | refreshed on idle up =>
    refine r.listened_of_eq env nowMs ?_ (.settled on.own) ?_
    · simp [listenActions, on.own, on.stable, UInt32.not_lt.mpr on.long, idle, up]
    · rw [on.unrestarted idle, if_pos up, view_processPeerRefresh]
      rfl
  | waiting on idle down waits =>
    have off : ¬ r.initialized = true := Bool.eq_false_iff.mp down
    refine r.listened_of_eq env nowMs ?_ (.settled on.own) ?_
    · simp [listenActions, on.own, on.stable, UInt32.not_lt.mpr on.long, idle, down, waits.1, waits.2]
    · rw [on.unrestarted idle, if_neg off, if_pos waits]
      rfl
  | initializing on idle down due =>
    have off : ¬ r.initialized = true := Bool.eq_false_iff.mp down
    have late : r.view.initializationMs = 0 ∨
        initializationRetryMs ≤ nowMs - r.view.initializationMs := by
      by_cases first : r.lastInitializationAttemptMs = 0
      · exact Or.inl first
      · exact Or.inr (UInt32.not_lt.mp fun soon => due ⟨first, soon⟩)
    refine r.listened_of_eq env nowMs ?_
      (.initializing (r.listen env nowMs).initialized on.own on.stable on.long late) ?_
    · have due' : ¬ (r.lastInitializationAttemptMs ≠ 0 ∧
          nowMs - r.lastInitializationAttemptMs < initializationRetryMs) := due
      simp only [listenActions, on.own, on.stable, UInt32.not_lt.mpr on.long, idle, down, due', ne_eq,
        not_true_eq_false, ↓reduceIte, Bool.false_eq_true]
    · rw [on.unrestarted idle, if_neg off, if_neg due, view_initializeRadio]
      rfl

theorem releaseActions_forWifi : ∀ action ∈ r.releaseActions env, ForWifi action := by
  intro action member
  unfold releaseActions at member
  split at member
  · rw [List.mem_singleton.mp member]
    trivial
  · cases member

/-- Everything that a poll can do to the timers before it reads the channel. -/
inductive Arbitrated (v : View) : List RadioAction → View → Prop
  | quiet {actions : List RadioAction} (asked : ∀ action ∈ actions, ForWifi action)
      (wifi : WiFiArbitration) : Arbitrated v actions { v with wifi }
  | confirmed {actions : List RadioAction} (asked : ∀ action ∈ actions, ForWifi action)
      (wifi : WiFiArbitration) :
    Arbitrated v (actions ++ [.suppressionConfirmed]) { v with wifi, channelStable := false }

theorem arbitrated_arbitrate :
    Arbitrated r.view (r.arbitrateActions env nowMs) (r.arbitrate env nowMs).view := by
  let polling : EspIdfEspNowEncryptedRadio := { r with lastChannelPollMs := nowMs }
  let observed := polling.observeWifiAssociation env nowMs
  obtain ⟨w, same, observation⟩ := observed_observeWifiAssociation polling env nowMs
  have asked : ∀ action ∈ polling.observeActions env, ForWifi action := by
    generalize polling.observeActions env = actions at observation
    cases observation with
    | unchanged => simp
    | met unknown => simp
    | freed freed => exact polling.releaseActions_forWifi env
  have quiet {actions : List RadioAction} (also : ∀ action ∈ actions, ForWifi action)
      (wifi : WiFiArbitration) :
      Arbitrated r.view (polling.observeActions env ++ actions) { r.view with wifi } := by
    refine .quiet ?_ wifi
    intro action member
    rcases List.mem_append.mp member with first | second
    · exact asked action first
    · exact also action second
  have released := observed.releaseActions_forWifi env
  have processed := processed_processWifiArbitration observed env nowMs
  have view : observed.view = { r.view with wifi := w } := same
  unfold arbitrate arbitrateActions
  change Arbitrated r.view (polling.observeActions env ++ observed.arbitrationActions env nowMs)
    (observed.processWifiArbitration env nowMs).view
  rw [view] at processed
  generalize observed.arbitrationActions env nowMs = actions at processed ⊢
  generalize (observed.processWifiArbitration env nowMs).view = next at processed ⊢
  cases processed with
  | idle => exact quiet (by simp) _
  | fixed fixed => exact quiet released _
  | freed freed => exact quiet released _
  | confirmed known requesting active dueMs => exact .confirmed asked _
  | accepted known apart state dueMs => exact quiet (by simp [ForWifi]) _
  | refused dueMs => exact quiet (by simp [ForWifi]) _

/-- Everything that a call can do to the timers. -/
inductive Stepped (v : View) (nowMs : UInt32) : List RadioAction → View → Prop
  | idle : Stepped v nowMs [] v
  | polled {env : RadioEnvironment} {asked listened : List RadioAction} {w v' : View}
      (arbitration : Arbitrated v asked w) (listening : Listened w env nowMs listened v') :
    Stepped v nowMs (asked ++ listened) v'

/-- Nothing is asked of Wi-Fi once the channel is read. -/
theorem Listened.wifi {v w : View} {actions : List RadioAction}
    (listened : Listened v env nowMs actions w) :
    w.wifi = v.wifi ∧ ∀ action ∈ actions, ¬ ForWifi action := by
  cases listened with
  | lost other => exact ⟨rfl, by simp [ForWifi]⟩
  | begun own => exact ⟨rfl, by simp [ForWifi]⟩
  | settled own => exact ⟨rfl, by simp [ForWifi]⟩
  | restarted own stable long due => exact ⟨rfl, by simp [ForWifi]⟩
  | initializing outcome own stable long due => exact ⟨rfl, by simp [ForWifi]⟩

theorem Listened.initialized {v w : View} {actions : List RadioAction}
    (listened : Listened v env nowMs actions w) (now : w.initialized = true) :
    v.initialized = true ∨ .initializeRadio ∈ actions := by
  cases listened with
  | lost other => exact Or.inl now
  | begun own => exact Or.inl now
  | settled own => exact Or.inl now
  | restarted own stable long due => cases now
  | initializing outcome own stable long due => exact Or.inr (by simp)

/-- A radio becomes initialised by nothing that the actions do not name. -/
theorem Stepped.initialized {v w : View} {actions : List RadioAction}
    (stepped : Stepped v nowMs actions w) (now : w.initialized = true) :
    v.initialized = true ∨ .initializeRadio ∈ actions := by
  cases stepped with
  | idle => exact Or.inl now
  | polled arbitration listening =>
    rcases listening.initialized _ _ now with before | named
    · left
      cases arbitration with
      | quiet asked wifi => exact before
      | confirmed asked wifi => exact before
    · exact Or.inr (List.mem_append_right _ named)

theorem stepped_loop :
    Stepped r.view nowMs (r.loopActions env nowMs) (r.loop env nowMs).view := by
  rw [loop_eq, loopActions]
  split
  · exact .idle
  · have listened := (r.arbitrate env nowMs).listened_listen env nowMs
    exact .polled (r.arbitrated_arbitrate env nowMs) listened

end EspIdfEspNowEncryptedRadio

namespace RadioRun
open EspIdfEspNowEncryptedRadio

/- What one call does to a run, and what all calls keep -/

/-- Only a poll acts, and only a poll moves the timers. -/
theorem call_cases (s : RadioRun) (made : RadioCall) :
    (∃ env, made = .loop env) ∨
      (s.call made).radio.view = s.radio.view ∧ (s.call made).history = s.history := by
  cases made with
  | loop env => exact Or.inl ⟨env, rfl⟩
  | setRecoveryPermitted | takeReceivedFrame | takeSendCompletion => exact Or.inr ⟨rfl, rfl⟩
  | requestRadioRecovery env =>
    refine Or.inr ⟨?_, rfl⟩
    simp only [call, requestRadioRecovery]
    split
    · rfl
    · exact view_scheduleRadioRecovery _ _ _
  | requestPeerRefresh index =>
    refine Or.inr ⟨?_, rfl⟩
    simp only [call, requestPeerRefresh]
    split <;> rfl
  | sendFrame index data accepted =>
    refine Or.inr ⟨?_, rfl⟩
    simp only [call, sendFrame]
    split
    · rfl
    · split <;> rfl
  | sendCallback position succeeded =>
    refine Or.inr ⟨?_, rfl⟩
    simp only [call, sendCallback]
    split
    · rfl
    · split <;> rfl
  | receiveCallback address data =>
    refine Or.inr ⟨?_, rfl⟩
    simp only [call, receiveCallback]
    split
    · rfl
    · split <;> rfl

/-- The calls that only move frames and their completions. -/
def Traffic : RadioCall → Prop
  | .sendFrame _ _ _ | .takeReceivedFrame | .takeSendCompletion | .sendCallback _ _
  | .receiveCallback _ _ => True
  | .loop _ | .setRecoveryPermitted _ | .requestRadioRecovery _ | .requestPeerRefresh _ => False

theorem traffic_call (s : RadioRun) {made : RadioCall} (traffic : Traffic made) :
    ∃ receivedFrames sendCompletions inAir transmitted, (s.call made).radio =
      { s.radio with receivedFrames, sendCompletions, inAir, transmitted } := by
  cases made with
  | loop | setRecoveryPermitted | requestRadioRecovery | requestPeerRefresh => exact traffic.elim
  | takeReceivedFrame | takeSendCompletion => exact ⟨_, _, _, _, rfl⟩
  | sendFrame index data accepted =>
    simp only [call, sendFrame]
    split
    · exact ⟨_, _, _, _, rfl⟩
    · split <;> exact ⟨_, _, _, _, rfl⟩
  | sendCallback position succeeded =>
    simp only [call, sendCallback]
    split
    · exact ⟨_, _, _, _, rfl⟩
    · split <;> exact ⟨_, _, _, _, rfl⟩
  | receiveCallback address data =>
    simp only [call, receiveCallback]
    split
    · exact ⟨_, _, _, _, rfl⟩
    · split <;> exact ⟨_, _, _, _, rfl⟩

theorem stepped_call (s : RadioRun) (made : RadioCall) :
    ∃ actions, (s.call made).history = stamped s.instant actions ++ s.history ∧
      Stepped s.radio.view s.nowMs actions (s.call made).radio.view := by
  rcases s.call_cases made with ⟨env, rfl⟩ | ⟨same, silent⟩
  · exact ⟨_, rfl, s.radio.stepped_loop env s.nowMs⟩
  · rw [same]
    exact ⟨[], silent, .idle⟩

theorem instant_call (s : RadioRun) (made : RadioCall) : (s.call made).instant = s.instant := by
  cases made <;> rfl

theorem calls_keep (Good : RadioRun → Prop) (allowed : RadioCall → Prop)
    (waits : ∀ s elapsedMs, Good s → Good (s.wait elapsedMs))
    (keeps : ∀ s made, allowed made → Good s → Good (s.call made)) (s : RadioRun)
    (made : List (Nat × RadioCall)) (each : ∀ timed ∈ made, allowed timed.2) (start : Good s) :
    Good (s.calls made) := by
  induction made generalizing s with
  | nil => exact start
  | cons timed rest ih =>
    apply ih
    · intro later member
      exact each later (List.mem_cons_of_mem _ member)
    · apply keeps _ _ (each timed List.mem_cons_self)
      exact waits _ _ start

end RadioRun

end EspNowNet
