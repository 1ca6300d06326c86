import EspNowNet.Library.Since
import EspNowNet.RecoveryHistory
import EspNowNet.Transmission

/- Recovery of the peers after a failed Wi-Fi association. Wi-Fi reports the phases of its
   attempts at any time; once an attempt has failed, the first idle iteration writes every peer
   to the driver again, and only once. -/
namespace EspNowNet
open EspNowNetProtocolComponent

inductive WifiInterface where
  | sta
  | ap
  deriving DecidableEq

structure EspNowPeerInfo where
  address : Vector UInt8 6
  lmk : Vector UInt8 16
  channel : UInt8
  ifidx : WifiInterface
  encrypt : Bool
  deriving DecidableEq

def espErrEspNowNotInit : Int := 0x3065
def espErrEspNowArg : Int := 0x3066

/-- The driver's table: its entry for an address or an error, and the result of a change. The entry
    that it finds is the one that it was asked for. -/
structure EspNowPeerDriver where
  getPeer : Vector UInt8 6 → Except Int EspNowPeerInfo
  modPeer : EspNowPeerInfo → Int
  found : ∀ address info, getPeer address = .ok info → info.address = address

/-- The result, and the entry that was written when the driver was asked to write one. -/
def EspIdfEspNowEncryptedRadio.diagnosticReapplyPeer (r : EspIdfEspNowEncryptedRadio)
    (driver : EspNowPeerDriver) (index : PeerIndex) : Int × Option EspNowPeerInfo :=
  if ¬ r.initialized ∨ ¬ r.attached then (espErrEspNowNotInit, none)
  else
    match r.peers.peer index with
    | none => (espErrEspNowArg, none)
    | some configured =>
      match driver.getPeer configured.address with
      | .error result => (result, none)
      | .ok peer =>
        let peer := { peer with lmk := configured.lmk, channel := 0, ifidx := .sta, encrypt := true }
        (driver.modPeer peer, some peer)

structure ReconnectWifi where
  fixedChannelOperation : Bool := true
  disabled : Bool := false

structure ReconnectPeerRecovery where
  attempt : Bool := false
  pending : Bool := false

structure RecoveryNote where
  event : String
  result : Int := 0
  peer : Int := -1
  deriving DecidableEq

namespace ReconnectPeerRecovery

def reconnectPeerRecoveryPhase (r : ReconnectPeerRecovery) (phase : String) :
    List RecoveryNote × ReconnectPeerRecovery :=
  if phase = "wifi_connected" then
    ({ event := "wifi_connected" } :: if r.pending then [{ event := "cancel_connected" }] else [],
      { attempt := false, pending := false })
  else if phase = "before_attempt" then
    ({ event := "attempt_start" } :: if r.pending then [{ event := "cancel_next_attempt" }] else [],
      { attempt := true, pending := false })
  else if phase = "retry_after_disconnect" then
    if r.attempt then
      ([{ event := "attempt_failed" }, { event := "recovery_queued" }],
        { attempt := false, pending := true })
    else ([{ event := "retry_boundary" }], r)
  else ([], r)

end ReconnectPeerRecovery

structure PeerReapplied where
  peer : PeerIndex
  result : Int
  written : Option EspNowPeerInfo
  deriving DecidableEq

inductive PeerRecoveryEvent where
  | phase (phase : String)
  | wifiOff
  | recovered (peers : List PeerReapplied)
  deriving DecidableEq

/-- `log` is a history variable: what the recovery has seen and done, newest first. -/
structure RecoveringEndpoint where
  endpoint : EspNowNetProtocolComponent
  recovery : ReconnectPeerRecovery := {}
  history : RecoveryHistory := {}
  log : List PeerRecoveryEvent := []

/-- `wifi` is there in a build with a fixed channel; `record` answers while an event is recorded. -/
structure PeerRecoveryEnvironment where
  wifi : Option ReconnectWifi := none
  driver : EspNowPeerDriver
  record : RecoveryEnvironment := {}
  connected : Bool := false

namespace RecoveringEndpoint

def note (s : RecoveringEndpoint) (env : RecoveryEnvironment) (notes : List RecoveryNote) :
    RecoveringEndpoint :=
  { s with history := notes.foldl (fun history note =>
      history.recordRecoveryEvent env note.event note.result note.peer) s.history }

def reconnectPeerRecoveryPhase (s : RecoveringEndpoint) (env : RecoveryEnvironment)
    (phase : String) : RecoveringEndpoint :=
  let (notes, recovery) := s.recovery.reconnectPeerRecoveryPhase phase
  { s with recovery, log := .phase phase :: s.log }.note env notes

def reapplyPeers (r : EspIdfEspNowEncryptedRadio) (driver : EspNowPeerDriver) :
    List PeerReapplied :=
  (List.range r.peers.size).map fun i =>
    let outcome := r.diagnosticReapplyPeer driver (UInt8.ofNat i)
    ⟨UInt8.ofNat i, outcome.1, outcome.2⟩

def reconnectPeerRecoveryTick (s : RecoveringEndpoint) (env : PeerRecoveryEnvironment)
    (idle : Bool) : RecoveringEndpoint :=
  let s := { s with history := (s.history.recoveryHistoryTick s.endpoint.localBootId
    env.record.nowMs env.connected).2 }
  if env.wifi.any fun wifi => !wifi.fixedChannelOperation || wifi.disabled then
    { s with recovery := { attempt := false, pending := false }, log := .wifiOff :: s.log }
  else if ¬ s.endpoint.runtimeEnabled ∨ ¬ s.endpoint.radio.initialized ∨ s.endpoint.failed then s
  else if s.recovery.pending ∧ idle then
    let peers := reapplyPeers s.endpoint.radio env.driver
    { s with
      recovery := { s.recovery with pending := false }
      log := .recovered peers :: s.log }.note env.record
        (peers.map fun (reapplied : PeerReapplied) =>
          { event := "peer_reapply", result := reapplied.result, peer := reapplied.peer.toNat })
  else s

/-- `loop`: the recovery of the peers goes first. -/
def loop (s : RecoveringEndpoint) (env : PeerRecoveryEnvironment) (iteration : EndpointEnvironment) :
    RecoveringEndpoint :=
  let s := s.reconnectPeerRecoveryTick env s.endpoint.recoveryPermitted
  { s with endpoint := s.endpoint.loop iteration }

end RecoveringEndpoint

inductive RecoveringOperation where
  | phase (env : RecoveryEnvironment) (phase : String)
  | request (nowMs : UInt32)
  | loop (env : PeerRecoveryEnvironment) (iteration : EndpointEnvironment)
  | control (call : ControlCall)
  | driver (event : DriverEvent)

namespace RecoveringEndpoint

def apply (s : RecoveringEndpoint) : RecoveringOperation → RecoveringEndpoint
  | .phase env phase => s.reconnectPeerRecoveryPhase env phase
  | .request nowMs => { s with history := s.history.requestRecoveryHistory nowMs }
  | .loop env iteration => s.loop env iteration
  | .control call => { s with endpoint := call.apply s.endpoint }
  | .driver event => { s with endpoint := s.endpoint.driverEvent event }

def after (config : Configuration) (random : UInt64) (operations : List RecoveringOperation) :
    RecoveringEndpoint :=
  operations.foldl apply { endpoint := setup config random }

end RecoveringEndpoint

/- What the flags say about the log -/

def PeerRecoveryEvent.EndsAttempt : PeerRecoveryEvent → Prop
  | .phase text =>
    text = "wifi_connected" ∨ text = "before_attempt" ∨ text = "retry_after_disconnect"
  | .wifiOff => True
  | .recovered _ => False

def PeerRecoveryEvent.EndsWait : PeerRecoveryEvent → Prop
  | .phase text => text = "wifi_connected" ∨ text = "before_attempt"
  | .wifiOff | .recovered _ => True

def AttemptOpen (log : List PeerRecoveryEvent) : Prop :=
  Since.Holds (fun _ event => event = .phase "before_attempt") (¬ ·.EndsAttempt) log

/-- An attempt has failed, and since then Wi-Fi was neither connected nor switched off, no attempt
    was begun and the peers were not recovered. -/
def AttemptFailed (log : List PeerRecoveryEvent) : Prop :=
  Since.Holds (fun older event => event = .phase "retry_after_disconnect" ∧ AttemptOpen older)
    (¬ ·.EndsWait) log

def FollowsFailure (older : List PeerRecoveryEvent) : PeerRecoveryEvent → Prop
  | .recovered _ => AttemptFailed older
  | _ => True

structure FlagsTold (s : RecoveringEndpoint) : Prop where
  attempt : s.recovery.attempt = true ↔ AttemptOpen s.log
  pending : s.recovery.pending = true ↔ AttemptFailed s.log
  each : GuardedInvariant.Throughout FollowsFailure s.log

section Flags
variable {s : RecoveringEndpoint} {log : List PeerRecoveryEvent}

theorem attemptOpen_cons {event : PeerRecoveryEvent} : AttemptOpen (event :: log) ↔
    event = .phase "before_attempt" ∨ ¬ event.EndsAttempt ∧ AttemptOpen log :=
  Since.holds_cons

theorem attemptFailed_cons {event : PeerRecoveryEvent} : AttemptFailed (event :: log) ↔
    (event = .phase "retry_after_disconnect" ∧ AttemptOpen log) ∨
      ¬ event.EndsWait ∧ AttemptFailed log :=
  Since.holds_cons

theorem FlagsTold.noted (told : FlagsTold s) {next : RecoveringEndpoint} {event : PeerRecoveryEvent}
    (log : next.log = event :: s.log)
    (attempt : next.recovery.attempt = true ↔
      event = .phase "before_attempt" ∨ ¬ event.EndsAttempt ∧ s.recovery.attempt = true)
    (pending : next.recovery.pending = true ↔
      (event = .phase "retry_after_disconnect" ∧ s.recovery.attempt = true) ∨
        ¬ event.EndsWait ∧ s.recovery.pending = true)
    (follows : FollowsFailure s.log event) : FlagsTold next := by
  refine ⟨?_, ?_, ?_⟩
  · rw [log, attemptOpen_cons, attempt, told.attempt]
  · rw [log, attemptFailed_cons, pending, told.attempt, told.pending]
  · rw [log]
    exact GuardedInvariant.throughout_cons.mpr ⟨follows, told.each⟩

theorem FlagsTold.same (told : FlagsTold s) {next : RecoveringEndpoint}
    (recovery : next.recovery = s.recovery) (log : next.log = s.log) : FlagsTold next := by
  obtain ⟨attempt, pending, each⟩ := told
  exact ⟨by rw [recovery, log, attempt], by rw [recovery, log, pending], by rw [log]; exact each⟩

theorem FlagsTold.beside (told : FlagsTold s) (endpoint : EspNowNetProtocolComponent)
    (history : RecoveryHistory) : FlagsTold { s with endpoint, history } :=
  told.same rfl rfl

theorem FlagsTold.phase (told : FlagsTold s) (env : RecoveryEnvironment) (phase : String) :
    FlagsTold (s.reconnectPeerRecoveryPhase env phase) := by
  unfold RecoveringEndpoint.reconnectPeerRecoveryPhase
  by_cases connected : phase = "wifi_connected"
  · subst connected
    refine told.noted rfl ?_ ?_ trivial <;>
      simp [ReconnectPeerRecovery.reconnectPeerRecoveryPhase, RecoveringEndpoint.note,
        PeerRecoveryEvent.EndsAttempt, PeerRecoveryEvent.EndsWait]
  by_cases begun : phase = "before_attempt"
  · subst begun
    refine told.noted rfl ?_ ?_ trivial <;>
      simp [ReconnectPeerRecovery.reconnectPeerRecoveryPhase, RecoveringEndpoint.note,
        PeerRecoveryEvent.EndsWait]
  by_cases ended : phase = "retry_after_disconnect"
  · subst ended
    cases attempted : s.recovery.attempt with
    | true =>
      refine told.noted rfl ?_ ?_ trivial <;>
        simp [ReconnectPeerRecovery.reconnectPeerRecoveryPhase, RecoveringEndpoint.note,
          PeerRecoveryEvent.EndsAttempt, attempted]
    | false =>
      refine told.noted rfl ?_ ?_ trivial <;>
        simp [ReconnectPeerRecovery.reconnectPeerRecoveryPhase, RecoveringEndpoint.note,
          PeerRecoveryEvent.EndsAttempt, PeerRecoveryEvent.EndsWait, attempted]
  · refine told.noted rfl ?_ ?_ trivial <;>
      simp [ReconnectPeerRecovery.reconnectPeerRecoveryPhase, RecoveringEndpoint.note,
        PeerRecoveryEvent.EndsAttempt, PeerRecoveryEvent.EndsWait, connected, begun, ended]

def PeerRecoveryEnvironment.WifiOff (env : PeerRecoveryEnvironment) : Prop :=
  (env.wifi.any fun wifi => !wifi.fixedChannelOperation || wifi.disabled) = true

def RecoveringEndpoint.Ready (s : RecoveringEndpoint) : Prop :=
  s.endpoint.runtimeEnabled = true ∧ s.endpoint.radio.initialized = true ∧
    s.endpoint.failed = false ∧ s.endpoint.recoveryPermitted = true

/-- An iteration forgets what Wi-Fi has reported, recovers the peers or does neither. -/
theorem tick_cases (s : RecoveringEndpoint) (env : PeerRecoveryEnvironment) :
    let next := s.reconnectPeerRecoveryTick env s.endpoint.recoveryPermitted
    next.endpoint = s.endpoint ∧
      (env.WifiOff ∧ next.recovery = {} ∧ next.log = .wifiOff :: s.log ∨
        ¬ env.WifiOff ∧ s.Ready ∧ s.recovery.pending = true ∧
          next.recovery = { s.recovery with pending := false } ∧
          next.log = .recovered (RecoveringEndpoint.reapplyPeers s.endpoint.radio env.driver) ::
            s.log ∨
        ¬ env.WifiOff ∧ ¬ (s.Ready ∧ s.recovery.pending = true) ∧
          next.recovery = s.recovery ∧ next.log = s.log) := by
  intro next
  simp only [next, RecoveringEndpoint.reconnectPeerRecoveryTick]
  split
  · rename_i off
    exact ⟨rfl, Or.inl ⟨off, rfl, rfl⟩⟩
  · rename_i on
    split
    · rename_i stopped
      refine ⟨rfl, Or.inr (Or.inr ⟨on, ?_, rfl, rfl⟩)⟩
      rintro ⟨⟨enabled, initialized, working, _⟩, _⟩
      simp [enabled, initialized, working] at stopped
    · rename_i running
      simp only [not_or, Bool.not_eq_true, Bool.not_eq_false] at running
      split
      · rename_i due
        exact ⟨rfl, Or.inr (Or.inl ⟨on, ⟨running.1, running.2.1, running.2.2, due.2⟩, due.1,
          rfl, rfl⟩)⟩
      · rename_i early
        refine ⟨rfl, Or.inr (Or.inr ⟨on, ?_, rfl, rfl⟩)⟩
        rintro ⟨⟨_, _, _, idle⟩, pending⟩
        exact early ⟨pending, idle⟩

theorem FlagsTold.loop (told : FlagsTold s) (env : PeerRecoveryEnvironment)
    (iteration : EndpointEnvironment) : FlagsTold (s.loop env iteration) := by
  obtain ⟨_, ⟨_, recovery, log⟩ | ⟨_, _, pending, recovery, log⟩ | ⟨_, _, recovery, log⟩⟩ :=
    tick_cases s env
  · have off : FlagsTold (s.reconnectPeerRecoveryTick env s.endpoint.recoveryPermitted) := by
      refine told.noted log ?_ ?_ trivial <;>
        simp [recovery, PeerRecoveryEvent.EndsAttempt, PeerRecoveryEvent.EndsWait]
    exact off.same rfl rfl
  · have recovered : FlagsTold (s.reconnectPeerRecoveryTick env s.endpoint.recoveryPermitted) := by
      refine told.noted log ?_ ?_ (told.pending.mp pending) <;>
        simp [recovery, PeerRecoveryEvent.EndsAttempt, PeerRecoveryEvent.EndsWait]
    exact recovered.same rfl rfl
  · exact told.same recovery log

section Reapply
variable {r : EspIdfEspNowEncryptedRadio} {driver : EspNowPeerDriver} {index : PeerIndex}
  {configured : PeerIdentity}

end Reapply

end Flags

end EspNowNet
