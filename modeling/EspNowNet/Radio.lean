import EspNowNet.PeerRegistry
import EspNowNet.RadioQueue
import EspNowNet.Reliability

/- The encrypted radio: Wi-Fi arbitration, channel stabilisation, recovery, peer refresh,
   and the two queues between the driver callbacks and the main loop. What Wi-Fi and the
   ESP-NOW driver answer during a poll is an argument of the poll. -/
namespace EspNowNet

structure RadioEnvironment where
  fixedChannel : Bool := false
  associated : Bool := true
  channel : Option UInt8 := some 1
  mac : Option (List UInt8) := none
  wifiComponent : Bool := true
  fixedChannelOperation : Bool := false
  suppressionActive : Bool := false
  suppressionAccepted : Bool := false
  initialized : Bool := true
  keySet : Bool := true
  receiveRegistered : Bool := true
  sendRegistered : Bool := true
  peerAdded : PeerIndex → Bool := fun _ => true
  peerRemoved : PeerIndex → Bool := fun _ => true
  deinitialized : Bool := true

inductive WiFiArbitrationState where
  | monitoring
  | grace
  | requesting
  | suppressed
  | reconnectWindow
  deriving DecidableEq

structure WiFiArbitration where
  state : WiFiArbitrationState := .monitoring
  dueMs : UInt32 := 0
  associationKnown : Bool := false
  associated : Bool := false
  suppressionHeld : Bool := false

structure RadioRecovery where
  pending : Bool := false
  inProgress : Bool := false
  permitted : Bool := true
  dueMs : UInt32 := 0
  lastMs : UInt32 := 0

/-- A frame the driver has taken and not reported yet. Its number is a history variable. -/
structure InAirFrame where
  number : Nat
  address : Vector UInt8 6
  deriving DecidableEq

/-- `attached` says that the driver callbacks find this radio (`instance_ == this`).
    `inAir` and `driverPeers` are the driver's own state; `transmitted` counts the frames it
    has taken and numbers them. -/
structure EspIdfEspNowEncryptedRadio where
  peers : PeerRegistry := .empty
  expectedChannel : UInt8 := 1
  configured : Bool := false
  initialized : Bool := false
  attached : Bool := false
  channelMatches : Bool := false
  channelStable : Bool := false
  currentChannel : UInt8 := 0
  lastChannelPollMs : UInt32 := 0
  channelStableSinceMs : UInt32 := 0
  lastInitializationAttemptMs : UInt32 := 0
  peerRefreshLastMs : PeerIndex → UInt32 := fun _ => 0
  peerRefreshPending : PeerIndex → Bool := fun _ => false
  peerRefreshAttempted : PeerIndex → Bool := fun _ => false
  recovery : RadioRecovery := {}
  wifi : WiFiArbitration := {}
  receivedFrames : EspNowSpscQueue EspNowReceivedFrame 3 := .empty
  sendCompletions : EspNowSpscQueue EspNowSendCompletion 4 := .empty
  inAir : List InAirFrame := []
  transmitted : Nat := 0
  driverPeers : PeerIndex → Bool := fun _ => false

namespace EspIdfEspNowEncryptedRadio

def channelPollIntervalMs : UInt32 := 250
def channelStabilizationMs : UInt32 := 5000
def initializationRetryMs : UInt32 := 5000
def peerRefreshCooldownMs : UInt32 := 30000
def radioRecoveryBaseDelayMs : UInt32 := 3000
def radioRecoveryJitterMs : UInt32 := 7000
def radioRecoveryCooldownMs : UInt32 := 30000
def wifiReconnectGraceBaseMs : UInt32 := 10000
def wifiReconnectGraceJitterMs : UInt32 := 20000
def wifiReconnectHoldBaseMs : UInt32 := 30000
def wifiReconnectHoldJitterMs : UInt32 := 30000
def wifiReconnectWindowMs : UInt32 := 8000
def wifiReconnectRequestRetryMs : UInt32 := 5000
def rxQueueCapacity : Nat := 3
def sendCompletionQueueCapacity : Nat := 4

/-- The delay that the station address spreads over `0 … span`. -/
def jitterMs (env : RadioEnvironment) (spanMs salt : UInt32) : UInt32 :=
  match env.mac with
  | none => spanMs / 2
  | some address =>
    address.foldl (fun hash value => (hash ^^^ value.toUInt32) * 16777619) (2166136261 ^^^ salt) %
      (spanMs + 1)

def releaseWifiReconnectSuppression (r : EspIdfEspNowEncryptedRadio) :
    EspIdfEspNowEncryptedRadio :=
  { r with wifi := { r.wifi with suppressionHeld := false } }

def scheduleWifiArbitrationGrace (r : EspIdfEspNowEncryptedRadio) (env : RadioEnvironment)
    (nowMs : UInt32) : EspIdfEspNowEncryptedRadio :=
  let r := r.releaseWifiReconnectSuppression
  if env.fixedChannel ∧ env.wifiComponent then { r with wifi := { r.wifi with state := .monitoring } }
  else
    let dueMs := nowMs + wifiReconnectGraceBaseMs +
      jitterMs env wifiReconnectGraceJitterMs 0x47524143
    { r with wifi := { r.wifi with state := .grace, dueMs } }

def scheduleRadioRecovery (r : EspIdfEspNowEncryptedRadio) (env : RadioEnvironment)
    (nowMs : UInt32) : EspIdfEspNowEncryptedRadio :=
  if r.recovery.pending ∨ r.recovery.inProgress then r
  else
    let dueMs := nowMs + radioRecoveryBaseDelayMs + jitterMs env radioRecoveryJitterMs 0
    { r with recovery := { r.recovery with dueMs, pending := true } }

def observeWifiAssociation (r : EspIdfEspNowEncryptedRadio) (env : RadioEnvironment)
    (nowMs : UInt32) : EspIdfEspNowEncryptedRadio :=
  if ¬ r.wifi.associationKnown then
    let r := { r with
      wifi := { r.wifi with associationKnown := true, associated := env.associated } }
    if ¬ env.associated then r.scheduleWifiArbitrationGrace env nowMs else r
  else if env.associated = r.wifi.associated then r
  else
    let r := { r with wifi := { r.wifi with associated := env.associated } }
    let r :=
      if env.associated then
        let r := r.releaseWifiReconnectSuppression
        { r with wifi := { r.wifi with state := .monitoring, dueMs := 0 } }
      else r.scheduleWifiArbitrationGrace env nowMs
    if env.fixedChannel ∧ env.wifiComponent ∧ env.fixedChannelOperation then r
    else r.scheduleRadioRecovery env nowMs

def processWifiArbitration (r : EspIdfEspNowEncryptedRadio) (env : RadioEnvironment)
    (nowMs : UInt32) : EspIdfEspNowEncryptedRadio :=
  if env.fixedChannel then r.releaseWifiReconnectSuppression
  else if ¬ r.wifi.associationKnown ∨ r.wifi.associated ∨ ¬ env.wifiComponent then r
  else if r.wifi.state = .requesting ∧ env.suppressionActive then
    let dueMs := nowMs + wifiReconnectHoldBaseMs + jitterMs env wifiReconnectHoldJitterMs 0x484F4C44
    { r with wifi := { r.wifi with state := .suppressed, dueMs }, channelStable := false }
  else if deadlinePending nowMs r.wifi.dueMs then r
  else
    match r.wifi.state with
    | .monitoring => r.scheduleWifiArbitrationGrace env nowMs
    | .grace | .reconnectWindow =>
      let dueMs := nowMs + wifiReconnectRequestRetryMs
      if env.suppressionAccepted then
        { r with wifi := { r.wifi with suppressionHeld := true, state := .requesting, dueMs } }
      else { r with wifi := { r.wifi with dueMs } }
    | .requesting | .suppressed =>
      let r := r.releaseWifiReconnectSuppression
      { r with wifi := { r.wifi with state := .reconnectWindow, dueMs := nowMs + wifiReconnectWindowMs } }

/-- Whatever is queued is dropped, and the driver no longer finds this radio. -/
def shutdownRadio (r : EspIdfEspNowEncryptedRadio) (env : RadioEnvironment) :
    EspIdfEspNowEncryptedRadio :=
  { r with
    driverPeers :=
      if (r.initialized ∨ r.attached) ∧ env.deinitialized then fun _ => false else r.driverPeers
    attached := false
    initialized := false
    receivedFrames := r.receivedFrames.discard r.receivedFrames.size
    sendCompletions := r.sendCompletions.discard r.sendCompletions.size }

def processRadioRecovery (r : EspIdfEspNowEncryptedRadio) (env : RadioEnvironment)
    (nowMs : UInt32) : Bool × EspIdfEspNowEncryptedRadio :=
  if ¬ r.recovery.pending ∨ ¬ r.recovery.permitted ∨ deadlinePending nowMs r.recovery.dueMs then
    (false, r)
  else if r.recovery.lastMs ≠ 0 ∧ nowMs - r.recovery.lastMs < radioRecoveryCooldownMs then (false, r)
  else
    let r := { r with
      recovery := { r.recovery with pending := false, inProgress := true, lastMs := nowMs }
      peerRefreshPending := fun _ => false
      peerRefreshAttempted := fun _ => false }
    (true, { r.shutdownRadio env with
      channelStable := false
      channelStableSinceMs := nowMs
      lastInitializationAttemptMs := 0 })

def addConfiguredPeer (r : EspIdfEspNowEncryptedRadio) (env : RadioEnvironment)
    (index : PeerIndex) : Bool × EspIdfEspNowEncryptedRadio :=
  if (r.peers.peer index).isNone ∨ ¬ env.peerAdded index then (false, r)
  else (true, { r with driverPeers := Function.update r.driverPeers index true })

def refreshPeer (r : EspIdfEspNowEncryptedRadio) (env : RadioEnvironment) (index : PeerIndex)
    (nowMs : UInt32) : Bool × EspIdfEspNowEncryptedRadio :=
  if ¬ r.initialized ∨ (r.peers.peer index).isNone then (false, r)
  else
    let r := { r with
      peerRefreshLastMs := Function.update r.peerRefreshLastMs index nowMs
      peerRefreshAttempted := Function.update r.peerRefreshAttempted index true }
    if ¬ env.peerRemoved index then (false, r)
    else
      { r with driverPeers := Function.update r.driverPeers index false }.addConfiguredPeer env index

def RefreshDue (r : EspIdfEspNowEncryptedRadio) (nowMs : UInt32) (index : PeerIndex) : Bool :=
  r.peerRefreshPending index &&
    !(r.peerRefreshAttempted index && nowMs - r.peerRefreshLastMs index < peerRefreshCooldownMs)

/-- One peer is refreshed in one poll: the first that is due. -/
def processPeerRefresh (r : EspIdfEspNowEncryptedRadio) (env : RadioEnvironment)
    (nowMs : UInt32) : EspIdfEspNowEncryptedRadio :=
  match ((List.range r.peers.size).map UInt8.ofNat).find? (r.RefreshDue nowMs) with
  | none => r
  | some index =>
    let r := { r with peerRefreshPending := Function.update r.peerRefreshPending index false }
    match r.refreshPeer env index nowMs with
    | (true, r) => r
    | (false, r) =>
      { r with peerRefreshPending := Function.update r.peerRefreshPending index true }

def rollbackInitialization (r : EspIdfEspNowEncryptedRadio) (env : RadioEnvironment) :
    EspIdfEspNowEncryptedRadio :=
  { r with
    driverPeers := if env.deinitialized then fun _ => false else r.driverPeers
    attached := false
    initialized := false }

/-- Peers are added in order up to the first the driver refuses. -/
def addConfiguredPeers (r : EspIdfEspNowEncryptedRadio) (env : RadioEnvironment) :
    List PeerIndex → Bool × EspIdfEspNowEncryptedRadio
  | [] => (true, r)
  | index :: rest =>
    match r.addConfiguredPeer env index with
    | (true, r) => r.addConfiguredPeers env rest
    | (false, r) => (false, r)

def initializeRadio (r : EspIdfEspNowEncryptedRadio) (env : RadioEnvironment) :
    EspIdfEspNowEncryptedRadio :=
  if ¬ env.initialized then r
  else
    let r := { r with attached := true }
    if ¬ env.keySet ∨ ¬ env.receiveRegistered ∨ ¬ env.sendRegistered then
      r.rollbackInitialization env
    else
      match r.addConfiguredPeers env ((List.range r.peers.size).map UInt8.ofNat) with
      | (false, r) => r.rollbackInitialization env
      | (true, r) =>
        { r with initialized := true, recovery := { r.recovery with inProgress := false } }

def loop (r : EspIdfEspNowEncryptedRadio) (env : RadioEnvironment) (nowMs : UInt32) :
    EspIdfEspNowEncryptedRadio :=
  if ¬ r.configured ∨ r.peers.size = 0 ∨ nowMs - r.lastChannelPollMs < channelPollIntervalMs then r
  else
    let r := { r with lastChannelPollMs := nowMs }
    let r := r.observeWifiAssociation env nowMs
    let r := r.processWifiArbitration env nowMs
    match env.channel with
    | none => { r with channelMatches := false, channelStable := false }
    | some primary =>
      let r := { r with currentChannel := primary, channelMatches := primary = r.expectedChannel }
      if primary ≠ r.expectedChannel then
        let r := { r with channelStable := false }
        if r.initialized then r.scheduleRadioRecovery env nowMs else r
      else if ¬ r.channelStable then { r with channelStable := true, channelStableSinceMs := nowMs }
      else if nowMs - r.channelStableSinceMs < channelStabilizationMs then r
      else
        match r.processRadioRecovery env nowMs with
        | (true, r) => r
        | (false, r) =>
          if r.initialized then r.processPeerRefresh env nowMs
          else if r.lastInitializationAttemptMs ≠ 0 ∧
              nowMs - r.lastInitializationAttemptMs < initializationRetryMs then r
          else { r with lastInitializationAttemptMs := nowMs }.initializeRadio env

def setRecoveryPermitted (r : EspIdfEspNowEncryptedRadio) (permitted : Bool) :
    EspIdfEspNowEncryptedRadio :=
  { r with recovery := { r.recovery with permitted } }

/-- `accepted` is the driver's answer to `esp_now_send`. -/
def sendFrame (r : EspIdfEspNowEncryptedRadio) (index : PeerIndex) (data : List UInt8)
    (accepted : Bool) : Bool × EspIdfEspNowEncryptedRadio :=
  match r.peers.peer index with
  | none => (false, r)
  | some selected =>
    if ¬ r.initialized ∨ data.length = 0 ∨ data.length > 250 ∨ ¬ accepted then (false, r)
    else
      (true, { r with
        inAir := r.inAir ++ [⟨r.transmitted, selected.address⟩]
        transmitted := r.transmitted + 1 })

def requestPeerRefresh (r : EspIdfEspNowEncryptedRadio) (index : PeerIndex) :
    EspIdfEspNowEncryptedRadio :=
  if index.toNat ≥ r.peers.size ∨ index ≥ 16 then r
  else { r with peerRefreshPending := Function.update r.peerRefreshPending index true }

def requestRadioRecovery (r : EspIdfEspNowEncryptedRadio) (env : RadioEnvironment)
    (nowMs : UInt32) : EspIdfEspNowEncryptedRadio :=
  if ¬ r.configured ∨ r.peers.size = 0 then r else r.scheduleRadioRecovery env nowMs

def takeReceivedFrame (r : EspIdfEspNowEncryptedRadio) :
    Option EspNowReceivedFrame × EspIdfEspNowEncryptedRadio :=
  match r.receivedFrames.pop with
  | (frame, receivedFrames) => (frame, { r with receivedFrames })

def takeSendCompletion (r : EspIdfEspNowEncryptedRadio) :
    Option EspNowSendCompletion × EspIdfEspNowEncryptedRadio :=
  match r.sendCompletions.pop with
  | (completion, sendCompletions) => (completion, { r with sendCompletions })

/-- The driver reports on the frame at a position of `inAir`. -/
def sendCallback (r : EspIdfEspNowEncryptedRadio) (position : Nat) (succeeded : Bool) :
    EspIdfEspNowEncryptedRadio :=
  match r.inAir[position]? with
  | none => r
  | some reported =>
    let r := { r with inAir := r.inAir.eraseIdx position }
    let index := r.peers.indexForAddress reported.address
    if ¬ r.attached ∨ index = invalidPeerIndex then r
    else
      { r with
        sendCompletions := (r.sendCompletions.push ⟨index, succeeded, reported.number⟩).2 }

def receiveCallback (r : EspIdfEspNowEncryptedRadio) (address : Vector UInt8 6)
    (data : List UInt8) : EspIdfEspNowEncryptedRadio :=
  let index := r.peers.indexForAddress address
  match BoundedBytes.assign data with
  | (false, _) => r
  | (true, frame) =>
    if ¬ r.attached ∨ frame.isEmpty ∨ index = invalidPeerIndex then r
    else { r with receivedFrames := (r.receivedFrames.push ⟨index, frame⟩).2 }

/-- The transmissions whose completion is still to come, in the driver or in the queue, each
    with the peer its completion names. -/
def outstanding (r : EspIdfEspNowEncryptedRadio) : List (Nat × PeerIndex) :=
  r.inAir.map (fun frame => (frame.number, r.peers.indexForAddress frame.address)) ++
    r.sendCompletions.contents.map (fun completion => (completion.frame, completion.peerIndex))

end EspIdfEspNowEncryptedRadio

end EspNowNet
