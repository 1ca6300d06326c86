import EspNowNet.PeerConfiguration
import EspNowNet.RadioHistory

/- The peers in the driver's own table. Initialisation installs them all or is undone; a refresh
   takes one out and puts it back, and either step may fail. -/
namespace EspNowNet

/-- The part of the radio that says which peers the driver has, and which will be restored. -/
structure PeerTable where
  peers : PeerRegistry
  initialized : Bool
  driverPeers : PeerIndex → Bool
  peerRefreshPending : PeerIndex → Bool

/-- A configured peer is in the driver's table, or its refresh is pending. -/
def PeerTable.Covered (t : PeerTable) : Prop :=
  t.initialized = true → ∀ index peer, t.peers.peer index = some peer →
    t.driverPeers index = true ∨ t.peerRefreshPending index = true

theorem PeerTable.covered_uninitialized {t : PeerTable} (idle : t.initialized = false) :
    t.Covered := by
  intro initialized
  rw [idle] at initialized
  cases initialized

namespace EspIdfEspNowEncryptedRadio

def table (r : EspIdfEspNowEncryptedRadio) : PeerTable :=
  ⟨r.peers, r.initialized, r.driverPeers, r.peerRefreshPending⟩

variable {r : EspIdfEspNowEncryptedRadio} {env : RadioEnvironment} {index : PeerIndex}
  {nowMs : UInt32}

/- Arbitration and scheduling leave the table alone -/

theorem table_scheduleRadioRecovery : (r.scheduleRadioRecovery env nowMs).table = r.table := by
  obtain ⟨pending, dueMs, same⟩ := scheduleRadioRecovery_eq r env nowMs
  rw [same]
  rfl

theorem table_arbitrate : (r.arbitrate env nowMs).table = r.table := by
  unfold arbitrate
  obtain ⟨wifi, channelStable, processed⟩ := processWifiArbitration_eq
    ({ r with lastChannelPollMs := nowMs }.observeWifiAssociation env nowMs) env nowMs
  obtain ⟨wifi', pending, dueMs, observed⟩ :=
    observeWifiAssociation_eq { r with lastChannelPollMs := nowMs } env nowMs
  rw [processed, observed]
  rfl

/- Initialisation -/

theorem addConfiguredPeer_added {r' : EspIdfEspNowEncryptedRadio}
    (run : r.addConfiguredPeer env index = (true, r')) :
    r'.table = { r.table with driverPeers := Function.update r.driverPeers index true } := by
  unfold addConfiguredPeer at run
  split at run
  · cases run
  · obtain ⟨-, rfl⟩ := Prod.mk.inj run
    rfl

/-- A run of additions that all succeed leaves every one of them in the table. -/
theorem addConfiguredPeers_added {indices : List PeerIndex} {r' : EspIdfEspNowEncryptedRadio}
    (run : r.addConfiguredPeers env indices = (true, r')) :
    r'.peers = r.peers ∧ r'.peerRefreshPending = r.peerRefreshPending ∧
      ∀ index, r.driverPeers index = true ∨ index ∈ indices → r'.driverPeers index = true := by
  induction indices generalizing r with
  | nil =>
    obtain ⟨-, rfl⟩ := Prod.mk.inj run
    refine ⟨rfl, rfl, ?_⟩
    intro index held
    exact held.resolve_right List.not_mem_nil
  | cons first rest hyp =>
    unfold addConfiguredPeers at run
    split at run
    · rename_i between added
      have step := addConfiguredPeer_added added
      obtain ⟨peers, pending, driver⟩ := hyp run
      refine ⟨peers.trans (congrArg PeerTable.peers step),
        pending.trans (congrArg PeerTable.peerRefreshPending step), ?_⟩
      intro index held
      apply driver
      rw [show between.driverPeers = _ from congrArg PeerTable.driverPeers step]
      by_cases own : index = first
      · left
        rw [own]
        exact Function.update_self ..
      · rcases held with held | member
        · left
          exact (Function.update_of_ne own ..).trans held
        · right
          exact (List.mem_cons.mp member).resolve_left own
    · cases run

theorem mem_indices {peers : PeerRegistry} {peer : PeerIdentity}
    (found : peers.peer index = some peer) :
    index ∈ (List.range peers.size).map UInt8.ofNat := by
  obtain ⟨inside, _⟩ := List.getElem?_eq_some_iff.mp found
  exact List.mem_map.mpr ⟨index.toNat, List.mem_range.mpr inside, UInt8.ofNat_toNat⟩

/-- Initialisation gets as far as installing every peer, or the radio is not initialised. -/
theorem covered_initializeRadio (covered : r.table.Covered) :
    (r.initializeRadio env).table.Covered := by
  unfold initializeRadio
  split
  · exact covered
  · simp only
    split
    · exact PeerTable.covered_uninitialized rfl
    · split
      · exact PeerTable.covered_uninitialized rfl
      · rename_i run
        obtain ⟨peers, _, driver⟩ := addConfiguredPeers_added run
        intro _ index peer found
        left
        apply driver
        right
        rw [peers] at found
        exact mem_indices found

/- Refresh -/

/-- What a refresh of one peer may do to the table: others keep their place, and if it succeeds
    the peer has its own. -/
structure Refreshed (r : EspIdfEspNowEncryptedRadio) (index : PeerIndex) (succeeded : Bool)
    (r' : EspIdfEspNowEncryptedRadio) : Prop where
  peers : r'.peers = r.peers
  initialized : r'.initialized = r.initialized
  pending : r'.peerRefreshPending = r.peerRefreshPending
  others : ∀ other, other ≠ index → r'.driverPeers other = r.driverPeers other
  own : succeeded = true → r'.driverPeers index = true

theorem refreshed_refreshPeer :
    Refreshed r index (r.refreshPeer env index nowMs).1 (r.refreshPeer env index nowMs).2 := by
  have failed {r' : EspIdfEspNowEncryptedRadio} (same : r'.table = r.table) :
      Refreshed r index false r' := by
    obtain ⟨peers, initialized, driver, pending⟩ := PeerTable.mk.inj same
    exact ⟨peers, initialized, pending, fun other _ => congrFun driver other,
      fun done => by cases done⟩
  unfold refreshPeer
  split
  · exact failed rfl
  · simp only
    split
    · exact failed rfl
    · -- the peer is out of the table until the driver takes it back
      unfold addConfiguredPeer
      split
      · refine ⟨rfl, rfl, rfl, ?_, fun done => by cases done⟩
        intro other apart
        exact Function.update_of_ne apart ..
      · refine ⟨rfl, rfl, rfl, ?_, fun _ => Function.update_self ..⟩
        intro other apart
        exact (Function.update_of_ne apart ..).trans (Function.update_of_ne apart ..)

theorem covered_processPeerRefresh (covered : r.table.Covered) :
    (r.processPeerRefresh env nowMs).table.Covered := by
  unfold processPeerRefresh
  split
  · exact covered
  · rename_i index due
    let cleared : EspIdfEspNowEncryptedRadio :=
      { r with peerRefreshPending := Function.update r.peerRefreshPending index false }
    have refreshed := @refreshed_refreshPeer cleared env index nowMs
    have others {r' : EspIdfEspNowEncryptedRadio} {succeeded : Bool}
        (refreshed : Refreshed cleared index succeeded r') (initialized : r'.initialized = true)
        {other : PeerIndex} {peer : PeerIdentity} (found : r'.peers.peer other = some peer)
        (apart : other ≠ index) :
        r'.driverPeers other = true ∨ r'.peerRefreshPending other = true := by
      rw [refreshed.others other apart, refreshed.pending]
      rw [refreshed.initialized] at initialized
      rw [refreshed.peers] at found
      change _ ∨ Function.update r.peerRefreshPending index false other = true
      rw [Function.update_of_ne apart]
      exact covered initialized other peer found
    simp only
    split
    · rename_i next run
      rw [run] at refreshed
      intro initialized other peer found
      by_cases own : other = index
      · left
        rw [own]
        exact refreshed.own rfl
      · exact others refreshed initialized found own
    · rename_i next run
      rw [run] at refreshed
      intro initialized other peer found
      by_cases own : other = index
      · right
        rw [own]
        exact Function.update_self ..
      · apply (others refreshed initialized found own).imp id
        exact (Function.update_of_ne own ..).trans

/- The loop -/

theorem initialized_of_restarted (ran : (r.processRadioRecovery env nowMs).1 = true) :
    (r.processRadioRecovery env nowMs).2.initialized = false :=
  congrArg View.initialized (restarted_view r env nowMs ran).2

theorem covered_listen (covered : r.table.Covered) : (r.listen env nowMs).table.Covered := by
  unfold listen
  split
  · exact covered
  · rename_i primary _
    let listening : EspIdfEspNowEncryptedRadio :=
      { r with currentChannel := primary, channelMatches := primary = r.expectedChannel }
    simp only
    split
    · split
      · rw [table_scheduleRadioRecovery]
        exact covered
      · exact covered
    split
    · exact covered
    split
    · exact covered
    split
    · rename_i next run
      apply PeerTable.covered_uninitialized
      have restarted := initialized_of_restarted (r := listening) (congrArg Prod.fst run)
      rwa [run] at restarted
    · rename_i next run
      have idle := idle_recovery listening env nowMs (congrArg Prod.fst run)
      obtain ⟨-, rfl⟩ := Prod.mk.inj (run.symm.trans idle)
      split
      · exact covered_processPeerRefresh covered
      split
      · exact covered
      · exact covered_initializeRadio covered

theorem covered_loop (covered : r.table.Covered) : (r.loop env nowMs).table.Covered := by
  rw [loop_eq]
  split
  · exact covered
  · apply covered_listen
    rw [table_arbitrate]
    exact covered

/- The calls of the application -/

theorem covered_requestPeerRefresh (covered : r.table.Covered) :
    (r.requestPeerRefresh index).table.Covered := by
  unfold requestPeerRefresh
  split
  · exact covered
  · intro initialized other peer found
    apply (covered initialized other peer found).imp id
    intro pending
    change Function.update r.peerRefreshPending index true other = true
    by_cases own : other = index
    · rw [own]
      exact Function.update_self ..
    · rwa [Function.update_of_ne own]

/-- Once the driver has been given the peers, no peer is added. -/
theorem covered_addPeer {destinationId address lmkHex : List UInt8} (covered : r.table.Covered) :
    (r.addPeer destinationId address lmkHex).2.table.Covered := by
  unfold addPeer
  split
  · exact covered
  · rename_i unready
    have idle : r.initialized = false := by
      rw [Bool.eq_false_iff]
      exact fun initialized => unready (Or.inr (Or.inl initialized))
    split
    · split
      · exact covered
      · exact PeerTable.covered_uninitialized idle
    · exact covered

end EspIdfEspNowEncryptedRadio

/- Runs -/

inductive RadioOperation where
  | configure (channel : UInt8) (pmkHex : List UInt8)
  | addPeer (destinationId address lmkHex : List UInt8)
  | call (elapsedMs : Nat) (made : RadioCall)

namespace RadioRun
open EspIdfEspNowEncryptedRadio

def operate (s : RadioRun) : RadioOperation → RadioRun
  | .configure channel pmkHex =>
    { s with radio := (PeerSetup.configure { radio := s.radio } channel pmkHex).2.radio }
  | .addPeer destinationId address lmkHex =>
    { s with radio := (s.radio.addPeer destinationId address lmkHex).2 }
  | .call elapsedMs made => (s.wait elapsedMs).call made

def operations (s : RadioRun) (made : List RadioOperation) : RadioRun := made.foldl operate s

/-- A radio as it is constructed. -/
def constructed (instant : Nat) : RadioRun := { radio := {}, instant }

theorem covered_call (s : RadioRun) (made : RadioCall) (covered : s.radio.table.Covered) :
    (s.call made).radio.table.Covered := by
  cases made with
  | loop env => exact covered_loop covered
  | setRecoveryPermitted permitted => exact covered
  | takeReceivedFrame => exact covered
  | takeSendCompletion => exact covered
  | requestPeerRefresh index => exact covered_requestPeerRefresh covered
  | requestRadioRecovery env =>
    simp only [call, requestRadioRecovery]
    split
    · exact covered
    · rw [table_scheduleRadioRecovery]
      exact covered
  | sendFrame index data accepted =>
    simp only [call, sendFrame]
    split
    · exact covered
    · split <;> exact covered
  | sendCallback position succeeded =>
    simp only [call, sendCallback]
    split
    · exact covered
    · split <;> exact covered
  | receiveCallback address data =>
    simp only [call, receiveCallback]
    split
    · exact covered
    · split <;> exact covered

theorem covered_operate (s : RadioRun) (made : RadioOperation) (covered : s.radio.table.Covered) :
    (s.operate made).radio.table.Covered := by
  cases made with
  | configure channel pmkHex =>
    simp only [operate, PeerSetup.configure]
    split
    · exact covered
    · split <;> exact covered
  | addPeer destinationId address lmkHex => exact covered_addPeer covered
  | call elapsedMs made => exact covered_call (s.wait elapsedMs) made covered

theorem covered_operations (s : RadioRun) (made : List RadioOperation)
    (covered : s.radio.table.Covered) : (s.operations made).radio.table.Covered := by
  induction made generalizing s with
  | nil => exact covered
  | cons first rest ih => exact ih _ (s.covered_operate first covered)

/-- However refreshes, initialisations and restarts fail, an initialised radio has each of its
    peers in the driver's table or pending. -/
theorem missing_peers_are_pending (instant : Nat) (made : List RadioOperation) :
    let r := ((constructed instant).operations made).radio
    r.initialized = true → ∀ index peer, r.peers.peer index = some peer →
      r.driverPeers index = true ∨ r.peerRefreshPending index = true :=
  covered_operations _ made (PeerTable.covered_uninitialized rfl)

/-- The only peer is taken out of the table, and the driver refuses to take it back. -/
def refusedRefresh : List RadioOperation :=
  [.configure 1 (List.replicate 32 48),
    .addPeer [112] (utf8 "AA:BB:CC:DD:EE:01".toList) (List.replicate 32 48),
    .call 250 (.loop {}), .call 5000 (.loop {}), .call 0 (.requestPeerRefresh 0),
    .call 250 (.loop { peerAdded := fun _ => false })]

theorem missing_peers_are_pending_refused :
    let r := ((constructed 0).operations refusedRefresh).radio
    r.driverPeers 0 = false ∧ (r.driverPeers 0 = true ∨ r.peerRefreshPending 0 = true) := by
  have stored : (((constructed 0).operations refusedRefresh).radio.peers.peer 0).isSome = true := by
    decide +kernel
  obtain ⟨peer, found⟩ := Option.isSome_iff_exists.mp stored
  constructor
  · decide +kernel
  · exact missing_peers_are_pending 0 refusedRefresh (by decide +kernel) 0 peer found

end RadioRun

end EspNowNet
