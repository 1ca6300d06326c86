import EspNowNet.Radio

/- Which fields each function of the radio may write. What depends on other fields is kept. -/
namespace EspNowNet.EspIdfEspNowEncryptedRadio

/- Arbitration and recovery -/

theorem scheduleRadioRecovery_eq (r : EspIdfEspNowEncryptedRadio) (env : RadioEnvironment)
    (nowMs : UInt32) : ∃ pending dueMs, r.scheduleRadioRecovery env nowMs =
      { r with recovery := { r.recovery with pending, dueMs } } := by
  unfold scheduleRadioRecovery
  split
  · exact ⟨r.recovery.pending, r.recovery.dueMs, rfl⟩
  · exact ⟨true, _, rfl⟩

theorem scheduleWifiArbitrationGrace_eq (r : EspIdfEspNowEncryptedRadio) (env : RadioEnvironment)
    (nowMs : UInt32) : ∃ wifi, r.scheduleWifiArbitrationGrace env nowMs = { r with wifi } := by
  unfold scheduleWifiArbitrationGrace
  simp only
  split
  · exact ⟨_, rfl⟩
  · exact ⟨_, rfl⟩

/-- Observing the association touches the arbitration and the schedule of the recovery. -/
theorem observeWifiAssociation_eq (r : EspIdfEspNowEncryptedRadio) (env : RadioEnvironment)
    (nowMs : UInt32) : ∃ wifi pending dueMs, r.observeWifiAssociation env nowMs =
      { r with wifi, recovery := { r.recovery with pending, dueMs } } := by
  unfold observeWifiAssociation
  split
  · simp only
    split
    · obtain ⟨wifi, graced⟩ := scheduleWifiArbitrationGrace_eq { r with
        wifi := { r.wifi with associationKnown := true, associated := env.associated } } env nowMs
      exact ⟨wifi, r.recovery.pending, r.recovery.dueMs, graced⟩
    · exact ⟨_, r.recovery.pending, r.recovery.dueMs, rfl⟩
  · split
    · exact ⟨r.wifi, r.recovery.pending, r.recovery.dueMs, rfl⟩
    · simp only
      let turned : EspIdfEspNowEncryptedRadio :=
        { r with wifi := { r.wifi with associated := env.associated } }
      have observed : ∃ wifi, (if env.associated then
          { turned.releaseWifiReconnectSuppression with
            wifi := { turned.releaseWifiReconnectSuppression.wifi with
              state := .monitoring, dueMs := 0 } }
        else turned.scheduleWifiArbitrationGrace env nowMs) = { r with wifi } := by
        split
        · exact ⟨_, rfl⟩
        · exact scheduleWifiArbitrationGrace_eq turned env nowMs
      obtain ⟨wifi, observed⟩ := observed
      rw [observed]
      split
      · exact ⟨wifi, r.recovery.pending, r.recovery.dueMs, rfl⟩
      · obtain ⟨pending, dueMs, scheduled⟩ := scheduleRadioRecovery_eq { r with wifi } env nowMs
        exact ⟨wifi, pending, dueMs, scheduled⟩

/-- The arbitration touches nothing outside of it but the stability of the channel. -/
theorem processWifiArbitration_eq (r : EspIdfEspNowEncryptedRadio) (env : RadioEnvironment)
    (nowMs : UInt32) : ∃ wifi channelStable,
      r.processWifiArbitration env nowMs = { r with wifi, channelStable } := by
  unfold processWifiArbitration
  split
  · exact ⟨_, r.channelStable, rfl⟩
  split
  · exact ⟨r.wifi, r.channelStable, rfl⟩
  split
  · exact ⟨_, false, rfl⟩
  split
  · exact ⟨r.wifi, r.channelStable, rfl⟩
  have requested (dueMs : UInt32) : ∃ wifi channelStable,
      (if env.suppressionAccepted then
        { r with wifi := { r.wifi with suppressionHeld := true, state := .requesting, dueMs } }
      else { r with wifi := { r.wifi with dueMs } }) = { r with wifi, channelStable } := by
    split
    · exact ⟨_, r.channelStable, rfl⟩
    · exact ⟨_, r.channelStable, rfl⟩
  cases r.wifi.state with
  | monitoring =>
    obtain ⟨wifi, graced⟩ := scheduleWifiArbitrationGrace_eq r env nowMs
    exact ⟨wifi, r.channelStable, graced⟩
  | grace => exact requested _
  | reconnectWindow => exact requested _
  | requesting => exact ⟨_, r.channelStable, rfl⟩
  | suppressed => exact ⟨_, r.channelStable, rfl⟩

/- Peers -/

theorem addConfiguredPeer_eq (r : EspIdfEspNowEncryptedRadio) (env : RadioEnvironment)
    (index : PeerIndex) :
    ∃ driverPeers, (r.addConfiguredPeer env index).2 = { r with driverPeers } := by
  unfold addConfiguredPeer
  split
  · exact ⟨r.driverPeers, rfl⟩
  · exact ⟨_, rfl⟩

theorem addConfiguredPeers_eq (r : EspIdfEspNowEncryptedRadio) (env : RadioEnvironment)
    (indices : List PeerIndex) :
    ∃ driverPeers, (r.addConfiguredPeers env indices).2 = { r with driverPeers } := by
  induction indices generalizing r with
  | nil => exact ⟨r.driverPeers, rfl⟩
  | cons index rest hyp =>
    obtain ⟨driverPeers, first⟩ := addConfiguredPeer_eq r env index
    unfold addConfiguredPeers
    split
    · rename_i next run
      obtain rfl : next = { r with driverPeers } := by rwa [run] at first
      obtain ⟨later, others⟩ := hyp { r with driverPeers }
      exact ⟨later, others⟩
    · rename_i next run
      rw [run] at first
      exact ⟨driverPeers, first⟩

theorem refreshPeer_eq (r : EspIdfEspNowEncryptedRadio) (env : RadioEnvironment)
    (index : PeerIndex) (nowMs : UInt32) :
    ∃ peerRefreshLastMs peerRefreshAttempted driverPeers,
      (r.refreshPeer env index nowMs).2 =
        { r with peerRefreshLastMs, peerRefreshAttempted, driverPeers } := by
  unfold refreshPeer
  split
  · exact ⟨r.peerRefreshLastMs, r.peerRefreshAttempted, r.driverPeers, rfl⟩
  · simp only
    split
    · exact ⟨_, _, r.driverPeers, rfl⟩
    · obtain ⟨driverPeers, added⟩ := addConfiguredPeer_eq { r with
        peerRefreshLastMs := Function.update r.peerRefreshLastMs index nowMs
        peerRefreshAttempted := Function.update r.peerRefreshAttempted index true
        driverPeers := Function.update r.driverPeers index false } env index
      exact ⟨_, _, driverPeers, added⟩

/-- A refresh touches the driver's table and the four fields of its own. -/
theorem processPeerRefresh_eq (r : EspIdfEspNowEncryptedRadio) (env : RadioEnvironment)
    (nowMs : UInt32) :
    ∃ peerRefreshLastMs peerRefreshAttempted peerRefreshPending driverPeers,
      r.processPeerRefresh env nowMs =
        { r with peerRefreshLastMs, peerRefreshAttempted, peerRefreshPending, driverPeers } := by
  unfold processPeerRefresh
  split
  · exact ⟨r.peerRefreshLastMs, r.peerRefreshAttempted, r.peerRefreshPending, r.driverPeers, rfl⟩
  · rename_i index _
    obtain ⟨lastMs, attempted, driverPeers, refreshed⟩ := refreshPeer_eq { r with
      peerRefreshPending := Function.update r.peerRefreshPending index false } env index nowMs
    simp only
    split
    · rename_i next run
      rw [run] at refreshed
      exact ⟨lastMs, attempted, _, driverPeers, refreshed⟩
    · rename_i next run
      obtain rfl := (congrArg Prod.snd run).symm.trans refreshed
      exact ⟨lastMs, attempted, _, driverPeers, rfl⟩

/-- Initialisation touches the driver's table; a radio that it has initialised is attached. -/
theorem initializeRadio_eq (r : EspIdfEspNowEncryptedRadio) (env : RadioEnvironment) :
    r.initializeRadio env = r ∨ ∃ attached initialized inProgress driverPeers,
      r.initializeRadio env = { r with
        attached, initialized, recovery := { r.recovery with inProgress }, driverPeers } ∧
      (initialized = true → attached = true) := by
  unfold initializeRadio
  split
  · exact Or.inl rfl
  right
  simp only
  split
  · exact ⟨false, false, r.recovery.inProgress, _, rfl, id⟩
  obtain ⟨driverPeers, added⟩ := addConfiguredPeers_eq { r with attached := true } env
    ((List.range r.peers.size).map UInt8.ofNat)
  split
  · rename_i next run
    obtain rfl := (congrArg Prod.snd run).symm.trans added
    exact ⟨false, false, r.recovery.inProgress, _, rfl, id⟩
  · rename_i next run
    obtain rfl := (congrArg Prod.snd run).symm.trans added
    exact ⟨true, true, false, driverPeers, rfl, id⟩

end EspNowNet.EspIdfEspNowEncryptedRadio
