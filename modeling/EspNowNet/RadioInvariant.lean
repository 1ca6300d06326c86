import EspNowNet.RadioEffects
import Mathlib.Data.List.Perm.Subperm

/- What the radio's own loop may do to its traffic: nothing, unless recovery is permitted.
   The frame numbers of the driver never repeat. -/
namespace EspNowNet
namespace EspIdfEspNowEncryptedRadio

/-- The frames in the air, the two queues and the peers are untouched. -/
structure SameTraffic (r r' : EspIdfEspNowEncryptedRadio) : Prop where
  peers : r'.peers = r.peers
  received : r'.receivedFrames = r.receivedFrames
  completions : r'.sendCompletions = r.sendCompletions
  inAir : r'.inAir = r.inAir
  transmitted : r'.transmitted = r.transmitted

/-- Nothing the driver callbacks depend on changes either. -/
structure Quiet (r r' : EspIdfEspNowEncryptedRadio) : Prop extends SameTraffic r r' where
  initialized : r'.initialized = r.initialized
  attached : r'.attached = r.attached
  permitted : r'.recovery.permitted = r.recovery.permitted

theorem Quiet.of_same {r r' : EspIdfEspNowEncryptedRadio}
    (same : (r'.peers, r'.receivedFrames, r'.sendCompletions, r'.inAir, r'.transmitted,
        r'.initialized, r'.attached, r'.recovery.permitted) =
      (r.peers, r.receivedFrames, r.sendCompletions, r.inAir, r.transmitted,
        r.initialized, r.attached, r.recovery.permitted)) : Quiet r r' := by
  simp only [Prod.mk.injEq] at same
  obtain ⟨peers, received, completions, inAir, transmitted, initialized, attached, permitted⟩ :=
    same
  exact ⟨⟨peers, received, completions, inAir, transmitted⟩, initialized, attached, permitted⟩

theorem Quiet.refl (r : EspIdfEspNowEncryptedRadio) : Quiet r r := .of_same rfl

theorem Quiet.trans {r s t : EspIdfEspNowEncryptedRadio} (first : Quiet r s) (second : Quiet s t) :
    Quiet r t :=
  ⟨⟨second.peers.trans first.peers, second.received.trans first.received,
      second.completions.trans first.completions, second.inAir.trans first.inAir,
      second.transmitted.trans first.transmitted⟩,
    second.initialized.trans first.initialized, second.attached.trans first.attached,
    second.permitted.trans first.permitted⟩

theorem quiet_scheduleRadioRecovery (r : EspIdfEspNowEncryptedRadio) (env : RadioEnvironment)
    (nowMs : UInt32) : Quiet r (r.scheduleRadioRecovery env nowMs) := by
  obtain ⟨pending, dueMs, same⟩ := scheduleRadioRecovery_eq r env nowMs
  rw [same]
  exact .of_same rfl

theorem quiet_observeWifiAssociation (r : EspIdfEspNowEncryptedRadio) (env : RadioEnvironment)
    (nowMs : UInt32) : Quiet r (r.observeWifiAssociation env nowMs) := by
  obtain ⟨wifi, pending, dueMs, same⟩ := observeWifiAssociation_eq r env nowMs
  rw [same]
  exact .of_same rfl

theorem quiet_processWifiArbitration (r : EspIdfEspNowEncryptedRadio) (env : RadioEnvironment)
    (nowMs : UInt32) : Quiet r (r.processWifiArbitration env nowMs) := by
  obtain ⟨wifi, channelStable, same⟩ := processWifiArbitration_eq r env nowMs
  rw [same]
  exact .of_same rfl

theorem quiet_processPeerRefresh (r : EspIdfEspNowEncryptedRadio) (env : RadioEnvironment)
    (nowMs : UInt32) : Quiet r (r.processPeerRefresh env nowMs) := by
  obtain ⟨lastMs, attempted, pending, driverPeers, same⟩ := processPeerRefresh_eq r env nowMs
  rw [same]
  exact .of_same rfl

theorem quiet_requestPeerRefresh (r : EspIdfEspNowEncryptedRadio) (index : PeerIndex) :
    Quiet r (r.requestPeerRefresh index) := by
  unfold requestPeerRefresh
  split
  · exact .refl r
  · exact .of_same rfl

theorem quiet_requestRadioRecovery (r : EspIdfEspNowEncryptedRadio) (env : RadioEnvironment)
    (nowMs : UInt32) : Quiet r (r.requestRadioRecovery env nowMs) := by
  unfold requestRadioRecovery
  split
  · exact .refl r
  · exact quiet_scheduleRadioRecovery r env nowMs

theorem receiveCallback_eq (r : EspIdfEspNowEncryptedRadio) (address : Vector UInt8 6)
    (data : List UInt8) :
    ∃ receivedFrames, r.receiveCallback address data = { r with receivedFrames } := by
  unfold receiveCallback
  simp only
  split
  · exact ⟨r.receivedFrames, rfl⟩
  · split
    · exact ⟨r.receivedFrames, rfl⟩
    · exact ⟨_, rfl⟩

theorem initializeRadio_effect (r : EspIdfEspNowEncryptedRadio) (env : RadioEnvironment)
    (off : r.initialized = false) : SameTraffic r (r.initializeRadio env) ∧
      ((r.initializeRadio env).initialized = true → (r.initializeRadio env).attached = true) := by
  rcases initializeRadio_eq r env with same | ⟨_, _, _, _, same, attached⟩
  · rw [same]
    exact ⟨⟨rfl, rfl, rfl, rfl, rfl⟩, by simp [off]⟩
  · rw [same]
    exact ⟨⟨rfl, rfl, rfl, rfl, rfl⟩, attached⟩

/-- A radio restart empties both queues; the frames in the air stay the driver's. -/
structure Restarted (r r' : EspIdfEspNowEncryptedRadio) : Prop where
  peers : r'.peers = r.peers
  inAir : r'.inAir = r.inAir
  transmitted : r'.transmitted = r.transmitted
  initialized : r'.initialized = false
  entries : r'.receivedFrames.entries = r.receivedFrames.entries
  queued : r'.sendCompletions.contents = []

theorem processRadioRecovery_cases (r : EspIdfEspNowEncryptedRadio) (env : RadioEnvironment)
    (nowMs : UInt32) : r.processRadioRecovery env nowMs = (false, r) ∨
      (r.recovery.permitted = true ∧ (r.processRadioRecovery env nowMs).1 = true ∧
        Restarted r (r.processRadioRecovery env nowMs).2) := by
  unfold processRadioRecovery
  split
  · exact Or.inl rfl
  · rename_i due
    simp only [not_or, Bool.not_eq_true, Bool.not_eq_false] at due
    split
    · exact Or.inl rfl
    · refine Or.inr ⟨due.2.1, rfl, ⟨rfl, rfl, rfl, rfl, ?_, ?_⟩⟩
      · exact EspNowSpscQueue.discard_entries _
      · exact EspNowSpscQueue.discard_all (by decide) _ (le_refl _)

/-- One poll: the traffic is untouched and an initialized radio stays so, or recovery was
    permitted and the radio restarted. -/
theorem loop_cases (r : EspIdfEspNowEncryptedRadio) (env : RadioEnvironment) (nowMs : UInt32) :
    (SameTraffic r (r.loop env nowMs) ∧
      (r.initialized = true → (r.loop env nowMs).initialized = true) ∧
      ((r.initialized = true → r.attached = true) →
        (r.loop env nowMs).initialized = true → (r.loop env nowMs).attached = true)) ∨
      (r.recovery.permitted = true ∧ Restarted r (r.loop env nowMs)) := by
  have settled {r' : EspIdfEspNowEncryptedRadio} (quiet : Quiet r r') :
      SameTraffic r r' ∧ (r.initialized = true → r'.initialized = true) ∧
        ((r.initialized = true → r.attached = true) → r'.initialized = true → r'.attached = true) :=
    ⟨quiet.toSameTraffic, by rw [quiet.initialized]; exact id,
      by rw [quiet.initialized, quiet.attached]; exact id⟩
  unfold loop
  split
  · exact Or.inl (settled (.refl r))
  · have polling : Quiet r { r with lastChannelPollMs := nowMs } :=
      .of_same rfl
    have observed := (polling.trans (quiet_observeWifiAssociation _ env nowMs)).trans
      (quiet_processWifiArbitration _ env nowMs)
    simp only
    generalize ({ r with lastChannelPollMs := nowMs }.observeWifiAssociation env
      nowMs).processWifiArbitration env nowMs = polled at observed
    have channel (currentChannel : UInt8) (channelMatches channelStable : Bool)
        (channelStableSinceMs : UInt32) : Quiet r { polled with
          currentChannel, channelMatches, channelStable, channelStableSinceMs } :=
      observed.trans (.of_same rfl)
    split
    · exact Or.inl (settled (observed.trans (.of_same rfl)))
    · split
      · split
        · exact Or.inl (settled ((channel _ _ _ _).trans (quiet_scheduleRadioRecovery _ _ _)))
        · exact Or.inl (settled (channel _ _ _ _))
      · split
        · exact Or.inl (settled (channel _ _ _ _))
        · split
          · exact Or.inl (settled (channel _ _ _ _))
          · rename_i primary _ _ _ _
            have listening := channel primary (decide (primary = polled.expectedChannel))
              polled.channelStable polled.channelStableSinceMs
            rcases processRadioRecovery_cases { polled with
              currentChannel := primary
              channelMatches := decide (primary = polled.expectedChannel) } env nowMs with
              same | ⟨permitted, ran, restarted⟩
            · rw [same]
              simp only
              split
              · exact Or.inl (settled (listening.trans (quiet_processPeerRefresh _ _ _)))
              · rename_i off
                split
                · exact Or.inl (settled listening)
                · obtain ⟨traffic, sound⟩ := initializeRadio_effect { polled with
                    currentChannel := primary
                    channelMatches := decide (primary = polled.expectedChannel)
                    lastInitializationAttemptMs := nowMs } env (by simpa using off)
                  refine Or.inl ⟨⟨traffic.peers.trans listening.peers,
                    traffic.received.trans listening.received,
                    traffic.completions.trans listening.completions,
                    traffic.inAir.trans listening.inAir,
                    traffic.transmitted.trans listening.transmitted⟩, fun on => ?_, fun _ => sound⟩
                  rw [← observed.initialized] at on
                  exact absurd on off
            · have split : ({ polled with
                  currentChannel := primary
                  channelMatches := decide (primary = polled.expectedChannel) } :
                    EspIdfEspNowEncryptedRadio).processRadioRecovery env nowMs = (true, _) :=
                Prod.ext ran rfl
              rw [split]
              refine Or.inr ⟨by rw [← observed.permitted]; exact permitted, ?_⟩
              exact ⟨restarted.peers.trans listening.peers, restarted.inAir.trans listening.inAir,
                restarted.transmitted.trans listening.transmitted, restarted.initialized,
                restarted.entries.trans (congrArg _ listening.received), restarted.queued⟩

theorem SameTraffic.outstanding {r r' : EspIdfEspNowEncryptedRadio} (same : SameTraffic r r') :
    r'.outstanding = r.outstanding := by
  simp only [EspIdfEspNowEncryptedRadio.outstanding, same.peers, same.inAir, same.completions]

theorem Restarted.outstanding {r r' : EspIdfEspNowEncryptedRadio} (restarted : Restarted r r') :
    r'.outstanding.Subperm r.outstanding := by
  simp only [EspIdfEspNowEncryptedRadio.outstanding, restarted.peers, restarted.inAir,
    restarted.queued, List.map_nil, List.append_nil]
  exact (List.sublist_append_left _ _).subperm

theorem sendFrame_true {r r' : EspIdfEspNowEncryptedRadio} {index : PeerIndex} {data : List UInt8}
    {accepted : Bool} (run : r.sendFrame index data accepted = (true, r')) :
    r.initialized = true ∧ ∃ peer, r.peers.peer index = some peer ∧
      r' = { r with
        inAir := r.inAir ++ [⟨r.transmitted, peer.address⟩], transmitted := r.transmitted + 1 } := by
  unfold sendFrame at run
  split at run
  · simp at run
  · rename_i peer found
    split at run
    · simp at run
    · rename_i permitted
      simp only [not_or, Bool.not_eq_true, Bool.not_eq_false] at permitted
      exact ⟨permitted.1, peer, found, by simpa using run.symm⟩

theorem takeSendCompletion_some {r r' : EspIdfEspNowEncryptedRadio}
    {completion : EspNowSendCompletion} (run : r.takeSendCompletion = (some completion, r')) :
    ∃ sendCompletions, r' = { r with sendCompletions } ∧
      r.sendCompletions.contents = completion :: sendCompletions.contents := by
  unfold takeSendCompletion at run
  cases popped : r.sendCompletions.pop with
  | mk value rest =>
    simp only [popped, Prod.mk.injEq] at run
    obtain ⟨rfl, rfl⟩ := run
    exact ⟨rest, rfl, EspNowSpscQueue.pop_some (by decide) popped⟩

theorem takeReceivedFrame_some {r r' : EspIdfEspNowEncryptedRadio} {received : EspNowReceivedFrame}
    (run : r.takeReceivedFrame = (some received, r')) :
    received ∈ r.receivedFrames.entries ∧ ∃ receivedFrames, r' = { r with receivedFrames } ∧
      receivedFrames.entries = r.receivedFrames.entries := by
  unfold takeReceivedFrame at run
  cases popped : r.receivedFrames.pop with
  | mk value rest =>
    simp only [popped, Prod.mk.injEq] at run
    obtain ⟨rfl, rfl⟩ := run
    obtain ⟨member, same⟩ := EspNowSpscQueue.pop_mem_entries (by decide) popped
    exact ⟨member, rest, rfl, same⟩

/-- The driver reports a frame: nothing happens, or its completion enters the queue unless
    the queue is full or nobody is there to take it. -/
theorem sendCallback_cases (r : EspIdfEspNowEncryptedRadio) (position : Nat) (succeeded : Bool) :
    (r.inAir[position]? = none ∧ r.sendCallback position succeeded = r) ∨
      ∃ reported, r.inAir[position]? = some reported ∧ ∃ sendCompletions,
        r.sendCallback position succeeded =
          { r with inAir := r.inAir.eraseIdx position, sendCompletions } ∧
        (sendCompletions.contents = r.sendCompletions.contents ++
            [⟨r.peers.indexForAddress reported.address, succeeded, reported.number⟩] ∨
          sendCompletions = r.sendCompletions ∧
            (r.attached = false ∨ r.peers.indexForAddress reported.address = invalidPeerIndex ∨
              r.sendCompletions.size = sendCompletionQueueCapacity)) := by
  unfold sendCallback
  cases found : r.inAir[position]? with
  | none => exact Or.inl ⟨rfl, rfl⟩
  | some reported =>
    refine Or.inr ⟨reported, rfl, ?_⟩
    simp only
    split
    · rename_i absent
      refine ⟨r.sendCompletions, rfl, Or.inr ⟨rfl, ?_⟩⟩
      rcases absent with detached | unknown
      · exact Or.inl (by simpa using detached)
      · exact Or.inr (Or.inl unknown)
    · cases pushed : r.sendCompletions.push
        ⟨r.peers.indexForAddress reported.address, succeeded, reported.number⟩ with
      | mk done queue =>
        refine ⟨queue, rfl, ?_⟩
        cases done
        · obtain ⟨rfl, full⟩ := EspNowSpscQueue.push_false pushed
          exact Or.inr ⟨rfl, Or.inr (Or.inr full)⟩
        · exact Or.inl (EspNowSpscQueue.push_true (by decide) (by decide) pushed)

theorem outstanding_sendFrame {r r' : EspIdfEspNowEncryptedRadio} {index : PeerIndex}
    {data : List UInt8} {accepted : Bool} (run : r.sendFrame index data accepted = (true, r')) :
    r'.outstanding.Perm ((r.transmitted, index) :: r.outstanding) ∧
      index ≠ invalidPeerIndex := by
  obtain ⟨_, peer, found, rfl⟩ := sendFrame_true run
  refine ⟨?_, PeerRegistry.peer_ne_invalid found⟩
  simp only [outstanding, List.map_append, List.map_cons, List.map_nil,
    PeerRegistry.indexForAddress_peer found, List.append_assoc, List.cons_append, List.nil_append]
  exact List.perm_middle

theorem outstanding_takeSendCompletion {r r' : EspIdfEspNowEncryptedRadio}
    {completion : EspNowSendCompletion} (run : r.takeSendCompletion = (some completion, r')) :
    r.outstanding.Perm ((completion.frame, completion.peerIndex) :: r'.outstanding) := by
  obtain ⟨queue, rfl, contents⟩ := takeSendCompletion_some run
  simp only [outstanding, contents, List.map_cons]
  exact List.perm_middle

/-- Reporting a frame moves it from the air to the queue, or loses it where the queue is full
    or nobody is there to take it. -/
theorem outstanding_sendCallback (r : EspIdfEspNowEncryptedRadio) (position : Nat)
    (succeeded : Bool) :
    (r.sendCallback position succeeded).outstanding.Perm r.outstanding ∨
      ∃ reported, r.inAir[position]? = some reported ∧
        r.outstanding.Perm ((reported.number, r.peers.indexForAddress reported.address) ::
          (r.sendCallback position succeeded).outstanding) ∧
        (r.attached = false ∨ r.peers.indexForAddress reported.address = invalidPeerIndex ∨
          r.sendCompletions.size = sendCompletionQueueCapacity) := by
  rcases sendCallback_cases r position succeeded with
    ⟨_, same⟩ | ⟨reported, found, queue, same, queued⟩
  · exact Or.inl (by rw [same])
  · obtain ⟨inside, rfl⟩ := List.getElem?_eq_some_iff.mp found
    have taken := ((List.getElem_cons_eraseIdx_perm inside).map
      fun frame => (frame.number, r.peers.indexForAddress frame.address)).append_right
        (r.sendCompletions.contents.map fun c => (c.frame, c.peerIndex))
    rw [same]
    rcases queued with moved | ⟨rfl, lost⟩
    · refine Or.inl ?_
      simp only [outstanding, moved, List.map_append, List.map_cons, List.map_nil]
      refine List.Perm.trans ?_ taken
      rw [← List.append_assoc, List.map_cons, List.cons_append]
      exact List.perm_append_singleton _ _
    · exact Or.inr ⟨_, found, taken.symm, lost⟩

theorem subperm_sendCallback (r : EspIdfEspNowEncryptedRadio) (position : Nat)
    (succeeded : Bool) : (r.sendCallback position succeeded).outstanding.Subperm r.outstanding := by
  rcases outstanding_sendCallback r position succeeded with moved | ⟨_, _, lost, _⟩
  · exact moved.subperm
  · exact ((List.sublist_cons_self _ _).subperm).trans lost.symm.subperm

theorem outstanding_discard (r : EspIdfEspNowEncryptedRadio)
    (receivedFrames : EspNowSpscQueue EspNowReceivedFrame 3) (limit : Nat) :
    ({ r with receivedFrames, sendCompletions := r.sendCompletions.discard limit }).outstanding.Subperm
      r.outstanding := by
  have dropped := (EspNowSpscQueue.discard_suffix (q := r.sendCompletions) (by decide) limit).sublist
  exact ((List.Sublist.refl _).append (dropped.map _)).subperm

end EspIdfEspNowEncryptedRadio
end EspNowNet
