import EspNowNet.Library.Since
import EspNowNet.RadioSpacing

/- Refreshes of the peers in the driver's table. A peer is refreshed when that was requested or has
   failed, not too often, and never behind another peer for long. -/
namespace EspNowNet
open EspIdfEspNowEncryptedRadio GuardedInvariant TimedLog

inductive RefreshEvent where
  | requested (index : PeerIndex)
  | attempted (index : PeerIndex) (succeeded : Bool)
  | restarted
  deriving DecidableEq

abbrev RefreshRecord := TimedRecord RefreshEvent

namespace EspIdfEspNowEncryptedRadio

/-- The first peer whose refresh is due. -/
def firstDue (r : EspIdfEspNowEncryptedRadio) (nowMs : UInt32) : Option PeerIndex :=
  ((List.range r.peers.size).map UInt8.ofNat).find? (r.RefreshDue nowMs)

/-- What the driver makes of the refresh of a peer. -/
def refreshes (r : EspIdfEspNowEncryptedRadio) (env : RadioEnvironment) (nowMs : UInt32)
    (index : PeerIndex) : Bool :=
  ({ r with peerRefreshPending := Function.update r.peerRefreshPending index false }.refreshPeer
    env index nowMs).1

/-- A poll gets as far as refreshing a peer: the radio is up on its settled channel and need not
    be restarted. -/
def Refreshing (r : EspIdfEspNowEncryptedRadio) (env : RadioEnvironment) (nowMs : UInt32) : Prop :=
  env.channel = some r.expectedChannel ∧ r.channelStable = true ∧
    channelStabilizationMs ≤ nowMs - r.channelStableSinceMs ∧
    (r.processRadioRecovery env nowMs).1 = false ∧ r.initialized = true

instance decidableRefreshing (r : EspIdfEspNowEncryptedRadio) (env : RadioEnvironment)
    (nowMs : UInt32) : Decidable (r.Refreshing env nowMs) :=
  inferInstanceAs (Decidable (_ ∧ _ ∧ _ ∧ _ ∧ _))

def listenRefreshes (r : EspIdfEspNowEncryptedRadio) (env : RadioEnvironment) (nowMs : UInt32) :
    List RefreshEvent :=
  if .restarted ∈ r.listenActions env nowMs then [.restarted]
  else if r.Refreshing env nowMs then
    match r.firstDue nowMs with
    | none => []
    | some index => [.attempted index (r.refreshes env nowMs index)]
  else []

def loopRefreshes (r : EspIdfEspNowEncryptedRadio) (env : RadioEnvironment) (nowMs : UInt32) :
    List RefreshEvent :=
  if r.Resting nowMs then [] else (r.arbitrate env nowMs).listenRefreshes env nowMs

end EspIdfEspNowEncryptedRadio

/-- A run of the radio with the log of its refreshes, newest first. -/
structure RefreshRun where
  run : RadioRun
  log : List RefreshRecord := []

namespace RefreshRun

def events (s : RefreshRun) : RadioCall → List RefreshEvent
  | .loop env => s.run.radio.loopRefreshes env s.run.nowMs
  | .requestPeerRefresh index =>
    if index.toNat ≥ s.run.radio.peers.size ∨ index ≥ 16 then [] else [.requested index]
  | .setRecoveryPermitted _ | .requestRadioRecovery _ | .sendFrame _ _ _ | .takeReceivedFrame
  | .takeSendCompletion | .sendCallback _ _ | .receiveCallback _ _ => []

def call (s : RefreshRun) (made : RadioCall) : RefreshRun where
  run := s.run.call made
  log := stamped s.run.instant (s.events made) ++ s.log

def wait (s : RefreshRun) (elapsedMs : Nat) : RefreshRun :=
  { s with run := s.run.wait elapsedMs }

def calls (s : RefreshRun) (made : List (Nat × RadioCall)) : RefreshRun :=
  made.foldl (fun s timed => (s.wait timed.1).call timed.2) s

def fresh (peers : PeerRegistry) (expectedChannel : UInt8) (configured : Bool) (instant : Nat) :
    RefreshRun :=
  { run := .fresh peers expectedChannel configured instant }

end RefreshRun

/- What the log says about a refresh -/

def RefreshRecord.Attempts (record : RefreshRecord) (index : PeerIndex) : Prop :=
  ∃ succeeded, record.event = .attempted index succeeded

/-- A refresh was requested or has failed, and since then none has succeeded and the radio was not
    restarted. -/
def Owed (index : PeerIndex) (log : List RefreshRecord) : Prop :=
  Since.Holds
    (fun _ record => record.event = .requested index ∨ record.event = .attempted index false)
    (fun record => record.event ≠ .attempted index true ∧ record.event ≠ .restarted) log

/-- The records since the radio was last restarted. -/
def epoch (log : List RefreshRecord) : List RefreshRecord :=
  log.takeWhile (·.event ≠ .restarted)

/-- What is attempted is owed; attempts for one peer are 30000 ms apart unless the radio is
    restarted in between, and any two 250 ms. -/
structure PacedFor (older : List RefreshRecord) (instant : Nat) (index : PeerIndex) : Prop where
  owed : Owed index older
  own : ∀ earlier ∈ epoch older, earlier.Attempts index →
    earlier.instant + peerRefreshCooldownMs.toNat ≤ instant
  any : ∀ earlier ∈ older, ∀ other, earlier.Attempts other →
    earlier.instant + channelPollIntervalMs.toNat ≤ instant

def Paced (older : List RefreshRecord) (record : RefreshRecord) : Prop :=
  ∀ index, record.Attempts index → PacedFor older record.instant index

/- The radio keeps to it -/

/-- The part of the radio that the refreshes live in. -/
structure RefreshView where
  pending : PeerIndex → Bool
  attempted : PeerIndex → Bool
  lastMs : PeerIndex → UInt32
  polledMs : UInt32

def EspIdfEspNowEncryptedRadio.refreshView (r : EspIdfEspNowEncryptedRadio) : RefreshView :=
  ⟨r.peerRefreshPending, r.peerRefreshAttempted, r.peerRefreshLastMs, r.lastChannelPollMs⟩

/-- The last attempt for a peer since the radio was restarted. -/
def LastAttempt (index : PeerIndex) (log : List RefreshRecord) (record : RefreshRecord) : Prop :=
  record ∈ epoch log ∧ record.Attempts index ∧
    ∀ other ∈ epoch log, other.Attempts index → other.instant ≤ record.instant

structure RefreshTold (v : RefreshView) (instant : Nat) (log : List RefreshRecord) : Prop where
  past : ∀ record ∈ log, record.instant ≤ instant
  pending : ∀ index, v.pending index = true ↔ Owed index log
  fresh : ∀ index, v.attempted index = false →
    ∀ record ∈ epoch log, ¬ record.Attempts index
  stamped : ∀ index, v.attempted index = true → ∃ record, LastAttempt index log record ∧
    v.lastMs index = UInt32.ofNat record.instant
  polled : ∀ record ∈ log, ∀ index, record.Attempts index →
    RadioRun.NotBefore v.polledMs instant record.instant
  each : Throughout Paced log

section Told
variable {v : RefreshView} {instant later : Nat} {log : List RefreshRecord} {index : PeerIndex}
  {record : RefreshRecord}

theorem epoch_cons (other : record.event ≠ .restarted) :
    epoch (record :: log) = record :: epoch log := by
  simp [epoch, other]

theorem epoch_restarted (own : record.event = .restarted) : epoch (record :: log) = [] := by
  simp [epoch, own]

theorem mem_of_epoch (member : record ∈ epoch log) : record ∈ log :=
  (List.takeWhile_sublist _).subset member

theorem epoch_append {newer : List RefreshRecord}
    (steady : ∀ record ∈ newer, record.event ≠ .restarted) :
    epoch (newer ++ log) = newer ++ epoch log := by
  unfold epoch
  apply List.takeWhile_append_of_pos
  intro record member
  simpa using steady record member

theorem owed_cons : Owed index (record :: log) ↔
    (record.event = .requested index ∨ record.event = .attempted index false) ∨
      (record.event ≠ .attempted index true ∧ record.event ≠ .restarted) ∧ Owed index log :=
  Since.holds_cons

theorem LastAttempt.aside {last : RefreshRecord} (before : LastAttempt index log last)
    (kept : epoch (record :: log) = record :: epoch log) (aside : ¬ record.Attempts index) :
    LastAttempt index (record :: log) last := by
  obtain ⟨member, own, latest⟩ := before
  refine ⟨?_, own, ?_⟩
  · rw [kept]
    exact List.mem_cons_of_mem _ member
  · intro other among attempts
    rw [kept] at among
    rcases List.mem_cons.mp among with rfl | old
    · exact absurd attempts aside
    · exact latest other old attempts

theorem LastAttempt.older {newer : List RefreshRecord} {last : RefreshRecord}
    (after : LastAttempt index (newer ++ log) last)
    (aside : ∀ record ∈ newer, record.event ≠ .restarted ∧ ¬ record.Attempts index) :
    LastAttempt index log last := by
  obtain ⟨member, own, latest⟩ := after
  rw [epoch_append fun record among => (aside record among).1] at member latest
  refine ⟨?_, own, fun other among => latest other (List.mem_append_right _ among)⟩
  rcases List.mem_append.mp member with new | old
  · exact absurd own (aside last new).2
  · exact old

theorem RefreshTold.noted (told : RefreshTold v instant log) (event : RefreshEvent) :
    ∀ record ∈ (⟨instant, event⟩ : RefreshRecord) :: log, record.instant ≤ instant := by
  intro record member
  rcases List.mem_cons.mp member with rfl | old
  · exact le_refl _
  · exact told.past record old

theorem RefreshTold.wait (told : RefreshTold v instant log) (after : instant ≤ later) :
    RefreshTold v later log := by
  refine { told with past := ?_, polled := ?_ }
  · intro record member
    exact (told.past record member).trans after
  · intro record member index attempts
    exact (told.polled record member index attempts).wait after

theorem RefreshTold.poll (told : RefreshTold v instant log) :
    RefreshTold { v with polledMs := UInt32.ofNat instant } instant log :=
  { told with polled := fun record member _ _ => RadioRun.notBefore_now (told.past record member) }

theorem RefreshTold.requested (told : RefreshTold v instant log) (index : PeerIndex) :
    RefreshTold { v with pending := Function.update v.pending index true } instant
      (⟨instant, .requested index⟩ :: log) := by
  have aside (other : PeerIndex) : ¬ RefreshRecord.Attempts ⟨instant, .requested index⟩ other := by
    rintro ⟨_, same⟩
    cases same
  have kept : epoch (⟨instant, .requested index⟩ :: log) = ⟨instant, .requested index⟩ :: epoch log :=
    epoch_cons RefreshEvent.noConfusion
  refine ⟨told.noted _, ?_, ?_, ?_, ?_, ?_⟩
  · intro other
    rw [owed_cons]
    by_cases own : other = index
    · subst own
      simp
    · dsimp only
      rw [Function.update_of_ne own, told.pending other]
      simp [Ne.symm own]
  · intro other never record member
    rw [kept] at member
    rcases List.mem_cons.mp member with rfl | old
    · exact aside other
    · exact told.fresh other never record old
  · intro other once
    obtain ⟨record, last, stamp⟩ := told.stamped other once
    exact ⟨record, last.aside kept (aside other), stamp⟩
  · intro record member other attempts
    rcases List.mem_cons.mp member with rfl | old
    · exact absurd attempts (aside other)
    · exact told.polled record old other attempts
  · exact throughout_cons.mpr ⟨fun other attempts => absurd attempts (aside other), told.each⟩

theorem RefreshTold.restarted (told : RefreshTold v instant log) :
    RefreshTold { v with pending := fun _ => false, attempted := fun _ => false } instant
      (⟨instant, .restarted⟩ :: log) := by
  have aside (other : PeerIndex) : ¬ RefreshRecord.Attempts ⟨instant, .restarted⟩ other := by
    rintro ⟨_, same⟩
    cases same
  have cut : epoch (⟨instant, .restarted⟩ :: log) = [] := epoch_restarted rfl
  refine ⟨told.noted _, ?_, ?_, ?_, ?_, ?_⟩
  · intro other
    rw [owed_cons]
    simp
  · intro other _ record member
    rw [cut] at member
    cases member
  · intro other once
    cases once
  · intro record member other attempts
    rcases List.mem_cons.mp member with rfl | old
    · exact absurd attempts (aside other)
    · exact told.polled record old other attempts
  · exact throughout_cons.mpr ⟨fun other attempts => absurd attempts (aside other), told.each⟩

theorem RefreshTold.attempted (told : RefreshTold v instant log)
    (now : v.polledMs = UInt32.ofNat instant) (paced : PacedFor log instant index)
    (succeeded : Bool) :
    RefreshTold
      { v with
        pending := Function.update v.pending index (!succeeded)
        attempted := Function.update v.attempted index true
        lastMs := Function.update v.lastMs index (UInt32.ofNat instant) } instant
      (⟨instant, .attempted index succeeded⟩ :: log) := by
  have only (other : PeerIndex)
      (attempts : RefreshRecord.Attempts ⟨instant, .attempted index succeeded⟩ other) :
      index = other := by
    obtain ⟨_, same⟩ := attempts
    exact (RefreshEvent.attempted.inj same).1
  have kept : epoch (⟨instant, .attempted index succeeded⟩ :: log) =
      ⟨instant, .attempted index succeeded⟩ :: epoch log :=
    epoch_cons RefreshEvent.noConfusion
  refine ⟨told.noted _, ?_, ?_, ?_, ?_, ?_⟩
  · intro other
    rw [owed_cons]
    by_cases own : other = index
    · subst own
      cases succeeded with
      | true => simp
      | false => simp
    · dsimp only
      rw [Function.update_of_ne own, told.pending other]
      simp [Ne.symm own]
  · intro other never record member
    dsimp only at never
    have own : other ≠ index := by
      rintro rfl
      rw [Function.update_self] at never
      cases never
    rw [Function.update_of_ne own] at never
    rw [kept] at member
    rcases List.mem_cons.mp member with rfl | old
    · exact fun attempts => own (only other attempts).symm
    · exact told.fresh other never record old
  · intro other once
    by_cases own : other = index
    · subst own
      refine ⟨⟨instant, .attempted other succeeded⟩, ⟨?_, ⟨succeeded, rfl⟩, ?_⟩, ?_⟩
      · rw [kept]
        exact List.mem_cons_self
      · intro record member _
        rw [kept] at member
        rcases List.mem_cons.mp member with rfl | old
        · exact le_refl _
        · exact told.past record (mem_of_epoch old)
      · exact Function.update_self ..
    · dsimp only at once
      rw [Function.update_of_ne own] at once
      obtain ⟨record, last, stamp⟩ := told.stamped other once
      refine ⟨record, last.aside kept fun attempts => own (only other attempts).symm, ?_⟩
      exact (Function.update_of_ne own ..).trans stamp
  · intro record member other attempts
    rw [now]
    exact RadioRun.notBefore_now (told.noted _ record member)
  · refine throughout_cons.mpr ⟨?_, told.each⟩
    intro other attempts
    obtain rfl := only other attempts
    exact paced

end Told

/- One poll -/

section Polls
variable (r : EspIdfEspNowEncryptedRadio) (env : RadioEnvironment) (nowMs : UInt32)

theorem refreshView_arbitrate :
    (r.arbitrate env nowMs).refreshView = { r.refreshView with polledMs := nowMs } := by
  obtain ⟨_, _, _, _, same⟩ := arbitrate_eq r env nowMs
  rw [same]
  rfl

theorem refreshView_scheduleRadioRecovery :
    (r.scheduleRadioRecovery env nowMs).refreshView = r.refreshView := by
  obtain ⟨pending, dueMs, same⟩ := scheduleRadioRecovery_eq r env nowMs
  rw [same]
  rfl

theorem refreshView_initializeRadio : (r.initializeRadio env).refreshView = r.refreshView := by
  rcases initializeRadio_eq r env with same | ⟨_, _, _, _, same, _⟩
  · rw [same]
  · rw [same]
    rfl

theorem refreshView_processRadioRecovery (ran : (r.processRadioRecovery env nowMs).1 = true) :
    (r.processRadioRecovery env nowMs).2.refreshView =
      { r.refreshView with pending := fun _ => false, attempted := fun _ => false } := by
  unfold processRadioRecovery at ran ⊢
  split at ran
  · cases ran
  · rename_i due
    split at ran
    · cases ran
    · rename_i cooled
      rw [if_neg due, if_neg cooled]
      rfl

/-- The refresh of a peer of a radio that is up is stamped, whatever the driver makes of it. -/
theorem refreshView_refreshPeer {index : PeerIndex} (up : r.initialized = true)
    (known : (r.peers.peer index).isSome = true) :
    (r.refreshPeer env index nowMs).2.refreshView =
      { r.refreshView with
        attempted := Function.update r.peerRefreshAttempted index true
        lastMs := Function.update r.peerRefreshLastMs index nowMs } := by
  have able : ¬ (¬ r.initialized = true ∨ (r.peers.peer index).isNone = true) := by
    simp [up, Option.isSome_iff_ne_none.mp known]
  unfold refreshPeer
  rw [if_neg able]
  dsimp only
  split
  · rfl
  · obtain ⟨driverPeers, added⟩ := addConfiguredPeer_eq { r with
      peerRefreshLastMs := Function.update r.peerRefreshLastMs index nowMs
      peerRefreshAttempted := Function.update r.peerRefreshAttempted index true
      driverPeers := Function.update r.driverPeers index false } env index
    rw [added]
    rfl

theorem known_of_firstDue {index : PeerIndex} (first : r.firstDue nowMs = some index) :
    (r.peers.peer index).isSome = true := by
  obtain ⟨i, inside, rfl⟩ := List.mem_map.mp (List.mem_of_find?_eq_some first)
  have within : i < r.peers.peers.length := List.mem_range.mp inside
  have small : i < 256 := by
    have := r.peers.fits
    omega
  unfold PeerRegistry.peer
  rw [UInt8.toNat_ofNat_of_lt' small, List.getElem?_eq_getElem within]
  rfl

/-- A refresh succeeds if the driver lets go of the peer and takes it back. -/
theorem refreshes_eq {index : PeerIndex} (up : r.initialized = true)
    (known : (r.peers.peer index).isSome = true) :
    r.refreshes env nowMs index = (env.peerRemoved index && env.peerAdded index) := by
  have present := Option.isSome_iff_ne_none.mp known
  unfold refreshes refreshPeer addConfiguredPeer
  cases env.peerRemoved index with
  | false => simp [up, present]
  | true =>
    cases env.peerAdded index with
    | false => simp [up, present]
    | true => simp [up, present]

theorem refreshView_processPeerRefresh {index : PeerIndex} (up : r.initialized = true)
    (first : r.firstDue nowMs = some index) :
    (r.processPeerRefresh env nowMs).refreshView =
      { r.refreshView with
        pending := Function.update r.peerRefreshPending index (!r.refreshes env nowMs index)
        attempted := Function.update r.peerRefreshAttempted index true
        lastMs := Function.update r.peerRefreshLastMs index nowMs } := by
  have refreshed := refreshView_refreshPeer
    { r with peerRefreshPending := Function.update r.peerRefreshPending index false } env nowMs up
    (known_of_firstDue r nowMs first)
  have found : ((List.range r.peers.size).map UInt8.ofNat).find? (r.RefreshDue nowMs) =
      some index := first
  unfold processPeerRefresh refreshes
  rw [found]
  dsimp only
  split
  · rename_i next run
    rw [run] at refreshed ⊢
    exact refreshed
  · rename_i next run
    rw [run] at refreshed ⊢
    obtain ⟨pending, attempted, lastMs, polled⟩ := RefreshView.mk.inj refreshed
    dsimp only [EspIdfEspNowEncryptedRadio.refreshView] at pending ⊢
    rw [pending, attempted, lastMs, polled, Function.update_idem]
    rfl

/-- Everything that reading the channel can do to the refreshes. -/
inductive RefreshListened (r : EspIdfEspNowEncryptedRadio) (env : RadioEnvironment)
    (nowMs : UInt32) : List RefreshEvent → RefreshView → Prop
  | idle (silent : r.Refreshing env nowMs → r.firstDue nowMs = none) :
    RefreshListened r env nowMs [] r.refreshView
  | restarted :
    RefreshListened r env nowMs [.restarted]
      { r.refreshView with pending := fun _ => false, attempted := fun _ => false }
  | attempted (index : PeerIndex) (refreshing : r.Refreshing env nowMs)
      (first : r.firstDue nowMs = some index) :
    RefreshListened r env nowMs [.attempted index (r.refreshes env nowMs index)]
      { r.refreshView with
        pending := Function.update r.peerRefreshPending index (!r.refreshes env nowMs index)
        attempted := Function.update r.peerRefreshAttempted index true
        lastMs := Function.update r.peerRefreshLastMs index nowMs }

/-- Reading the channel comes to no refresh. -/
theorem refreshListened_idle (other : ¬ r.Refreshing env nowMs)
    (steady : .restarted ∉ r.listenActions env nowMs)
    (same : (r.listen env nowMs).refreshView = r.refreshView) :
    RefreshListened r env nowMs (r.listenRefreshes env nowMs) (r.listen env nowMs).refreshView := by
  unfold listenRefreshes
  rw [if_neg steady, if_neg other, same]
  exact .idle fun refreshing => absurd refreshing other

theorem refreshListened_elsewhere {primary : UInt8} (read : env.channel = some primary)
    (other : primary ≠ r.expectedChannel) :
    RefreshListened r env nowMs (r.listenRefreshes env nowMs) (r.listen env nowMs).refreshView := by
  refine refreshListened_idle r env nowMs ?_ ?_ ?_
  · intro refreshing
    exact other (Option.some.inj (read.symm.trans refreshing.1))
  · simp [listenActions, read, other]
  · rw [listen_elsewhere read other]
    dsimp only
    split
    · rw [refreshView_scheduleRadioRecovery]
      rfl
    · rfl

theorem refreshListened_restarted (on : r.OnChannel env nowMs)
    (ran : (r.processRadioRecovery env nowMs).1 = true) :
    RefreshListened r env nowMs (r.listenRefreshes env nowMs) (r.listen env nowMs).refreshView := by
  have named : .restarted ∈ r.listenActions env nowMs := by
    simp [listenActions, on.own, on.stable, UInt32.not_lt.mpr on.long, ran]
  have still := (processRadioRecovery_heard r env nowMs).trans ran
  rw [listenRefreshes, if_pos named, on.restarted ran,
    refreshView_processRadioRecovery r.heard env nowMs still]
  exact .restarted

theorem unrestarted_listenActions (on : r.OnChannel env nowMs)
    (idle : (r.processRadioRecovery env nowMs).1 = false) :
    .restarted ∉ r.listenActions env nowMs := by
  simp only [listenActions, on.own, on.stable, UInt32.not_lt.mpr on.long, idle, ne_eq,
    not_true_eq_false, ↓reduceIte, Bool.false_eq_true, List.mem_cons, reduceCtorEq, false_or]
  split
  · exact List.not_mem_nil
  · split <;> simp

theorem refreshListened_refreshed (on : r.OnChannel env nowMs)
    (idle : (r.processRadioRecovery env nowMs).1 = false) (up : r.initialized = true) :
    RefreshListened r env nowMs (r.listenRefreshes env nowMs) (r.listen env nowMs).refreshView := by
  have refreshing : r.Refreshing env nowMs := ⟨on.own, on.stable, on.long, idle, up⟩
  rw [listenRefreshes, if_neg (unrestarted_listenActions r env nowMs on idle), if_pos refreshing,
    on.unrestarted idle, if_pos up]
  cases first : r.firstDue nowMs with
  | none =>
    have found : ((List.range r.heard.peers.size).map UInt8.ofNat).find?
        (r.heard.RefreshDue nowMs) = none := first
    unfold processPeerRefresh
    rw [found]
    exact .idle fun _ => first
  | some index =>
    have known := known_of_firstDue r nowMs first
    rw [refreshView_processPeerRefresh r.heard env nowMs up first,
      refreshes_eq r.heard env nowMs up known, ← refreshes_eq r env nowMs up known]
    exact .attempted index refreshing first

theorem refreshListened_down (on : r.OnChannel env nowMs)
    (idle : (r.processRadioRecovery env nowMs).1 = false) (down : r.initialized = false) :
    RefreshListened r env nowMs (r.listenRefreshes env nowMs) (r.listen env nowMs).refreshView := by
  have off : ¬ r.initialized = true := Bool.eq_false_iff.mp down
  refine refreshListened_idle r env nowMs (fun refreshing => off refreshing.2.2.2.2)
    (unrestarted_listenActions r env nowMs on idle) ?_
  rw [on.unrestarted idle, if_neg off]
  split
  · rfl
  · exact refreshView_initializeRadio _ env

theorem refreshListened_listen :
    RefreshListened r env nowMs (r.listenRefreshes env nowMs) (r.listen env nowMs).refreshView := by
  cases r.listening_cases env nowMs with
  | unread read =>
    refine refreshListened_idle r env nowMs ?_ ?_ ?_
    · intro refreshing
      exact absurd (read.symm.trans refreshing.1) (by simp)
    · simp [listenActions, read]
    · rw [listen_unread read]
      rfl
  | elsewhere read other => exact refreshListened_elsewhere r env nowMs read other
  | begun own unstable =>
    refine refreshListened_idle r env nowMs ?_ ?_ ?_
    · intro refreshing
      exact absurd (unstable.symm.trans refreshing.2.1) Bool.false_ne_true
    · simp [listenActions, own, unstable]
    · rw [listen_begun own unstable]
      rfl
  | settling own stable short =>
    refine refreshListened_idle r env nowMs ?_ ?_ ?_
    · intro refreshing
      exact absurd short (UInt32.not_lt.mpr refreshing.2.2.1)
    · simp [listenActions, own, stable, short]
    · rw [listen_settling own stable short]
      rfl
  | restarted on ran => exact refreshListened_restarted r env nowMs on ran
  | refreshed on idle up => exact refreshListened_refreshed r env nowMs on idle up
  | waiting on idle down | initializing on idle down =>
    exact refreshListened_down r env nowMs on idle down

end Polls

section Loop
variable {r : EspIdfEspNowEncryptedRadio} {env : RadioEnvironment} {instant : Nat}
  {log : List RefreshRecord} {index : PeerIndex}

/-- A refresh that is due is owed, and the last one for this peer is long enough ago. -/
theorem RefreshTold.paced (told : RefreshTold r.refreshView instant log)
    (due : r.RefreshDue (UInt32.ofNat instant) index = true)
    (any : ∀ earlier ∈ log, ∀ other, earlier.Attempts other →
      earlier.instant + channelPollIntervalMs.toNat ≤ instant) : PacedFor log instant index := by
  unfold RefreshDue at due
  simp only [Bool.and_eq_true, Bool.not_eq_true', Bool.and_eq_false_iff, decide_eq_false_iff_not,
    UInt32.not_lt] at due
  obtain ⟨pending, cool⟩ := due
  refine ⟨(told.pending index).mp pending, ?_, any⟩
  intro earlier member attempts
  rcases cool with never | long
  · exact absurd attempts (told.fresh index never earlier member)
  · have once : r.refreshView.attempted index = true := by
      by_contra never
      exact told.fresh index (Bool.eq_false_iff.mpr never) earlier member attempts
    obtain ⟨last, ⟨among, _, latest⟩, stamp⟩ := told.stamped index once
    have stamped : r.peerRefreshLastMs index = UInt32.ofNat last.instant := stamp
    rw [stamped] at long
    have real := RadioRun.elapsed_real (told.past last (mem_of_epoch among)) long
    have order := latest earlier member attempts
    omega

theorem RefreshTold.listen (told : RefreshTold r.refreshView instant log)
    (now : r.lastChannelPollMs = UInt32.ofNat instant)
    (any : ∀ earlier ∈ log, ∀ other, earlier.Attempts other →
      earlier.instant + channelPollIntervalMs.toNat ≤ instant) :
    RefreshTold (r.listen env (UInt32.ofNat instant)).refreshView instant
      (TimedLog.stamped instant (r.listenRefreshes env (UInt32.ofNat instant)) ++ log) := by
  have listened := refreshListened_listen r env (UInt32.ofNat instant)
  generalize r.listenRefreshes env (UInt32.ofNat instant) = events at listened ⊢
  generalize (r.listen env (UInt32.ofNat instant)).refreshView = view at listened ⊢
  cases listened with
  | idle => exact told
  | restarted => exact told.restarted
  | attempted index refreshing first =>
    have due : r.RefreshDue (UInt32.ofNat instant) index = true := List.find?_some first
    exact told.attempted now (told.paced due any) _

theorem RefreshTold.loop (told : RefreshTold r.refreshView instant log) :
    RefreshTold (r.loop env (UInt32.ofNat instant)).refreshView instant
      (TimedLog.stamped instant (r.loopRefreshes env (UInt32.ofNat instant)) ++ log) := by
  rw [loop_eq, loopRefreshes]
  split
  · exact told
  · rename_i polls
    have any : ∀ earlier ∈ log, ∀ other, earlier.Attempts other →
        earlier.instant + channelPollIntervalMs.toNat ≤ instant := by
      intro earlier member other attempts
      have long : channelPollIntervalMs ≤ UInt32.ofNat instant - r.lastChannelPollMs := by
        by_contra short
        exact polls (Or.inr (Or.inr (UInt32.not_le.mp short)))
      exact (told.polled earlier member other attempts).elapsed long
    have view := refreshView_arbitrate r env (UInt32.ofNat instant)
    have polled : RefreshTold (r.arbitrate env (UInt32.ofNat instant)).refreshView instant log := by
      rw [view]
      exact told.poll
    exact polled.listen (congrArg RefreshView.polledMs view) any

end Loop

/- Runs -/

namespace RefreshRun
variable {s : RefreshRun}

def Told (s : RefreshRun) : Prop := RefreshTold s.run.radio.refreshView s.run.instant s.log

theorem Told.aside (told : s.Told) {made : RadioCall}
    (same : (s.run.call made).radio.refreshView = s.run.radio.refreshView)
    (silent : s.events made = []) : (s.call made).Told := by
  have before : RefreshTold s.run.radio.refreshView s.run.instant s.log := told
  unfold RefreshRun.call Told
  rw [silent]
  dsimp only
  rw [same, s.run.instant_call]
  exact before

theorem refreshView_traffic (s : RadioRun) {made : RadioCall} (traffic : RadioRun.Traffic made) :
    (s.call made).radio.refreshView = s.radio.refreshView := by
  obtain ⟨_, _, _, _, same⟩ := s.traffic_call traffic
  rw [same]
  rfl

theorem Told.call (told : s.Told) (made : RadioCall) : (s.call made).Told := by
  have before : RefreshTold s.run.radio.refreshView s.run.instant s.log := told
  cases made with
  | loop env => exact before.loop
  | setRecoveryPermitted permitted => exact told.aside rfl rfl
  | requestRadioRecovery env =>
    refine told.aside ?_ rfl
    simp only [RadioRun.call, requestRadioRecovery]
    split
    · rfl
    · exact refreshView_scheduleRadioRecovery _ env _
  | requestPeerRefresh index =>
    unfold RefreshRun.call Told events
    dsimp only [RadioRun.call]
    rw [EspIdfEspNowEncryptedRadio.requestPeerRefresh]
    split
    · exact before
    · exact before.requested index
  | sendFrame | takeReceivedFrame | takeSendCompletion | sendCallback | receiveCallback =>
    exact told.aside (refreshView_traffic s.run trivial) rfl

theorem Told.wait (told : s.Told) (elapsedMs : Nat) : (s.wait elapsedMs).Told :=
  RefreshTold.wait told (Nat.le_add_right _ _)

theorem Told.calls (told : s.Told) (made : List (Nat × RadioCall)) : (s.calls made).Told := by
  induction made generalizing s with
  | nil => exact told
  | cons timed rest ih => exact ih ((told.wait timed.1).call timed.2)

theorem told_fresh (peers : PeerRegistry) (expectedChannel : UInt8) (configured : Bool)
    (instant : Nat) : (fresh peers expectedChannel configured instant).Told := by
  constructor
  · simp [fresh]
  · intro index
    exact iff_of_false Bool.false_ne_true Since.holds_nil
  · simp [fresh, epoch]
  · intro index once
    cases once
  · simp [fresh]
  · exact throughout_nil

/-- In every run each refresh that is attempted was requested or has failed before, attempts for one
    peer keep 30000 ms apart unless the radio is restarted in between, and no two attempts come
    within one interval of the polls; what is owed is what the radio holds pending. -/
theorem refreshes_paced (peers : PeerRegistry) (expectedChannel : UInt8) (configured : Bool)
    (instant : Nat) (made : List (Nat × RadioCall)) :
    let s := (fresh peers expectedChannel configured instant).calls made
    Throughout Paced s.log ∧ ∀ index, s.run.radio.peerRefreshPending index = true ↔ Owed index s.log := by
  have told := (told_fresh peers expectedChannel configured instant).calls made
  exact ⟨told.each, told.pending⟩

end RefreshRun

end EspNowNet
