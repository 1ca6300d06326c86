import EspNowNet.PeerRefresh
import EspNowNet.RadioInvariant
import Mathlib.Data.List.Nodup

/- No peer waits long behind the others: one that was refreshed must wait out its cooldown, so
   the polls come round to every peer whose refresh is owed. -/
namespace EspNowNet
open EspIdfEspNowEncryptedRadio GuardedInvariant TimedLog

namespace RefreshRun
variable {s : RefreshRun}

/-- What calls add to the log. -/
def added (s : RefreshRun) : List (Nat × RadioCall) → List RefreshRecord
  | [] => []
  | timed :: later =>
    let waited := s.wait timed.1
    (waited.call timed.2).added later ++ stamped waited.run.instant (waited.events timed.2)

/-- The call is a poll that gets as far as refreshing a peer. -/
def Refreshes (s : RefreshRun) : RadioCall → Prop
  | .loop env => ¬ s.run.radio.Resting s.run.nowMs ∧
      (s.run.radio.arbitrate env s.run.nowMs).Refreshing env s.run.nowMs
  | _ => False

instance decidableRefreshes (s : RefreshRun) : (made : RadioCall) → Decidable (s.Refreshes made)
  | .loop _ => inferInstanceAs (Decidable (_ ∧ _))
  | .setRecoveryPermitted _ | .requestRadioRecovery _ | .requestPeerRefresh _ | .sendFrame _ _ _
  | .takeReceivedFrame | .takeSendCompletion | .sendCallback _ _ | .receiveCallback _ _ =>
    inferInstanceAs (Decidable False)

/-- How many calls are such polls. -/
def refreshPolls (s : RefreshRun) : List (Nat × RadioCall) → Nat
  | [] => 0
  | timed :: later =>
    let waited := s.wait timed.1
    (waited.call timed.2).refreshPolls later + if waited.Refreshes timed.2 then 1 else 0

def attempts (log : List RefreshRecord) : List PeerIndex :=
  log.filterMap fun record =>
    match record.event with
    | .attempted index _ => some index
    | .requested _ | .restarted => none

variable {index : PeerIndex} {log newer : List RefreshRecord} {made : List (Nat × RadioCall)}

theorem mem_attempts : index ∈ attempts log ↔ ∃ record ∈ log, record.Attempts index := by
  unfold attempts
  rw [List.mem_filterMap]
  constructor
  · rintro ⟨record, member, named⟩
    refine ⟨record, member, ?_⟩
    split at named
    · rename_i succeeded event
      obtain rfl := Option.some.inj named
      exact ⟨succeeded, event⟩
    · cases named
    · cases named
  · rintro ⟨record, member, succeeded, event⟩
    refine ⟨record, member, ?_⟩
    rw [event]

theorem log_calls (s : RefreshRun) (made : List (Nat × RadioCall)) :
    (s.calls made).log = s.added made ++ s.log := by
  induction made generalizing s with
  | nil => rfl
  | cons timed later ih =>
    have step := ih ((s.wait timed.1).call timed.2)
    change (((s.wait timed.1).call timed.2).calls later).log = _
    rw [step, added, List.append_assoc]
    rfl

theorem instant_calls (s : RefreshRun) (made : List (Nat × RadioCall)) :
    s.run.instant ≤ (s.calls made).run.instant := by
  induction made generalizing s with
  | nil => exact le_refl _
  | cons timed later ih =>
    have step := ih ((s.wait timed.1).call timed.2)
    have same : ((s.wait timed.1).call timed.2).run.instant = s.run.instant + timed.1 :=
      RadioRun.instant_call _ _
    rw [same] at step
    exact (Nat.le_add_right _ _).trans step

theorem instant_added (s : RefreshRun) (made : List (Nat × RadioCall)) :
    ∀ record ∈ s.added made, s.run.instant ≤ record.instant := by
  induction made generalizing s with
  | nil => simp [added]
  | cons timed later ih =>
    intro record member
    have same : ((s.wait timed.1).call timed.2).run.instant = s.run.instant + timed.1 :=
      RadioRun.instant_call _ _
    rcases List.mem_append.mp member with after | now
    · have late := ih ((s.wait timed.1).call timed.2) record after
      rw [same] at late
      exact (Nat.le_add_right _ _).trans late
    · rw [(mem_stamped.mp now).1]
      exact Nat.le_add_right _ _

/-- Within the cooldown, and without a restart, no peer has a second turn. -/
theorem attempts_nodup {first last : Nat} (paced : Throughout Paced (newer ++ log))
    (steady : ∀ record ∈ newer, record.event ≠ .restarted)
    (begun : ∀ record ∈ newer, first ≤ record.instant)
    (ended : ∀ record ∈ newer, record.instant ≤ last)
    (short : last < first + peerRefreshCooldownMs.toNat) : (attempts newer).Nodup := by
  induction newer with
  | nil => exact List.nodup_nil
  | cons record newer ih =>
    obtain ⟨own, before⟩ := throughout_cons.mp paced
    have rest := ih before (fun other member => steady other (List.mem_cons_of_mem _ member))
      (fun other member => begun other (List.mem_cons_of_mem _ member))
      (fun other member => ended other (List.mem_cons_of_mem _ member))
    unfold attempts
    rw [List.filterMap_cons]
    split
    · exact rest
    · rename_i index named
      split at named
      · rename_i succeeded event
        obtain rfl := Option.some.inj named
        refine List.nodup_cons.mpr ⟨?_, rest⟩
        intro again
        obtain ⟨earlier, member, attempted⟩ := mem_attempts.mp again
        have among : earlier ∈ epoch (newer ++ log) := by
          rw [epoch_append fun other present => steady other (List.mem_cons_of_mem _ present)]
          exact List.mem_append_left _ member
        have apart := (own _ ⟨succeeded, event⟩).own earlier among attempted
        have early := begun earlier (List.mem_cons_of_mem _ member)
        have late := ended record List.mem_cons_self
        omega
      · cases named
      · cases named

theorem peers_traffic (s : RadioRun) {made : RadioCall} (traffic : RadioRun.Traffic made) :
    (s.call made).radio.peers = s.radio.peers := by
  obtain ⟨_, _, _, _, same⟩ := s.traffic_call traffic
  rw [same]

theorem peers_call (s : RadioRun) (made : RadioCall) :
    (s.call made).radio.peers = s.radio.peers := by
  cases made with
  | loop env =>
    rcases loop_cases s.radio env s.nowMs with ⟨same, _⟩ | ⟨_, restarted⟩
    · exact same.peers
    · exact restarted.peers
  | setRecoveryPermitted => rfl
  | requestRadioRecovery env => exact (quiet_requestRadioRecovery s.radio env s.nowMs).peers
  | requestPeerRefresh index => exact (quiet_requestPeerRefresh s.radio index).peers
  | sendFrame | takeReceivedFrame | takeSendCompletion | sendCallback | receiveCallback =>
    exact peers_traffic s trivial

/-- A peer whose refresh is owed and may be attempted at any time up to a deadline. -/
structure Ready (s : RefreshRun) (index : PeerIndex) (deadline : Nat) : Prop where
  owed : Owed index s.log
  known : index.toNat < s.run.radio.peers.size
  rested : ∀ record, LastAttempt index s.log record →
    record.instant + peerRefreshCooldownMs.toNat ≤ s.run.instant ∧
      deadline < record.instant + 2 ^ 32

variable {deadline : Nat}

theorem Ready.wait (ready : s.Ready index deadline) (elapsedMs : Nat) :
    (s.wait elapsedMs).Ready index deadline := by
  refine ⟨ready.owed, ready.known, ?_⟩
  intro record last
  obtain ⟨before, near⟩ := ready.rested record last
  exact ⟨before.trans (Nat.le_add_right _ _), near⟩

/-- It stays so while its turn does not come. -/
theorem Ready.call (ready : s.Ready index deadline) {made : RadioCall}
    (aside : ∀ event ∈ s.events made, event ≠ .restarted ∧
      ∀ succeeded, event ≠ .attempted index succeeded) : (s.call made).Ready index deadline := by
  refine ⟨?_, ?_, ?_⟩
  · apply Since.Holds.append ready.owed
    intro record member
    obtain ⟨steady, own⟩ := aside _ (mem_stamped.mp member).2
    exact ⟨own true, steady⟩
  · change index.toNat < (s.run.call made).radio.peers.size
    rw [peers_call]
    exact ready.known
  · intro record last
    have instant : (s.call made).run.instant = s.run.instant := s.run.instant_call made
    rw [instant]
    apply ready.rested
    refine LastAttempt.older last fun other member => ?_
    obtain ⟨steady, own⟩ := aside _ (mem_stamped.mp member).2
    exact ⟨steady, fun attempts => attempts.elim own⟩

theorem Ready.due (ready : s.Ready index deadline) (told : s.Told)
    (intime : s.run.instant ≤ deadline) : s.run.radio.RefreshDue s.run.nowMs index = true := by
  have before : RefreshTold s.run.radio.refreshView s.run.instant s.log := told
  have pending : s.run.radio.peerRefreshPending index = true := (before.pending index).mpr ready.owed
  unfold RefreshDue
  rw [pending, Bool.true_and]
  cases once : s.run.radio.peerRefreshAttempted index with
  | false => rfl
  | true =>
    obtain ⟨last, own, stamp⟩ := before.stamped index once
    obtain ⟨rested, near⟩ := ready.rested last own
    have stamped : s.run.radio.peerRefreshLastMs index = UInt32.ofNat last.instant := stamp
    have long : ¬ s.run.nowMs - UInt32.ofNat last.instant < peerRefreshCooldownMs := by
      rw [UInt32.lt_iff_toNat_lt]
      unfold RadioRun.nowMs
      rw [UInt32.toNat_sub, UInt32.toNat_ofNat', UInt32.toNat_ofNat']
      omega
    rw [stamped]
    simp [long]

theorem firstDue_le {r : EspIdfEspNowEncryptedRadio} {nowMs : UInt32}
    (due : r.RefreshDue nowMs index = true) (known : index.toNat < r.peers.size) :
    ∃ first, r.firstDue nowMs = some first ∧ first.toNat ≤ index.toNat := by
  have index_ofNat : UInt8.ofNat index.toNat = index := UInt8.ofNat_toNat
  unfold firstDue
  rw [List.find?_map]
  cases found : (List.range r.peers.size).find? (r.RefreshDue nowMs ∘ UInt8.ofNat) with
  | none =>
    have never := List.find?_range_eq_none.mp found index.toNat known
    rw [Function.comp_apply, index_ofNat, due] at never
    cases never
  | some i =>
    obtain ⟨_, inside, earlier⟩ := List.find?_range_eq_some.mp found
    have first : i ≤ index.toNat := by
      by_contra later
      have never := earlier index.toNat (Nat.lt_of_not_le later)
      rw [Function.comp_apply, index_ofNat, due] at never
      cases never
    have small : i < 256 := first.trans_lt index.toNat_lt
    refine ⟨UInt8.ofNat i, rfl, ?_⟩
    rw [UInt8.toNat_ofNat_of_lt' small]
    exact first

theorem due_arbitrate {r : EspIdfEspNowEncryptedRadio} {env : RadioEnvironment} {nowMs : UInt32} :
    (r.arbitrate env nowMs).RefreshDue nowMs = r.RefreshDue nowMs ∧
      (r.arbitrate env nowMs).peers = r.peers := by
  obtain ⟨_, _, _, _, same⟩ := arbitrate_eq r env nowMs
  rw [same]
  exact ⟨rfl, rfl⟩

/-- A poll that refreshes takes this peer or one before it; nothing else takes any. -/
theorem Ready.turn (ready : s.Ready index deadline) (told : s.Told)
    (intime : s.run.instant ≤ deadline) (made : RadioCall)
    (steady : .restarted ∉ s.events made) :
    (s.Refreshes made ∧ ∃ first succeeded, s.events made = [.attempted first succeeded] ∧
        first.toNat ≤ index.toNat) ∨
      ¬ s.Refreshes made ∧ ∀ event ∈ s.events made, ∀ first succeeded,
        event ≠ .attempted first succeeded := by
  cases made with
  | loop env =>
    by_cases rests : s.run.radio.Resting s.run.nowMs
    · refine Or.inr ⟨fun refreshes => refreshes.1 rests, ?_⟩
      have silent : s.events (.loop env) = [] := if_pos rests
      rw [silent]
      simp
    have events : s.events (.loop env) =
        (s.run.radio.arbitrate env s.run.nowMs).listenRefreshes env s.run.nowMs := if_neg rests
    have listened := refreshListened_listen (s.run.radio.arbitrate env s.run.nowMs) env s.run.nowMs
    rw [events] at steady ⊢
    obtain ⟨kept, peers⟩ := @due_arbitrate s.run.radio env s.run.nowMs
    have due := ready.due told intime
    rw [← kept] at due
    obtain ⟨first, found, before⟩ := firstDue_le due (peers ▸ ready.known)
    generalize (s.run.radio.arbitrate env s.run.nowMs).listenRefreshes env s.run.nowMs = events
      at listened steady ⊢
    generalize ((s.run.radio.arbitrate env s.run.nowMs).listen env s.run.nowMs).refreshView = view
      at listened
    cases listened with
    | idle silent =>
      refine Or.inr ⟨?_, by simp⟩
      rintro ⟨_, refreshing⟩
      have none := silent refreshing
      rw [found] at none
      cases none
    | restarted => exact absurd (List.mem_singleton_self _) steady
    | attempted other refreshing own =>
      obtain rfl := Option.some.inj (found.symm.trans own)
      exact Or.inl ⟨⟨rests, refreshing⟩, first, _, rfl, before⟩
  | requestPeerRefresh other =>
    have asked : s.events (.requestPeerRefresh other) =
        if other.toNat ≥ s.run.radio.peers.size ∨ other ≥ 16 then [] else [.requested other] := rfl
    refine Or.inr ⟨id, ?_⟩
    rw [asked]
    split <;> simp
  | setRecoveryPermitted | requestRadioRecovery | sendFrame | takeReceivedFrame |
      takeSendCompletion | sendCallback | receiveCallback =>
    exact Or.inr ⟨id, by simp [events]⟩

theorem attempts_append (newer log : List RefreshRecord) :
    attempts (newer ++ log) = attempts newer ++ attempts log :=
  List.filterMap_append

/-- While its turn does not come, every poll that refreshes a peer takes one before it. -/
theorem Ready.waits (ready : s.Ready index deadline) (told : s.Told)
    (steady : ∀ record ∈ s.added made, record.event ≠ .restarted)
    (intime : (s.calls made).run.instant ≤ deadline) :
    index ∈ attempts (s.added made) ∨
      (∀ first ∈ attempts (s.added made), first.toNat < index.toNat) ∧
        (attempts (s.added made)).length = s.refreshPolls made := by
  induction made generalizing s with
  | nil => exact Or.inr ⟨by simp [added, attempts], rfl⟩
  | cons timed later ih =>
    let waited := s.wait timed.1
    let next := waited.call timed.2
    have told' : waited.Told := told.wait timed.1
    have ready' := ready.wait timed.1
    have steady' : .restarted ∉ waited.events timed.2 := by
      intro member
      refine steady ⟨waited.run.instant, .restarted⟩ (List.mem_append_right _ ?_) rfl
      exact mem_stamped.mpr ⟨rfl, member⟩
    have intime' : waited.run.instant ≤ deadline := by
      have same : next.run.instant = waited.run.instant := RadioRun.instant_call _ _
      rw [← same]
      exact (instant_calls next later).trans intime
    have goes (aside : ∀ event ∈ waited.events timed.2, ∀ succeeded,
        event ≠ .attempted index succeeded) :=
      ih (ready'.call fun event member =>
          ⟨fun restarted => steady' (restarted ▸ member), aside event member⟩)
        (told'.call timed.2)
        (fun record member => steady record (List.mem_append_left _ member)) intime
    rw [added, attempts_append, refreshPolls]
    rcases ready'.turn told' intime' timed.2 steady' with
      ⟨refreshes, first, succeeded, events, before⟩ | ⟨idle, none⟩
    · have taken : attempts (stamped waited.run.instant (waited.events timed.2)) = [first] := by
        rw [events]
        rfl
      rw [taken, if_pos refreshes]
      by_cases own : first = index
      · left
        exact List.mem_append_right _ (own ▸ List.mem_singleton_self _)
      · have aside : ∀ event ∈ waited.events timed.2, ∀ succeeded,
            event ≠ .attempted index succeeded := by
          intro event member succeeded same
          rw [events, List.mem_singleton, same] at member
          exact own (RefreshEvent.attempted.inj member).1.symm
        rcases goes aside with turn | ⟨lower, count⟩
        · exact Or.inl (List.mem_append_left _ turn)
        · refine Or.inr ⟨?_, ?_⟩
          · intro other member
            rcases List.mem_append.mp member with after | now
            · exact lower other after
            · obtain rfl := List.mem_singleton.mp now
              exact lt_of_le_of_ne before fun same => own (UInt8.toNat_inj.mp same)
          · rw [List.length_append, count]
            rfl
    · have taken : attempts (stamped waited.run.instant (waited.events timed.2)) = [] := by
        apply List.eq_nil_iff_forall_not_mem.mpr
        intro other member
        obtain ⟨record, among, succeeded, named⟩ := mem_attempts.mp member
        exact none record.event (mem_stamped.mp among).2 other succeeded named
      rw [taken, List.append_nil, if_neg idle, Nat.add_zero]
      exact goes fun event member => none event member index

theorem peers_calls (s : RefreshRun) (made : List (Nat × RadioCall)) :
    (s.calls made).run.radio.peers = s.run.radio.peers := by
  induction made generalizing s with
  | nil => rfl
  | cons timed later ih => exact (ih _).trans (peers_call (s.run.wait timed.1) timed.2)

/-- A refresh that is owed to a peer, whose last attempt is a cooldown ago and less than the clock's
    range, is attempted once more polls than there are peers before it have refreshed one, all
    within a cooldown and without a restart. -/
theorem owed_refresh_attempted (peers : PeerRegistry) (expectedChannel : UInt8)
    (configured : Bool) (instant : Nat) (earlier made : List (Nat × RadioCall)) (index : PeerIndex)
    (known : index.toNat < peers.size)
    (owed : Owed index ((fresh peers expectedChannel configured instant).calls earlier).log) :
    let s := (fresh peers expectedChannel configured instant).calls earlier
    (∀ record, LastAttempt index s.log record →
      record.instant + peerRefreshCooldownMs.toNat ≤ s.run.instant ∧
        s.run.instant + peerRefreshCooldownMs.toNat ≤ record.instant + 2 ^ 32) →
    (s.calls made).run.instant < s.run.instant + peerRefreshCooldownMs.toNat →
    (∀ record ∈ s.added made, record.event ≠ .restarted) →
    index.toNat < s.refreshPolls made →
    ∃ record ∈ s.added made, record.Attempts index := by
  intro s rested short steady enough
  have told : s.Told := (told_fresh peers expectedChannel configured instant).calls earlier
  have after : (s.calls made).Told := told.calls made
  have size : s.run.radio.peers = peers := peers_calls _ earlier
  have ready : s.Ready index (s.calls made).run.instant := by
    refine ⟨owed, size ▸ known, ?_⟩
    intro record last
    obtain ⟨before, near⟩ := rested record last
    exact ⟨before, short.trans_le near⟩
  rcases ready.waits told steady (le_refl _) with turn | ⟨lower, count⟩
  · exact mem_attempts.mp turn
  · have whole : Throughout Paced (s.added made ++ s.log) := log_calls s made ▸ after.each
    have distinct : (attempts (s.added made)).Nodup := by
      apply attempts_nodup whole steady (instant_added s made) _ short
      intro record member
      apply after.past
      rw [log_calls]
      exact List.mem_append_left _ member
    have bounded : ((attempts (s.added made)).map UInt8.toNat).length ≤ index.toNat := by
      have subset : (attempts (s.added made)).map UInt8.toNat ⊆ List.range index.toNat := by
        intro i member
        obtain ⟨first, among, rfl⟩ := List.mem_map.mp member
        exact List.mem_range.mpr (lower first among)
      have nodup := List.Nodup.map (fun _ _ same => UInt8.toNat_inj.mp same) distinct
      exact (List.subperm_of_subset nodup subset).length_le.trans_eq List.length_range
    rw [List.length_map, count] at bounded
    exact absurd enough (Nat.not_lt.mpr bounded)

/-- The radio is brought up and asked to refresh its only peer. -/
def refreshRequested : List (Nat × RadioCall) :=
  [(300, .loop {}), (5000, .loop {}), (10, .requestPeerRefresh 0)]

theorem owed_refresh_attempted_lonePeer :
    let s := (fresh RadioRun.lonePeer 1 true 0).calls refreshRequested
    ∃ record ∈ s.added [(250, .loop {})], record.Attempts 0 := by
  have log : ((fresh RadioRun.lonePeer 1 true 0).calls refreshRequested).log =
      [⟨5310, .requested 0⟩] := by
    decide +kernel
  have owed : Owed 0 ((fresh RadioRun.lonePeer 1 true 0).calls refreshRequested).log := by
    rw [log]
    exact owed_cons.mpr (Or.inl (Or.inl rfl))
  apply owed_refresh_attempted RadioRun.lonePeer 1 true 0 refreshRequested _ 0 (by decide +kernel)
    owed
  · rw [log]
    rintro record ⟨member, ⟨_, attempts⟩, _⟩
    rw [List.mem_singleton.mp (mem_of_epoch member)] at attempts
    cases attempts
  · decide +kernel
  · decide +kernel
  · decide +kernel

end RefreshRun

end EspNowNet
