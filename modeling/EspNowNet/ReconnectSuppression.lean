import EspNowNet.RadioHistory

/- The suppression of Wi-Fi's reconnection is a lease: Wi-Fi counts the requests it accepts and
   the releases, so each accepted request must be released once and no more. -/
namespace EspNowNet

def WiFiArbitration.holding (w : WiFiArbitration) : Nat := if w.suppressionHeld then 1 else 0

/-- Build and platform leave Wi-Fi's policy to the arbitration. -/
structure RadioEnvironment.Arbitrates (env : RadioEnvironment) : Prop where
  free : env.fixedChannel = false
  component : env.wifiComponent = true

namespace EspIdfEspNowEncryptedRadio

structure HeldWell (w : WiFiArbitration) : Prop where
  held : w.suppressionHeld = true ↔ w.state = .requesting ∨ w.state = .suppressed
  associated : w.associated = true → w.suppressionHeld = false
  unknown : w.associationKnown = false → w.state = .monitoring

/-- Steps that ask for what they come to hold, release what they held, and are suppressed only
    when Wi-Fi confirms it. -/
structure Paired (env : RadioEnvironment) (w : WiFiArbitration) (actions : List RadioAction)
    (w' : WiFiArbitration) : Prop where
  well : HeldWell w'
  balanced : actions.count (.suppressionRequested true) + w.holding =
    actions.count .suppressionReleased + w'.holding
  entered : w'.state = .suppressed → w.state = .suppressed ∨ env.suppressionActive = true

variable {env : RadioEnvironment} {w w' w'' : WiFiArbitration} {actions more : List RadioAction}

theorem Paired.trans (first : Paired env w actions w') (second : Paired env w' more w'') :
    Paired env w (actions ++ more) w'' := by
  constructor
  · exact second.well
  · have before := first.balanced
    have after := second.balanced
    rw [List.count_append, List.count_append]
    omega
  · intro suppressed
    rcases second.entered suppressed with earlier | active
    · exact first.entered earlier
    · exact Or.inr active

/-- Steps that ask nothing and neither take nor give up the lease. -/
theorem paired_unasked (none : ∀ action ∈ actions, ¬ ForWifi action) (well : HeldWell w')
    (same : w'.suppressionHeld = w.suppressionHeld)
    (entered : w'.state = .suppressed → w.state = .suppressed ∨ env.suppressionActive = true) :
    Paired env w actions w' := by
  constructor
  · exact well
  · have requested : actions.count (.suppressionRequested true) = 0 :=
      List.count_eq_zero.mpr fun member => none _ member trivial
    have released : actions.count .suppressionReleased = 0 :=
      List.count_eq_zero.mpr fun member => none _ member trivial
    rw [requested, released, WiFiArbitration.holding, WiFiArbitration.holding, same]
  · exact entered

variable (r : EspIdfEspNowEncryptedRadio) (nowMs : UInt32)

/-- All four places that release leave the lease free. -/
theorem paired_released (arbitrates : env.Arbitrates) (freed : Freed w') :
    Paired env r.wifi (r.releaseActions env) w' := by
  constructor
  · constructor
    · rw [freed.held]
      simp [freed.idle]
    · intro _
      exact freed.held
    · intro unknown
      exact absurd (unknown.symm.trans freed.known) (by decide)
  · unfold releaseActions WiFiArbitration.holding
    rw [freed.held]
    cases held : r.wifi.suppressionHeld with
    | true => simp [arbitrates.component]
    | false => simp
  · intro suppressed
    exact absurd suppressed freed.idle.2

theorem paired_observe (arbitrates : env.Arbitrates) (well : HeldWell r.wifi) :
    Paired env r.wifi (r.observeActions env) (r.observeWifiAssociation env nowMs).wifi := by
  obtain ⟨w, same, observed⟩ := observed_observeWifiAssociation r env nowMs
  have wifi : (r.observeWifiAssociation env nowMs).wifi = w := congrArg View.wifi same
  rw [wifi]
  generalize r.observeActions env = actions at observed
  cases observed with
  | unchanged => exact paired_unasked (by simp) well rfl Or.inl
  | met unknown =>
    have free : r.wifi.suppressionHeld = false := by
      rw [Bool.eq_false_iff, Ne, well.held, well.unknown unknown]
      simp
    refine paired_unasked (by simp) ?_ rfl Or.inl
    constructor
    · exact well.held
    · intro _
      exact free
    · intro unknown
      cases unknown
  | freed freed => exact paired_released r arbitrates freed

theorem paired_process (arbitrates : env.Arbitrates) (well : HeldWell r.wifi) :
    Paired env r.wifi (r.arbitrationActions env nowMs)
      (r.processWifiArbitration env nowMs).wifi := by
  have processed := processed_processWifiArbitration r env nowMs
  have wifi : (r.processWifiArbitration env nowMs).wifi =
      (r.processWifiArbitration env nowMs).view.wifi := rfl
  rw [wifi]
  generalize r.arbitrationActions env nowMs = actions at processed ⊢
  generalize (r.processWifiArbitration env nowMs).view = next at processed ⊢
  cases processed with
  | idle => exact paired_unasked (by simp) well rfl Or.inl
  | fixed fixed => exact absurd (fixed.symm.trans arbitrates.free) (by decide)
  | freed freed => exact paired_released r arbitrates freed
  | confirmed known requesting active dueMs =>
    have held : r.wifi.suppressionHeld = true := well.held.mpr (Or.inl requesting)
    refine paired_unasked (by simp [ForWifi]) ?_ rfl fun _ => Or.inr active
    constructor
    · exact iff_of_true held (Or.inr rfl)
    · exact well.associated
    · intro unknown
      exact absurd (unknown.symm.trans known) (by decide)
  | accepted known apart state dueMs =>
    -- a request is only made while nothing is held, so an accepted one starts a new lease
    have waiting : r.wifi.state = .grace ∨ r.wifi.state = .reconnectWindow := state
    have free : r.wifi.suppressionHeld = false := by
      rw [Bool.eq_false_iff, Ne, well.held]
      rcases waiting with state | state <;> simp [state]
    constructor
    · constructor
      · exact iff_of_true rfl (Or.inl rfl)
      · intro associated
        exact absurd (associated.symm.trans apart) (by decide)
      · intro unknown
        exact absurd (unknown.symm.trans known) (by decide)
    · unfold WiFiArbitration.holding
      rw [free]
      simp
    · intro suppressed
      cases suppressed
  | refused dueMs =>
    constructor
    · exact ⟨well.held, well.associated, well.unknown⟩
    · exact rfl
    · exact Or.inl

theorem paired_loop (arbitrates : env.Arbitrates) (well : HeldWell r.wifi) :
    Paired env r.wifi (r.loopActions env nowMs) (r.loop env nowMs).wifi := by
  rw [loop_eq, loopActions]
  split
  · exact paired_unasked (by simp) well rfl Or.inl
  · let polling : EspIdfEspNowEncryptedRadio := { r with lastChannelPollMs := nowMs }
    have observed := paired_observe polling nowMs arbitrates well
    have processed := paired_process (polling.observeWifiAssociation env nowMs) nowMs arbitrates
      observed.well
    have arbitrated :
        Paired env r.wifi (r.arbitrateActions env nowMs) (r.arbitrate env nowMs).wifi :=
      observed.trans processed
    obtain ⟨same, unasked⟩ := ((r.arbitrate env nowMs).listened_listen env nowMs).wifi
    have wifi : ((r.arbitrate env nowMs).listen env nowMs).wifi = (r.arbitrate env nowMs).wifi :=
      same
    apply arbitrated.trans
    rw [wifi]
    exact paired_unasked unasked arbitrated.well rfl Or.inl

end EspIdfEspNowEncryptedRadio

namespace RadioRun
open EspIdfEspNowEncryptedRadio TimedLog

/-- How often a run has taken an action. -/
def taken (s : RadioRun) (action : RadioAction) : Nat :=
  (s.history.map TimedRecord.event).count action

structure Leased (s : RadioRun) : Prop where
  well : HeldWell s.radio.wifi
  balanced : s.taken (.suppressionRequested true) =
    s.taken .suppressionReleased + s.radio.wifi.holding

def Managed (made : RadioCall) : Prop :=
  ∀ env, made = .loop env → env.Arbitrates

theorem managed_loop {env : RadioEnvironment} (arbitrates : env.Arbitrates) :
    Managed (.loop env) := by
  intro same equal
  cases equal
  exact arbitrates

theorem taken_record (s : RadioRun) (actions : List RadioAction) (action : RadioAction) :
    (s.record actions).taken action = actions.count action + s.taken action := by
  unfold taken record
  rw [List.map_append, List.count_append, map_event_stamped, List.count_reverse]

/-- One call, from a well held lease on: the lease stays so, and only a poll to which Wi-Fi
    reports the suppression active enters the suppressed state. -/
theorem leased_call (s : RadioRun) (made : RadioCall) (managed : Managed made) (leased : s.Leased) :
    (s.call made).Leased ∧
      ((s.call made).radio.wifi.state = .suppressed → s.radio.wifi.state = .suppressed ∨
        ∃ env, made = .loop env ∧ env.suppressionActive = true) := by
  rcases s.call_cases made with ⟨env, rfl⟩ | ⟨same, silent⟩
  · have paired := paired_loop s.radio s.nowMs (managed env rfl) leased.well
    constructor
    · constructor
      · exact paired.well
      · have before := leased.balanced
        have step := paired.balanced
        have recorded := s.taken_record (s.radio.loopActions env s.nowMs)
        have requested := recorded (.suppressionRequested true)
        have released := recorded .suppressionReleased
        change (s.record _).taken _ = (s.record _).taken _ + (s.radio.loop env s.nowMs).wifi.holding
        omega
    · intro suppressed
      rcases paired.entered suppressed with before | active
      · exact Or.inl before
      · exact Or.inr ⟨env, rfl, active⟩
  · have wifi : (s.call made).radio.wifi = s.radio.wifi := congrArg View.wifi same
    constructor
    · constructor
      · rw [wifi]
        exact leased.well
      · unfold taken
        rw [silent, wifi]
        exact leased.balanced
    · intro suppressed
      rw [wifi] at suppressed
      exact Or.inl suppressed

theorem leased_calls (s : RadioRun) (made : List (Nat × RadioCall))
    (managed : ∀ timed ∈ made, Managed timed.2) (leased : s.Leased) : (s.calls made).Leased := by
  refine calls_keep Leased Managed ?_ ?_ s made managed leased
  · intro s elapsedMs leased
    exact ⟨leased.well, leased.balanced⟩
  · intro s made managed leased
    exact (s.leased_call made managed leased).1

theorem leased_fresh (peers : PeerRegistry) (expectedChannel : UInt8) (configured : Bool)
    (instant : Nat) : (fresh peers expectedChannel configured instant).Leased := by
  constructor
  · constructor
    · exact iff_of_false Bool.false_ne_true (by simp [fresh])
    · intro associated
      cases associated
    · intro _
      exact rfl
  · exact rfl

/-- Wherever Wi-Fi is left to the arbitration, the accepted requests outnumber the releases by
    one while the lease is held and by none otherwise; it is held in two of the states, and never
    while associated. The suppressed state is entered only by a poll that finds the suppression
    active. -/
theorem suppression_paired (peers : PeerRegistry) (expectedChannel : UInt8) (configured : Bool)
    (instant : Nat) (made : List (Nat × RadioCall)) (managed : ∀ timed ∈ made, Managed timed.2) :
    let start := fresh peers expectedChannel configured instant
    let s := start.calls made
    (s.taken (.suppressionRequested true) : Int) - s.taken .suppressionReleased =
        (if s.radio.wifi.suppressionHeld then 1 else 0) ∧
      (s.radio.wifi.suppressionHeld = true ↔
        s.radio.wifi.state = .requesting ∨ s.radio.wifi.state = .suppressed) ∧
      ¬ (s.radio.wifi.associated = true ∧ s.radio.wifi.suppressionHeld = true) ∧
      ∀ earlier timed later, made = earlier ++ timed :: later →
        (start.calls earlier).radio.wifi.state ≠ .suppressed →
        (start.calls (earlier ++ [timed])).radio.wifi.state = .suppressed →
        ∃ env, timed.2 = .loop env ∧ env.suppressionActive = true := by
  intro start s
  have fresh := leased_fresh peers expectedChannel configured instant
  have leased : s.Leased := leased_calls start made managed fresh
  refine ⟨?_, leased.well.held, ?_, ?_⟩
  · have balanced := leased.balanced
    unfold WiFiArbitration.holding at balanced
    split at balanced
    · rename_i held
      rw [if_pos held]
      omega
    · rename_i free
      rw [if_neg free]
      omega
  · rintro ⟨associated, held⟩
    rw [leased.well.associated associated] at held
    cases held
  · intro earlier timed later parts before after
    have started : (start.calls earlier).Leased := by
      apply leased_calls start earlier ?_ fresh
      intro each member
      exact managed each (parts ▸ List.mem_append_left _ member)
    have waited : ((start.calls earlier).wait timed.1).Leased := ⟨started.well, started.balanced⟩
    have own : Managed timed.2 :=
      managed timed (parts ▸ List.mem_append_right _ List.mem_cons_self)
    have step := (leased_call _ timed.2 own waited).2
    unfold calls at after
    rw [List.foldl_append] at after
    rcases step after with still | active
    · exact absurd still before
    · exact active

/-- A connection lost at the first poll, a request once the grace is over, and its confirmation. -/
def lossAndSuppression : List (Nat × RadioCall) :=
  [(300, .loop { associated := false }),
    (30000, .loop { associated := false, suppressionAccepted := true }),
    (300, .loop { associated := false, suppressionActive := true })]

def lonePeer : PeerRegistry :=
  (PeerRegistry.empty.add ⟨(BoundedText.assign [112]).2, .replicate 6 0, .replicate 16 0⟩).2

theorem lossAndSuppression_managed : ∀ timed ∈ lossAndSuppression, Managed timed.2 := by
  intro timed member
  unfold lossAndSuppression at member
  rcases List.mem_cons.mp member with rfl | member
  · exact managed_loop ⟨rfl, rfl⟩
  rcases List.mem_cons.mp member with rfl | member
  · exact managed_loop ⟨rfl, rfl⟩
  rw [List.mem_singleton.mp member]
  exact managed_loop ⟨rfl, rfl⟩

theorem lossAndSuppression_held :
    let s := (fresh lonePeer 1 true 0).calls lossAndSuppression
    s.radio.wifi.state = .suppressed ∧
      (s.taken (.suppressionRequested true) : Int) - s.taken .suppressionReleased =
        (if s.radio.wifi.suppressionHeld then 1 else 0) :=
  ⟨by decide +kernel, (suppression_paired lonePeer 1 true 0 lossAndSuppression
    lossAndSuppression_managed).1⟩

end RadioRun

end EspNowNet
