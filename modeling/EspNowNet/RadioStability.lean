import EspNowNet.Library.GuardedInvariant
import EspNowNet.RadioHistory

/- The radio is initialised only on a channel that has been the expected one for long enough.
   A stable channel carries the time of a poll since which every poll has read it. -/
namespace EspNowNet.RadioRun
open EspIdfEspNowEncryptedRadio GuardedInvariant TimedLog

/-- The expected channel, and nothing that ends its stability. -/
def Calm (expected : UInt8) : RadioAction → Prop
  | .polled channel => channel = some expected
  | .restarted | .suppressionConfirmed => False
  | .suppressionRequested _ | .suppressionReleased | .initializeRadio => True

/-- A poll read the channel at `since`, and all that came after it is calm. -/
def SteadySince (expected : UInt8) (since : Nat) (history : List RadioRecord) : Prop :=
  ∃ between before, history = between ++ ⟨since, .polled (some expected)⟩ :: before ∧
    ∀ record ∈ between, Calm expected record.event

/-- An initialisation comes at least the stabilisation time after a poll since which the channel
    has been steady. -/
def Prepared (expected : UInt8) (older : List RadioRecord) (record : RadioRecord) : Prop :=
  record.event = .initializeRadio →
    ∃ since, since + channelStabilizationMs.toNat ≤ record.instant ∧
      SteadySince expected since older

structure Steady (expected : UInt8) (v : View) (instant : Nat) (history : List RadioRecord) :
    Prop where
  channel : v.expectedChannel = expected
  stable : v.channelStable = true → ∃ since, since ≤ instant ∧
    v.stableSinceMs = UInt32.ofNat since ∧ SteadySince expected since history
  prepared : Throughout (Prepared expected) history

variable {expected : UInt8} {v w : View} {env : RadioEnvironment} {instant since : Nat}
  {actions : List RadioAction} {history : List RadioRecord}

variable (instant) in
theorem SteadySince.extended (steady : SteadySince expected since history)
    (calm : ∀ action ∈ actions, Calm expected action) :
    SteadySince expected since (stamped instant actions ++ history) := by
  obtain ⟨between, before, rfl, quiet⟩ := steady
  refine ⟨stamped instant actions ++ between, before, (List.append_assoc ..).symm, ?_⟩
  intro record member
  rcases List.mem_append.mp member with later | earlier
  · exact calm _ (mem_stamped.mp later).2
  · exact quiet record earlier

theorem prepared_stamped (prepared : Throughout (Prepared expected) history)
    (none : .initializeRadio ∉ actions) :
    Throughout (Prepared expected) (stamped instant actions ++ history) :=
  throughout_stamped (fun _ _ other own => absurd own other) prepared none

theorem calm_of_forWifi {action : RadioAction} (asked : ForWifi action) : Calm expected action := by
  cases action with
  | suppressionRequested accepted => trivial
  | suppressionReleased => trivial
  | polled channel => cases asked
  | suppressionConfirmed => cases asked
  | restarted => cases asked
  | initializeRadio => cases asked

/- The arbitration -/

theorem Arbitrated.steady (arbitrated : Arbitrated v actions w)
    (steady : Steady expected v instant history) :
    Steady expected w instant (stamped instant actions ++ history) := by
  cases arbitrated with
  | quiet asked wifi =>
    constructor
    · exact steady.channel
    · intro stable
      obtain ⟨since, past, stamp, calm⟩ := steady.stable stable
      refine ⟨since, past, stamp, calm.extended instant ?_⟩
      intro action member
      exact calm_of_forWifi (asked action member)
    · apply prepared_stamped steady.prepared
      exact fun member => asked _ member
  | confirmed asked wifi =>
    constructor
    · exact steady.channel
    · intro stable
      cases stable
    · apply prepared_stamped steady.prepared
      intro member
      rcases List.mem_append.mp member with first | last
      · exact asked _ first
      · cases List.mem_singleton.mp last

/- Reading the channel -/

theorem elapsed_real {duration : UInt32} (past : since ≤ instant)
    (long : duration ≤ UInt32.ofNat instant - UInt32.ofNat since) :
    since + duration.toNat ≤ instant := by
  have bound := UInt32.le_iff_toNat_le.mp long
  rw [UInt32.toNat_sub, UInt32.toNat_ofNat', UInt32.toNat_ofNat'] at bound
  omega

theorem Listened.steady (listened : Listened v env (UInt32.ofNat instant) actions w)
    (steady : Steady expected v instant history) :
    Steady expected w instant (stamped instant actions ++ history) := by
  have polled : env.channel = some v.expectedChannel →
      ∀ action ∈ [RadioAction.polled env.channel], Calm expected action := by
    intro own action member
    rw [List.mem_singleton.mp member, own, steady.channel]
    exact rfl
  cases listened with
  | lost other =>
    constructor
    · exact steady.channel
    · intro stable
      cases stable
    · exact prepared_stamped steady.prepared (by simp)
  | begun own =>
    constructor
    · exact steady.channel
    · intro stable
      refine ⟨instant, le_refl _, rfl, [], history, ?_, by simp⟩
      rw [own, steady.channel]
      rfl
    · exact prepared_stamped steady.prepared (by simp)
  | settled own =>
    constructor
    · exact steady.channel
    · intro stable
      obtain ⟨since, past, stamp, calm⟩ := steady.stable stable
      exact ⟨since, past, stamp, calm.extended instant (polled own)⟩
    · exact prepared_stamped steady.prepared (by simp)
  | restarted own stable long due =>
    constructor
    · exact steady.channel
    · intro stable
      cases stable
    · exact prepared_stamped steady.prepared (by simp)
  | initializing outcome own stable long due =>
    obtain ⟨since, past, stamp, calm⟩ := steady.stable stable
    have read := calm.extended instant (polled own)
    have parts := stamped_append instant [RadioAction.polled env.channel]
      [RadioAction.initializeRadio]
    rw [List.singleton_append] at parts
    rw [parts, List.append_assoc]
    constructor
    · exact steady.channel
    · intro _
      refine ⟨since, past, stamp, read.extended instant ?_⟩
      intro action member
      rw [List.mem_singleton.mp member]
      trivial
    · have first : stamped instant [RadioAction.initializeRadio] =
        [⟨instant, .initializeRadio⟩] := rfl
      rw [first, List.singleton_append, throughout_cons]
      constructor
      · intro _
        rw [stamp] at long
        exact ⟨since, elapsed_real past long, read⟩
      · exact prepared_stamped steady.prepared (by simp)

/- Runs -/

theorem Stepped.steady (stepped : Stepped v (UInt32.ofNat instant) actions w)
    (steady : Steady expected v instant history) :
    Steady expected w instant (stamped instant actions ++ history) := by
  cases stepped with
  | idle => exact steady
  | @polled env asked listened _ _ arbitration listening =>
    have next := Listened.steady listening (Arbitrated.steady arbitration steady)
    rw [stamped_append, List.append_assoc]
    exact next

theorem steady_calls (s : RadioRun) (made : List (Nat × RadioCall))
    (start : Steady expected s.radio.view s.instant s.history) :
    Steady expected (s.calls made).radio.view (s.calls made).instant (s.calls made).history := by
  refine calls_keep (fun s => Steady expected s.radio.view s.instant s.history) (fun _ => True)
    ?_ ?_ s made (fun _ _ => trivial) start
  · intro s elapsedMs steady
    refine ⟨steady.channel, ?_, steady.prepared⟩
    intro stable
    obtain ⟨since, past, stamp, calm⟩ := steady.stable stable
    exact ⟨since, past.trans (Nat.le_add_right _ _), stamp, calm⟩
  · intro s made _ steady
    obtain ⟨actions, extended, stepped⟩ := s.stepped_call made
    rw [extended, instant_call]
    exact Stepped.steady stepped steady

theorem steady_fresh (peers : PeerRegistry) (configured : Bool) :
    Steady expected (fresh peers expected configured instant).radio.view instant [] := by
  constructor
  · exact rfl
  · intro stable
    cases stable
  · exact throughout_nil

theorem initialized_recorded (s : RadioRun) (made : List (Nat × RadioCall))
    (start : s.radio.initialized = true → ∃ record ∈ s.history, record.event = .initializeRadio) :
    (s.calls made).radio.initialized = true →
      ∃ record ∈ (s.calls made).history, record.event = .initializeRadio := by
  refine calls_keep (fun s => s.radio.initialized = true →
    ∃ record ∈ s.history, record.event = .initializeRadio) (fun _ => True)
    ?_ ?_ s made (fun _ _ => trivial) start
  · intro s elapsedMs recorded
    exact recorded
  · intro s made _ recorded now
    obtain ⟨actions, extended, stepped⟩ := s.stepped_call made
    rw [extended]
    rcases stepped.initialized _ now with before | named
    · obtain ⟨record, member, action⟩ := recorded before
      exact ⟨record, List.mem_append_right _ member, action⟩
    · refine ⟨⟨s.instant, .initializeRadio⟩, List.mem_append_left _ ?_, rfl⟩
      exact List.mem_reverse.mpr (List.mem_map_of_mem named)

/-- A radio is never found initialised without the stable channel before it. -/
theorem initialized_prepared (peers : PeerRegistry) (expectedChannel : UInt8)
    (configured : Bool) (instant : Nat) (made : List (Nat × RadioCall))
    (initialized :
      ((fresh peers expectedChannel configured instant).calls made).radio.initialized = true) :
    ∃ record older,
      record :: older <:+ ((fresh peers expectedChannel configured instant).calls made).history ∧
      ∃ since, since + channelStabilizationMs.toNat ≤ record.instant ∧
        SteadySince expectedChannel since older := by
  set start := fresh peers expectedChannel configured instant
  have steady := steady_calls start made (steady_fresh peers configured)
  obtain ⟨record, member, action⟩ := start.initialized_recorded made (fun now => by cases now)
    initialized
  obtain ⟨newer, older, parts⟩ := List.append_of_mem member
  have present : record :: older <:+ (start.calls made).history := ⟨newer, parts.symm⟩
  exact ⟨record, older, present, steady.prepared record older present action⟩

/-- Whatever Wi-Fi and the driver answer, each initialisation of a run comes at least 5000 ms
    after a poll since which every poll has read the expected channel, and since which the radio
    has been neither restarted nor told of a suppression. -/
theorem initialization_waits_for_stability (peers : PeerRegistry) (expectedChannel : UInt8)
    (configured : Bool) (instant : Nat) (made : List (Nat × RadioCall)) :
    Throughout (Prepared expectedChannel)
      ((fresh peers expectedChannel configured instant).calls made).history := by
  apply Steady.prepared
  exact steady_calls _ made (steady_fresh peers configured)

end EspNowNet.RadioRun
