import EspNowNet.RadioStability
import EspNowNet.ReconnectSuppression

/- Restarts of the radio and attempts to initialise it keep their distances. A timestamp of zero
   stands for never, so what happens while the clock is at zero leaves no mark. -/
namespace EspNowNet.RadioRun
open EspIdfEspNowEncryptedRadio GuardedInvariant TimedLog

/-- Since the same action before, `gapMs` have passed. -/
def Apart (action : RadioAction) (gapMs : Nat) (older : List RadioRecord) (record : RadioRecord) :
    Prop :=
  record.event = action →
    ∀ earlier ∈ older, earlier.event = action → earlier.instant + gapMs ≤ record.instant

instance decidableApart (action : RadioAction) (gapMs : Nat) (older : List RadioRecord)
    (record : RadioRecord) : Decidable (Apart action gapMs older record) :=
  inferInstanceAs (Decidable (_ → _))

def Timed : RadioAction → Prop
  | .restarted | .initializeRadio => True
  | .polled _ | .suppressionRequested _ | .suppressionReleased | .suppressionConfirmed => False

def Marked (s : RadioRun) : RadioCall → Prop
  | .loop env => s.nowMs = 0 → ∀ action ∈ s.radio.loopActions env s.nowMs, ¬ Timed action
  | _ => True

def AllMarked : RadioRun → List (Nat × RadioCall) → Prop
  | _, [] => True
  | s, timed :: later =>
    Marked (s.wait timed.1) timed.2 ∧ AllMarked ((s.wait timed.1).call timed.2) later

/-- The stamp is of the event, or of something after it. -/
def NotBefore (stamp : UInt32) (instant event : Nat) : Prop :=
  ∃ last, event ≤ last ∧ last ≤ instant ∧ stamp = UInt32.ofNat last

/-- Each restart is behind the timer of the recovery. Each attempt is behind that of the
    initialisation, or behind a restart, after which the channel must become stable anew. -/
structure Spacing (v : View) (instant : Nat) (history : List RadioRecord) : Prop where
  past : ∀ record ∈ history, record.instant ≤ instant
  restarts : ∀ record ∈ history, record.event = .restarted →
    v.recoveryMs ≠ 0 ∧ NotBefore v.recoveryMs instant record.instant
  attempts : ∀ record ∈ history, record.event = .initializeRadio →
    (v.initializationMs ≠ 0 ∧ NotBefore v.initializationMs instant record.instant) ∨
      (v.channelStable = true → NotBefore v.stableSinceMs instant record.instant)
  restartsApart : Throughout (Apart .restarted radioRecoveryCooldownMs.toNat) history
  attemptsApart : Throughout (Apart .initializeRadio initializationRetryMs.toNat) history

variable {v w : View} {env : RadioEnvironment} {instant later event gapMs : Nat} {stamp : UInt32}
  {action : RadioAction} {actions : List RadioAction} {history : List RadioRecord}

theorem NotBefore.wait (notBefore : NotBefore stamp instant event) (after : instant ≤ later) :
    NotBefore stamp later event := by
  obtain ⟨last, behind, past, same⟩ := notBefore
  exact ⟨last, behind, past.trans after, same⟩

theorem notBefore_now (past : event ≤ instant) :
    NotBefore (UInt32.ofNat instant) instant event :=
  ⟨instant, past, le_refl _, rfl⟩

theorem NotBefore.elapsed {durationMs : UInt32} (notBefore : NotBefore stamp instant event)
    (long : durationMs ≤ UInt32.ofNat instant - stamp) :
    event + durationMs.toNat ≤ instant := by
  obtain ⟨last, behind, past, rfl⟩ := notBefore
  have real := elapsed_real past long
  omega

theorem apart_stamped (apart : Throughout (Apart action gapMs) history)
    (none : action ∉ actions) :
    Throughout (Apart action gapMs) (stamped instant actions ++ history) :=
  throughout_stamped (fun _ _ other own => absurd own other) apart none

/-- What stamps nothing may end the stability of the channel, or begin it now. -/
structure Unstamped (v : View) (instant : Nat) (actions : List RadioAction) (w : View) : Prop where
  untimed : ∀ action ∈ actions, ¬ Timed action
  recovery : w.recoveryMs = v.recoveryMs
  initialization : w.initializationMs = v.initializationMs
  stable : w.channelStable = true → w.stableSinceMs = UInt32.ofNat instant ∨
    v.channelStable = true ∧ w.stableSinceMs = v.stableSinceMs

theorem Unstamped.spacing (unstamped : Unstamped v instant actions w)
    (spacing : Spacing v instant history) :
    Spacing w instant (stamped instant actions ++ history) := by
  have old {record : RadioRecord} (member : record ∈ stamped instant actions ++ history)
      (timed : Timed record.event) : record ∈ history := by
    rcases List.mem_append.mp member with new | old
    · exact absurd timed (unstamped.untimed _ (mem_stamped.mp new).2)
    · exact old
  constructor
  · exact past_stamped spacing.past
  · intro record member own
    rw [unstamped.recovery]
    exact spacing.restarts record (old member (own ▸ trivial)) own
  · intro record member own
    have before := old member (own ▸ trivial)
    rw [unstamped.initialization]
    apply (spacing.attempts record before own).imp id
    intro since stable
    rcases unstamped.stable stable with now | ⟨still, same⟩
    · rw [now]
      exact notBefore_now (spacing.past record before)
    · rw [same]
      exact since still
  · exact apart_stamped spacing.restartsApart fun taken => unstamped.untimed _ taken trivial
  · exact apart_stamped spacing.attemptsApart fun taken => unstamped.untimed _ taken trivial

theorem untimed_of_forWifi (asked : ForWifi action) : ¬ Timed action := by
  intro timed
  cases action with
  | restarted | initializeRadio => cases asked
  | polled | suppressionRequested | suppressionReleased | suppressionConfirmed => cases timed

theorem Arbitrated.unstamped (arbitrated : Arbitrated v actions w) (instant : Nat) :
    Unstamped v instant actions w := by
  cases arbitrated with
  | quiet asked wifi =>
    exact ⟨fun action member => untimed_of_forWifi (asked action member), rfl, rfl,
      fun stable => Or.inr ⟨stable, rfl⟩⟩
  | confirmed asked wifi =>
    refine ⟨?_, rfl, rfl, fun stable => by cases stable⟩
    intro action member
    rcases List.mem_append.mp member with first | last
    · exact untimed_of_forWifi (asked action first)
    · rw [List.mem_singleton.mp last]
      exact not_false

theorem Listened.spacing (listened : Listened v env (UInt32.ofNat instant) actions w)
    (marked : UInt32.ofNat instant = 0 → ∀ action ∈ actions, ¬ Timed action)
    (spacing : Spacing v instant history) :
    Spacing w instant (stamped instant actions ++ history) := by
  have polled : ∀ action ∈ [RadioAction.polled env.channel], ¬ Timed action := by
    intro action member
    rw [List.mem_singleton.mp member]
    exact not_false
  have nonzero (action : RadioAction) (taken : action ∈ actions) (timed : Timed action) :
      UInt32.ofNat instant ≠ 0 :=
    fun zero => marked zero action taken timed
  have plain {w : View} (unstamped : Unstamped v instant [.polled env.channel] w) :
      Spacing w instant (stamped instant [.polled env.channel] ++ history) :=
    unstamped.spacing spacing
  have past : ∀ record ∈ stamped instant actions ++ history, record.instant ≤ instant :=
    past_stamped spacing.past
  cases listened with
  | lost other => exact plain ⟨polled, rfl, rfl, fun stable => by cases stable⟩
  | begun own => exact plain ⟨polled, rfl, rfl, fun _ => Or.inl rfl⟩
  | settled own => exact plain ⟨polled, rfl, rfl, fun stable => Or.inr ⟨stable, rfl⟩⟩
  | restarted own stable long due =>
    constructor
    · exact past
    · intro record member _
      exact ⟨nonzero .restarted (by simp) trivial, notBefore_now (past record member)⟩
    · intro record member _
      exact Or.inr fun unstable => by cases unstable
    · change Throughout _
        (⟨instant, .restarted⟩ :: (stamped instant [.polled env.channel] ++ history))
      rw [throughout_cons]
      constructor
      · intro _ earlier member same
        rcases List.mem_append.mp member with now | old
        · exact absurd (same ▸ trivial) (polled _ (mem_stamped.mp now).2)
        · obtain ⟨known, behind⟩ := spacing.restarts earlier old same
          exact behind.elapsed (due.resolve_left known)
      · exact apart_stamped spacing.restartsApart (by simp)
    · exact apart_stamped spacing.attemptsApart (by simp)
  | initializing outcome own stable long due =>
    constructor
    · exact past
    · intro record member same
      rcases List.mem_append.mp member with now | old
      · have taken := (mem_stamped.mp now).2
        rw [same] at taken
        simp at taken
      · exact spacing.restarts record old same
    · intro record member _
      exact Or.inl
        ⟨nonzero .initializeRadio (by simp) trivial, notBefore_now (past record member)⟩
    · exact apart_stamped spacing.restartsApart (by simp)
    · change Throughout _
        (⟨instant, .initializeRadio⟩ :: (stamped instant [.polled env.channel] ++ history))
      rw [throughout_cons]
      constructor
      · intro _ earlier member same
        rcases List.mem_append.mp member with now | old
        · exact absurd (same ▸ trivial) (polled _ (mem_stamped.mp now).2)
        · -- the retry and the stabilisation take equally long
          rcases spacing.attempts earlier old same with ⟨known, behind⟩ | since
          · exact behind.elapsed (due.resolve_left known)
          · exact (since stable).elapsed long
      · exact apart_stamped spacing.attemptsApart (by simp)

theorem Stepped.spacing (stepped : Stepped v (UInt32.ofNat instant) actions w)
    (marked : UInt32.ofNat instant = 0 → ∀ action ∈ actions, ¬ Timed action)
    (spacing : Spacing v instant history) :
    Spacing w instant (stamped instant actions ++ history) := by
  cases stepped with
  | idle => exact spacing
  | @polled env asked listened _ _ arbitration listening =>
    have arbitrated := (Arbitrated.unstamped arbitration instant).spacing spacing
    rw [stamped_append, List.append_assoc]
    apply Listened.spacing listening _ arbitrated
    intro zero action member
    exact marked zero action (List.mem_append_right _ member)

/- Runs -/

theorem spacing_call (s : RadioRun) (made : RadioCall) (marked : s.Marked made)
    (spacing : Spacing s.radio.view s.instant s.history) :
    Spacing (s.call made).radio.view (s.call made).instant (s.call made).history := by
  rw [instant_call]
  rcases s.call_cases made with ⟨env, rfl⟩ | ⟨same, silent⟩
  · exact Stepped.spacing (s.radio.stepped_loop env s.nowMs) marked spacing
  · rw [same, silent]
    exact spacing

theorem Spacing.wait (spacing : Spacing v instant history) (after : instant ≤ later) :
    Spacing v later history := by
  constructor
  · intro record member
    exact (spacing.past record member).trans after
  · intro record member same
    obtain ⟨known, behind⟩ := spacing.restarts record member same
    exact ⟨known, behind.wait after⟩
  · intro record member same
    apply (spacing.attempts record member same).imp
    · rintro ⟨known, behind⟩
      exact ⟨known, behind.wait after⟩
    · exact fun since stable => (since stable).wait after
  · exact spacing.restartsApart
  · exact spacing.attemptsApart

theorem spacing_calls (s : RadioRun) (made : List (Nat × RadioCall)) (marked : s.AllMarked made)
    (start : Spacing s.radio.view s.instant s.history) :
    Spacing (s.calls made).radio.view (s.calls made).instant (s.calls made).history := by
  induction made generalizing s with
  | nil => exact start
  | cons timed later ih =>
    apply ih _ marked.2
    apply spacing_call _ _ marked.1
    exact start.wait (Nat.le_add_right _ _)

theorem spacing_fresh : Spacing v instant [] := by
  constructor
  · simp
  · simp
  · simp
  · exact throughout_nil
  · exact throughout_nil

/-- While nothing is stamped with zero, restarts are 30000 ms and attempts to initialise 5000 ms
    apart, whatever the clock wraps through. -/
theorem restarts_and_attempts_apart (peers : PeerRegistry) (expectedChannel : UInt8)
    (configured : Bool) (instant : Nat) (made : List (Nat × RadioCall))
    (marked : (fresh peers expectedChannel configured instant).AllMarked made) :
    let s := (fresh peers expectedChannel configured instant).calls made
    Throughout (Apart .restarted radioRecoveryCooldownMs.toNat) s.history ∧
      Throughout (Apart .initializeRadio initializationRetryMs.toNat) s.history := by
  have spacing := spacing_calls _ made marked spacing_fresh
  exact ⟨spacing.restartsApart, spacing.attemptsApart⟩

/-- The driver refuses two attempts; the second is made as soon as it may be. -/
def refusedTwice : List (Nat × RadioCall) :=
  [(250, .loop {}), (5000, .loop { initialized := false }), (4999, .loop { initialized := false }),
    (250, .loop { initialized := false })]

theorem restarts_and_attempts_apart_sample :
    let s := (fresh lonePeer 1 true 4294957296).calls refusedTwice
    s.taken .initializeRadio = 2 ∧
      Throughout (Apart .restarted radioRecoveryCooldownMs.toNat) s.history ∧
      Throughout (Apart .initializeRadio initializationRetryMs.toNat) s.history := by
  have marked : (fresh lonePeer 1 true 4294957296).AllMarked refusedTwice := by
    refine ⟨?_, ?_, ?_, ?_, trivial⟩ <;>
    · intro zero
      exact absurd zero (by decide +kernel)
  exact ⟨by decide +kernel, restarts_and_attempts_apart lonePeer 1 true 4294957296 _ marked⟩

/-- An attempt at zero is followed by another at the next poll. -/
def attemptAtZero : List (Nat × RadioCall) :=
  [(250, .loop {}), (5250, .loop { initialized := false }), (250, .loop { initialized := false })]

/-- A restart at zero is followed by another as soon as a request and the channel permit it. -/
def restartAtZero : List (Nat × RadioCall) :=
  [(250, .loop {}), (5000, .loop {}), (0, .requestRadioRecovery {}), (6500, .loop {}),
    (250, .loop {}), (5000, .loop {}), (0, .requestRadioRecovery {}), (6500, .loop {})]

theorem zero_stamp_is_forgotten :
    let attempted := (fresh lonePeer 1 true 4294961796).calls attemptAtZero
    let restarted := (fresh lonePeer 1 true 4294955546).calls restartAtZero
    ¬ Throughout (Apart .initializeRadio initializationRetryMs.toNat) attempted.history ∧
      ¬ Throughout (Apart .restarted radioRecoveryCooldownMs.toNat) restarted.history := by
  constructor
  · decide +kernel
  · decide +kernel

end EspNowNet.RadioRun
