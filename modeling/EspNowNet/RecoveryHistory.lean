import EspNowNet.Library.GuardedInvariant
import EspNowNet.Reliability
import Mathlib.Data.List.GetD

/- The last recovery events, kept in a ring and replayed to a log client line by line. A replay
   reads a copy of the ring, so what is recorded while it runs belongs to the next one. -/
namespace EspNowNet
open GuardedInvariant

structure RecoveryEvent where
  event : Option String := none
  uptime : UInt32 := 0
  rx : UInt32 := 0
  tx : UInt32 := 0
  result : Int := 0
  peer : Int := -1
  channel : Int := -1
  deriving DecidableEq

def recoveryHistorySize : Nat := 96

/-- `ring` is the array with its next slot and its count. -/
structure RecoveryHistory where
  ring : RecentWindow.Ring RecoveryEvent := ⟨List.replicate recoveryHistorySize {}, 0, 0⟩
  replay : List RecoveryEvent := List.replicate recoveryHistorySize {}
  replayCount : Nat := 0
  replayIndex : Nat := 0
  total : UInt32 := 0
  dumpDueMs : UInt32 := 0
  dumpRequested : Bool := false
  dumpActive : Bool := false

/-- What the clock, the radio and Wi-Fi answer while an event is recorded. -/
structure RecoveryEnvironment where
  nowMs : UInt32 := 0
  received : UInt32 := 0
  sent : UInt32 := 0
  channel : Option UInt8 := none

/-- The lines of the log, with the values they print. -/
inductive RecoveryLine where
  | begun (localBootId : UInt64) (nowMs : UInt32) (count : Nat) (overwritten : UInt32)
  | replayed (entry : RecoveryEvent) (ageMs : UInt32)
  | ended
  deriving DecidableEq

namespace RecoveryHistory

def entry (env : RecoveryEnvironment) (event : String) (result peer : Int) : RecoveryEvent where
  event := some event
  uptime := env.nowMs
  rx := env.received
  tx := env.sent
  result := result
  peer := peer
  channel :=
    match env.channel with
    | some channel => channel.toNat
    | none => -1

def recordRecoveryEvent (h : RecoveryHistory) (env : RecoveryEnvironment) (event : String)
    (result peer : Int) : RecoveryHistory :=
  { h with
    ring := h.ring.push recoveryHistorySize (entry env event result peer)
    total := h.total + 1 }

def requestRecoveryHistory (h : RecoveryHistory) (nowMs : UInt32) : RecoveryHistory :=
  { h with dumpRequested := true, dumpDueMs := nowMs + 5000 }

def copied (h : RecoveryHistory) : List RecoveryEvent :=
  (List.range h.ring.count).foldl (fun replay i =>
    replay.set i (h.ring.entries.getD
      ((h.ring.next + recoveryHistorySize - h.ring.count + i) % recoveryHistorySize) {})) h.replay

/-- `connected` is whether a log client is there to read. -/
def recoveryHistoryTick (h : RecoveryHistory) (localBootId : UInt64) (nowMs : UInt32)
    (connected : Bool) : Option RecoveryLine × RecoveryHistory :=
  if ¬ h.dumpRequested ∧ ¬ h.dumpActive then (none, h)
  else if deadlinePending nowMs h.dumpDueMs then (none, h)
  else if ¬ connected then (none, h)
  else
    let h := { h with dumpDueMs := nowMs + 250 }
    if h.dumpRequested then
      (some (.begun localBootId nowMs h.ring.count (h.total - UInt32.ofNat h.ring.count)),
        { h with
          dumpRequested := false
          dumpActive := true
          replayCount := h.ring.count
          replayIndex := 0
          replay := h.copied })
    else if h.replayIndex < h.replayCount then
      let entry := h.replay.getD h.replayIndex {}
      (some (.replayed entry (nowMs - entry.uptime)), { h with replayIndex := h.replayIndex + 1 })
    else (some .ended, { h with dumpActive := false })

end RecoveryHistory

/- Runs -/

inductive RecoveryCall where
  | record (env : RecoveryEnvironment) (event : String) (result peer : Int)
  | request (nowMs : UInt32)
  | tick (nowMs : UInt32) (connected : Bool)

inductive RecoveryRecord where
  | recorded (entry : RecoveryEvent)
  | requested
  | line (line : RecoveryLine)
  deriving DecidableEq

/-- The history is newest first, as every log of this development. -/
structure RecoveryRun where
  localBootId : UInt64
  history : RecoveryHistory := {}
  log : List RecoveryRecord := []

namespace RecoveryRun

def call (s : RecoveryRun) : RecoveryCall → RecoveryRun
  | .record env event result peer =>
    { s with
      history := s.history.recordRecoveryEvent env event result peer
      log := .recorded (RecoveryHistory.entry env event result peer) :: s.log }
  | .request nowMs =>
    { s with history := s.history.requestRecoveryHistory nowMs, log := .requested :: s.log }
  | .tick nowMs connected =>
    match s.history.recoveryHistoryTick s.localBootId nowMs connected with
    | (none, history) => { s with history }
    | (some line, history) => { s with history, log := .line line :: s.log }

def after (localBootId : UInt64) (made : List RecoveryCall) : RecoveryRun :=
  made.foldl call { localBootId }

end RecoveryRun

/-- The events a log has recorded. -/
def recorded (log : List RecoveryRecord) : List RecoveryEvent :=
  log.filterMap fun
    | .recorded entry => some entry
    | .requested | .line _ => none

/-- The events a log has printed. -/
def replayed (log : List RecoveryRecord) : List RecoveryEvent :=
  log.filterMap fun
    | .line (.replayed entry _) => some entry
    | .recorded _ | .requested | .line (.begun _ _ _ _) | .line .ended => none

namespace RecoveryHistory
variable {h : RecoveryHistory}

/- The copy -/

theorem sets_length {α : Type} (value : Nat → α) (count : Nat) (values : List α) :
    ((List.range count).foldl (fun values i => values.set i (value i)) values).length =
      values.length := by
  induction count with
  | zero => rfl
  | succ count hyp => rw [List.range_succ, List.foldl_append, List.foldl_cons, List.foldl_nil,
      List.length_set, hyp]

theorem sets_at {α : Type} (value : Nat → α) {count i : Nat} (values : List α)
    (room : count ≤ values.length) (inside : i < count) :
    ((List.range count).foldl (fun values i => values.set i (value i)) values)[i]? =
      some (value i) := by
  induction count with
  | zero => omega
  | succ count hyp =>
    have long := sets_length value count values
    rw [List.range_succ, List.foldl_append, List.foldl_cons, List.foldl_nil]
    by_cases last : i = count
    · subst last
      rw [List.getElem?_set_self (by omega)]
    · rw [List.getElem?_set_ne (Ne.symm last)]
      exact hyp (by omega) (by omega)

/-- What is copied are the newest entries, the oldest of them first. -/
theorem copied_window {entries : List RecoveryEvent}
    (tracks : RecentWindow.Tracks recoveryHistorySize h.ring entries)
    (sized : h.replay.length = recoveryHistorySize) :
    h.copied.take h.ring.count = (entries.take recoveryHistorySize).reverse := by
  have count := tracks.count
  have long : h.copied.length = recoveryHistorySize := by
    unfold copied
    rw [sets_length, sized]
  have window : (entries.take recoveryHistorySize).length = h.ring.count := by
    rw [List.length_take, count, Nat.min_comm]
  apply List.ext_getElem?
  intro i
  by_cases inside : i < h.ring.count
  · have own : h.ring.count - 1 - i < entries.length := by omega
    have slot := RecentWindow.oldest_first tracks inside
    have written := sets_at (fun i => h.ring.entries.getD
      ((h.ring.next + recoveryHistorySize - h.ring.count + i) % recoveryHistorySize) {})
      h.replay (by omega) inside
    rw [List.getElem?_take_of_lt inside, List.getElem?_reverse (by omega), window,
      List.getElem?_take_of_lt (by omega), ← slot]
    rw [List.getElem?_eq_getElem own] at slot
    rw [slot]
    refine written.trans (congrArg some ?_)
    rw [List.getD_eq_getElem?_getD, slot]
    rfl
  · rw [List.getElem?_eq_none (by rw [List.length_take]; omega),
      List.getElem?_eq_none (by rw [List.length_reverse]; omega)]

inductive Ticked (h : RecoveryHistory) (localBootId : UInt64) :
    Option RecoveryLine → RecoveryHistory → Prop
  | idle : Ticked h localBootId none h
  | begun (nowMs dumpDueMs : UInt32) (requested : h.dumpRequested = true) :
    Ticked h localBootId
      (some (.begun localBootId nowMs h.ring.count (h.total - UInt32.ofNat h.ring.count)))
      { h with
        dumpDueMs, dumpRequested := false, dumpActive := true, replayCount := h.ring.count
        replayIndex := 0, replay := h.copied }
  | replayed (ageMs dumpDueMs : UInt32) (active : h.dumpActive = true)
      (more : h.replayIndex < h.replayCount) :
    Ticked h localBootId (some (.replayed (h.replay.getD h.replayIndex {}) ageMs))
      { h with dumpDueMs, replayIndex := h.replayIndex + 1 }
  | ended (dumpDueMs : UInt32) (active : h.dumpActive = true)
      (done : h.replayCount ≤ h.replayIndex) :
    Ticked h localBootId (some .ended) { h with dumpDueMs, dumpActive := false }

theorem ticked_recoveryHistoryTick (h : RecoveryHistory) (localBootId : UInt64) (nowMs : UInt32)
    (connected : Bool) : Ticked h localBootId
      (h.recoveryHistoryTick localBootId nowMs connected).1
      (h.recoveryHistoryTick localBootId nowMs connected).2 := by
  unfold recoveryHistoryTick
  split
  · exact .idle
  · rename_i busy
    split
    · exact .idle
    · split
      · exact .idle
      · simp only
        split
        · rename_i requested
          exact .begun nowMs _ requested
        · rename_i unrequested
          have active : h.dumpActive = true := by
            by_contra off
            exact busy ⟨unrequested, off⟩
          split
          · rename_i more
            exact .replayed _ _ active more
          · rename_i done
            exact .ended _ active (Nat.le_of_not_lt done)

end RecoveryHistory

namespace RecoveryRun
open RecoveryHistory

/-- A running replay has printed its window up to the index; the window is what was recorded
    before it began. -/
structure Replaying (h : RecoveryHistory) (entries printed : List RecoveryEvent) : Prop where
  window : h.replay.take h.replayCount = (entries.take recoveryHistorySize).reverse
  count : h.replayCount = (entries.take recoveryHistorySize).length
  index : h.replayIndex ≤ h.replayCount
  printed : printed.reverse = (entries.take recoveryHistorySize).reverse.take h.replayIndex

/-- A replay that ends, with no request since it began, has printed its whole window. -/
def Complete (older : List RecoveryRecord) (record : RecoveryRecord) : Prop :=
  record = .line .ended → ∀ between before localBootId nowMs count overwritten,
    older = between ++ .line (.begun localBootId nowMs count overwritten) :: before →
    .requested ∉ between → replayed between = (recorded before).take recoveryHistorySize

structure Faithful (s : RecoveryRun) : Prop where
  tracks : RecentWindow.Tracks recoveryHistorySize s.history.ring (recorded s.log)
  sized : s.history.replay.length = recoveryHistorySize
  running : ∀ between before localBootId nowMs count overwritten,
    s.log = between ++ .line (.begun localBootId nowMs count overwritten) :: before →
    .requested ∉ between → s.history.dumpRequested = false ∧
      (s.history.dumpActive = true → Replaying s.history (recorded before) (replayed between))
  complete : Throughout Complete s.log

variable {s : RecoveryRun}

theorem Replaying.done {h : RecoveryHistory} {entries printed : List RecoveryEvent}
    (replaying : Replaying h entries printed) (done : h.replayCount ≤ h.replayIndex) :
    printed = entries.take recoveryHistorySize := by
  have whole := replaying.printed
  rw [List.take_of_length_le (by rw [List.length_reverse, ← replaying.count]; exact done)] at whole
  exact List.reverse_injective whole

theorem Replaying.more {h : RecoveryHistory} {entries printed : List RecoveryEvent}
    (replaying : Replaying h entries printed) (more : h.replayIndex < h.replayCount)
    (dumpDueMs : UInt32) :
    Replaying { h with dumpDueMs, replayIndex := h.replayIndex + 1 } entries
      (h.replay.getD h.replayIndex {} :: printed) := by
  refine ⟨replaying.window, replaying.count, more, ?_⟩
  have slot : (entries.take recoveryHistorySize).reverse[h.replayIndex]? =
      some (h.replay.getD h.replayIndex {}) := by
    have inside : h.replayIndex < (h.replay.take h.replayCount).length := by
      rw [replaying.window, List.length_reverse, ← replaying.count]
      exact more
    rw [← replaying.window, List.getElem?_eq_getElem inside, List.getElem_take,
      List.getD_eq_getElem]
  rw [List.reverse_cons, replaying.printed, List.take_add_one, slot]
  rfl

theorem split_cons {record : RecoveryRecord} {log between before : List RecoveryRecord}
    {line : RecoveryLine} (other : record ≠ .line line)
    (whole : record :: log = between ++ .line line :: before) :
    ∃ rest, between = record :: rest ∧ log = rest ++ .line line :: before := by
  cases between with
  | nil => exact absurd (List.cons.inj whole).1 other
  | cons first rest =>
    obtain ⟨rfl, same⟩ := List.cons.inj whole
    exact ⟨rest, rfl, same⟩

theorem faithful_record (faithful : s.Faithful) (env : RecoveryEnvironment) (event : String)
    (result peer : Int) : (s.call (.record env event result peer)).Faithful := by
  have pushed := RecentWindow.tracks_push (show 0 < recoveryHistorySize by decide) faithful.tracks
    (entry env event result peer)
  refine ⟨pushed, faithful.sized, ?_, ?_⟩
  · intro between before localBootId nowMs count overwritten whole unrequested
    obtain ⟨rest, rfl, same⟩ := split_cons (by simp) whole
    have earlier : .requested ∉ rest := fun member => unrequested (List.mem_cons_of_mem _ member)
    obtain ⟨quiet, running⟩ := faithful.running rest before _ _ _ _ same earlier
    refine ⟨quiet, fun active => ?_⟩
    have replaying := running active
    exact ⟨replaying.window, replaying.count, replaying.index, replaying.printed⟩
  · refine throughout_cons.mpr ⟨?_, faithful.complete⟩
    intro ended
    cases ended

theorem faithful_request (faithful : s.Faithful) (nowMs : UInt32) :
    (s.call (.request nowMs)).Faithful := by
  have tracks := faithful.tracks
  have same : recorded (.requested :: s.log) = recorded s.log := List.filterMap_cons_none rfl
  rw [← same] at tracks
  unfold call requestRecoveryHistory
  refine ⟨tracks, faithful.sized, ?_, ?_⟩
  · intro between before localBootId nowMs count overwritten whole unrequested
    obtain ⟨rest, rfl, same⟩ := split_cons (by simp) whole
    exact absurd List.mem_cons_self unrequested
  · refine throughout_cons.mpr ⟨?_, faithful.complete⟩
    intro ended
    cases ended

theorem faithful_tick (faithful : s.Faithful) (nowMs : UInt32) (connected : Bool) :
    (s.call (.tick nowMs connected)).Faithful := by
  have ticked := ticked_recoveryHistoryTick s.history s.localBootId nowMs connected
  unfold call
  simp only
  generalize s.history.recoveryHistoryTick s.localBootId nowMs connected = ran at ticked ⊢
  obtain ⟨line, history⟩ := ran
  simp only at ticked
  cases ticked with
  | idle => exact faithful
  | begun nowMs dumpDueMs requested =>
    refine ⟨faithful.tracks, ?_, ?_, ?_⟩
    · exact (sets_length _ _ _).trans faithful.sized
    · intro between before localBootId nowMs count overwritten whole unrequested
      refine ⟨rfl, fun _ => ?_⟩
      cases between with
      | nil =>
        obtain ⟨-, rfl⟩ := List.cons.inj whole
        refine ⟨copied_window faithful.tracks faithful.sized, ?_, Nat.zero_le _, rfl⟩
        rw [List.length_take, Nat.min_comm]
        exact faithful.tracks.count
      | cons first rest =>
        -- an older replay without a request since would leave none pending
        have earlier : .requested ∉ rest := fun member =>
          unrequested (List.mem_cons_of_mem _ member)
        have quiet := (faithful.running rest before _ _ _ _ (List.cons.inj whole).2 earlier).1
        rw [quiet] at requested
        cases requested
    · refine throughout_cons.mpr ⟨?_, faithful.complete⟩
      intro ended
      cases ended
  | replayed ageMs dumpDueMs active more =>
    refine ⟨faithful.tracks, faithful.sized, ?_, ?_⟩
    · intro between before localBootId nowMs count overwritten whole unrequested
      obtain ⟨rest, rfl, same⟩ := split_cons (by simp) whole
      have earlier : .requested ∉ rest := fun member => unrequested (List.mem_cons_of_mem _ member)
      obtain ⟨quiet, running⟩ := faithful.running rest before _ _ _ _ same earlier
      exact ⟨quiet, fun active => (running active).more more dumpDueMs⟩
    · refine throughout_cons.mpr ⟨?_, faithful.complete⟩
      intro ended
      cases ended
  | ended dumpDueMs active done =>
    refine ⟨faithful.tracks, faithful.sized, ?_, ?_⟩
    · intro between before localBootId nowMs count overwritten whole unrequested
      obtain ⟨rest, rfl, same⟩ := split_cons (by simp) whole
      have earlier : .requested ∉ rest := fun member => unrequested (List.mem_cons_of_mem _ member)
      obtain ⟨quiet, -⟩ := faithful.running rest before _ _ _ _ same earlier
      exact ⟨quiet, fun active => by cases active⟩
    · refine throughout_cons.mpr ⟨?_, faithful.complete⟩
      intro _ between before localBootId nowMs count overwritten whole unrequested
      have running := (faithful.running between before _ _ _ _ whole unrequested).2 active
      exact running.done done

theorem faithful_after (localBootId : UInt64) (made : List RecoveryCall) :
    (after localBootId made).Faithful := by
  suffices ∀ s : RecoveryRun, s.Faithful → (made.foldl call s).Faithful by
    apply this
    refine ⟨RecentWindow.tracks_nil _ List.length_replicate, List.length_replicate, ?_,
      throughout_nil⟩
    intro between before _ _ _ _ whole
    cases between <;> cases whole
  induction made with
  | nil => exact fun s faithful => faithful
  | cons first rest ih =>
    intro s faithful
    apply ih
    cases first with
    | record env event result peer => exact faithful_record faithful env event result peer
    | request nowMs => exact faithful_request faithful nowMs
    | tick nowMs connected => exact faithful_tick faithful nowMs connected

/-- Between the first and the last line of a replay that no request interrupts stand exactly the
    events recorded last before it, whatever is recorded while it runs. -/
theorem replay_exact (localBootId : UInt64) (made : List RecoveryCall)
    {later between before : List RecoveryRecord} {nowMs : UInt32} {count : Nat}
    {overwritten : UInt32}
    (whole : (after localBootId made).log = later ++ .line .ended ::
      (between ++ .line (.begun localBootId nowMs count overwritten) :: before))
    (unrequested : .requested ∉ between) :
    (replayed between).reverse =
      ((recorded before).take (min (recorded before).length 96)).reverse := by
  have complete := (faithful_after localBootId made).complete (.line .ended) _ ⟨later, whole.symm⟩
  rw [complete rfl between before _ _ _ _ rfl unrequested, Nat.min_comm, ← List.take_eq_take_min]
  rfl

def sampleReplay : List RecoveryCall :=
  [.record { nowMs := 10 } "attempt_start" 0 (-1), .record { nowMs := 20 } "attempt_failed" 0 (-1),
    .request 100, .tick 5100 true, .tick 5350 true,
    .record { nowMs := 5400 } "recovery_queued" 0 (-1), .tick 5600 true, .tick 5850 true]

theorem replay_exact_sample :
    let first : RecoveryEvent := { event := some "attempt_start", uptime := 10 }
    let second : RecoveryEvent := { event := some "attempt_failed", uptime := 20 }
    let third : RecoveryEvent := { event := some "recovery_queued", uptime := 5400 }
    let between : List RecoveryRecord :=
      [.line (.replayed second 5580), .recorded third, .line (.replayed first 5340)]
    let before : List RecoveryRecord := [.requested, .recorded second, .recorded first]
    (after 7 sampleReplay).log =
        [] ++ .line .ended :: (between ++ .line (.begun 7 5100 2 0) :: before) ∧
      .requested ∉ between ∧
      (replayed between).reverse =
        ((recorded before).take (min (recorded before).length 96)).reverse := by
  intro first second third between before
  have whole : (after 7 sampleReplay).log =
      [] ++ .line .ended :: (between ++ .line (.begun 7 5100 2 0) :: before) := by decide +kernel
  have unrequested : .requested ∉ between := by decide +kernel
  exact ⟨whole, unrequested, replay_exact 7 sampleReplay whole unrequested⟩

end RecoveryRun

end EspNowNet
