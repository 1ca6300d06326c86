import EspNowNet.BoundedValue

/- One long-running operation and one interrupt of it, under their own ids. A log keeps the calls
   that succeeded, newest first; what the pair answers is a statement about that log. -/
namespace EspNowNet

structure InterruptibleTransactionPair where
  operationId : TransactionId := 0
  interruptId : TransactionId := 0
  interrupted : Bool := false
  deriving DecidableEq

namespace InterruptibleTransactionPair

def beginOperation (p : InterruptibleTransactionPair) (transactionId : TransactionId) :
    Bool × InterruptibleTransactionPair :=
  if transactionId = 0 ∨ p.operationId ≠ 0 ∨ p.interruptId ≠ 0 then (false, p)
  else (true, { p with operationId := transactionId, interrupted := false })

def beginInterrupt (p : InterruptibleTransactionPair) (transactionId : TransactionId) :
    Bool × InterruptibleTransactionPair :=
  if transactionId = 0 ∨ p.operationId = 0 ∨ p.interruptId ≠ 0 ∨ transactionId = p.operationId then
    (false, p)
  else (true, { p with interruptId := transactionId })

/-- A failed stop never changes the status of the original operation. -/
def finishInterrupt (p : InterruptibleTransactionPair) (transactionId : TransactionId)
    (stopped : Bool) : Bool × InterruptibleTransactionPair :=
  if transactionId = 0 ∨ transactionId ≠ p.interruptId then (false, p)
  else
    let p := { p with interruptId := 0 }
    (true, if stopped ∧ p.operationId ≠ 0 then { p with interrupted := true } else p)

def finishOperation (p : InterruptibleTransactionPair) (transactionId : TransactionId) :
    Bool × InterruptibleTransactionPair :=
  if transactionId = 0 ∨ transactionId ≠ p.operationId then (false, p)
  else (true, { p with operationId := 0, interrupted := false })

def operationInterrupted (p : InterruptibleTransactionPair) : Bool := p.interrupted

end InterruptibleTransactionPair

/- Runs -/

inductive PairCall where
  | beginOperation (transactionId : TransactionId)
  | beginInterrupt (transactionId : TransactionId)
  | finishInterrupt (transactionId : TransactionId) (stopped : Bool)
  | finishOperation (transactionId : TransactionId)
  deriving DecidableEq

namespace PairCall

def apply : PairCall → InterruptibleTransactionPair → Bool × InterruptibleTransactionPair
  | .beginOperation transactionId, p => p.beginOperation transactionId
  | .beginInterrupt transactionId, p => p.beginInterrupt transactionId
  | .finishInterrupt transactionId stopped, p => p.finishInterrupt transactionId stopped
  | .finishOperation transactionId, p => p.finishOperation transactionId

def OfOperation : PairCall → Prop
  | .beginOperation _ | .finishOperation _ => True
  | .beginInterrupt _ | .finishInterrupt _ _ => False

def FinishesInterrupt : PairCall → Prop
  | .finishInterrupt _ _ => True
  | .beginOperation _ | .beginInterrupt _ | .finishOperation _ => False

/-- What a call that succeeds does, and when it does. -/
inductive Accepted (p : InterruptibleTransactionPair) :
    PairCall → InterruptibleTransactionPair → Prop
  | beginOperation {transactionId : TransactionId} (named : transactionId ≠ 0)
      (idle : p.operationId = 0) (free : p.interruptId = 0) :
    Accepted p (.beginOperation transactionId)
      { p with operationId := transactionId, interrupted := false }
  | beginInterrupt {transactionId : TransactionId} (named : transactionId ≠ 0)
      (active : p.operationId ≠ 0) (free : p.interruptId = 0)
      (other : transactionId ≠ p.operationId) :
    Accepted p (.beginInterrupt transactionId) { p with interruptId := transactionId }
  | finishInterrupt {stopped : Bool} (named : p.interruptId ≠ 0) :
    Accepted p (.finishInterrupt p.interruptId stopped)
      (if stopped ∧ p.operationId ≠ 0 then { p with interruptId := 0, interrupted := true }
        else { p with interruptId := 0 })
  | finishOperation (named : p.operationId ≠ 0) :
    Accepted p (.finishOperation p.operationId) { p with operationId := 0, interrupted := false }

theorem accepted_of_apply {p p' : InterruptibleTransactionPair} {call : PairCall}
    (run : call.apply p = (true, p')) : Accepted p call p' := by
  cases call with
  | beginOperation transactionId =>
    simp only [apply, InterruptibleTransactionPair.beginOperation] at run
    split at run
    · cases run
    · rename_i accepted
      simp only [not_or, ne_eq, Decidable.not_not] at accepted
      obtain ⟨-, rfl⟩ := Prod.mk.inj run
      exact .beginOperation accepted.1 accepted.2.1 accepted.2.2
  | beginInterrupt transactionId =>
    simp only [apply, InterruptibleTransactionPair.beginInterrupt] at run
    split at run
    · cases run
    · rename_i accepted
      simp only [not_or, ne_eq, Decidable.not_not] at accepted
      obtain ⟨named, active, free, other⟩ := accepted
      obtain ⟨-, rfl⟩ := Prod.mk.inj run
      exact .beginInterrupt named active free other
  | finishInterrupt transactionId stopped =>
    simp only [apply, InterruptibleTransactionPair.finishInterrupt] at run
    split at run
    · cases run
    · rename_i accepted
      simp only [not_or, ne_eq, Decidable.not_not] at accepted
      obtain ⟨named, rfl⟩ := accepted
      obtain ⟨-, rfl⟩ := Prod.mk.inj run
      exact .finishInterrupt named
  | finishOperation transactionId =>
    simp only [apply, InterruptibleTransactionPair.finishOperation] at run
    split at run
    · cases run
    · rename_i accepted
      simp only [not_or, ne_eq, Decidable.not_not] at accepted
      obtain ⟨named, rfl⟩ := accepted
      obtain ⟨-, rfl⟩ := Prod.mk.inj run
      exact .finishOperation named

theorem unchanged_of_refused {p : InterruptibleTransactionPair} {call : PairCall}
    (refused : (call.apply p).1 = false) : (call.apply p).2 = p := by
  cases call with
  | beginOperation | beginInterrupt | finishInterrupt | finishOperation =>
    simp only [apply, InterruptibleTransactionPair.beginOperation,
      InterruptibleTransactionPair.beginInterrupt, InterruptibleTransactionPair.finishInterrupt,
      InterruptibleTransactionPair.finishOperation] at refused ⊢
    split at refused
    · rename_i rejected
      rw [if_pos rejected]
    · cases refused

end PairCall

structure PairRun where
  pair : InterruptibleTransactionPair := {}
  log : List PairCall := []
  deriving DecidableEq

namespace PairRun

def call (s : PairRun) (made : PairCall) : PairRun :=
  match made.apply s.pair with
  | (true, pair) => { pair, log := made :: s.log }
  | (false, pair) => { s with pair }

def after (made : List PairCall) : PairRun := made.foldl call {}

end PairRun

/- What a log means -/

namespace PairCall

/-- An operation is active, and `part` is true of the calls since it began. -/
def Within (part : List PairCall → Prop) (log : List PairCall) : Prop :=
  ∃ transactionId during before, log = during ++ .beginOperation transactionId :: before ∧
    (∀ call ∈ during, ¬ call.OfOperation) ∧ part during

def Active (log : List PairCall) : Prop := Within (fun _ => True) log

/-- The interrupt has begun and not finished. -/
def Opened (transactionId : TransactionId) (during : List PairCall) : Prop :=
  ∃ later earlier, during = later ++ .beginInterrupt transactionId :: earlier ∧
    ∀ call ∈ later, ¬ call.FinishesInterrupt

/-- Some interrupt has begun, and has then finished with success. -/
def Stopped (during : List PairCall) : Prop :=
  ∃ transactionId later earlier, during = later ++ .finishInterrupt transactionId true :: earlier ∧
    Opened transactionId earlier

/-- An operation is active, and an interrupt that began during it has stopped it. -/
def Interrupted (log : List PairCall) : Prop := Within Stopped log

variable {part : List PairCall → Prop} {during log : List PairCall} {call : PairCall}
  {transactionId other : TransactionId} {stopped : Bool}

theorem within_began : Within part (.beginOperation transactionId :: log) ↔ part [] := by
  constructor
  · rintro ⟨id, during, before, same, inside, own⟩
    cases during with
    | nil => exact own
    | cons first rest =>
      obtain ⟨rfl, _⟩ := List.cons.inj same
      exact absurd trivial (inside _ List.mem_cons_self)
  · intro own
    exact ⟨transactionId, [], log, rfl, by simp, own⟩

theorem within_finished : ¬ Within part (.finishOperation transactionId :: log) := by
  rintro ⟨id, during, before, same, inside, _⟩
  cases during with
  | nil => cases (List.cons.inj same).1
  | cons first rest =>
    obtain ⟨rfl, _⟩ := List.cons.inj same
    exact absurd trivial (inside _ List.mem_cons_self)

theorem within_aside (aside : ¬ call.OfOperation) :
    Within part (call :: log) ↔ Within (fun during => part (call :: during)) log := by
  constructor
  · rintro ⟨id, during, before, same, inside, own⟩
    cases during with
    | nil =>
      obtain ⟨rfl, _⟩ := List.cons.inj same
      exact absurd trivial aside
    | cons first rest =>
      obtain ⟨rfl, rfl⟩ := List.cons.inj same
      exact ⟨id, rest, before, rfl, fun c member => inside c (List.mem_cons_of_mem _ member), own⟩
  · rintro ⟨id, during, before, rfl, inside, own⟩
    refine ⟨id, call :: during, before, rfl, ?_, own⟩
    intro c member
    rcases List.mem_cons.mp member with rfl | later
    · exact aside
    · exact inside c later

theorem active_aside (aside : ¬ call.OfOperation) : Active (call :: log) ↔ Active log :=
  within_aside aside

theorem Within.active (within : Within part log) : Active log := by
  obtain ⟨id, during, before, same, inside, _⟩ := within
  exact ⟨id, during, before, same, inside, trivial⟩

theorem within_mono {other : List PairCall → Prop} (weaker : ∀ during, part during → other during)
    (within : Within part log) : Within other log := by
  obtain ⟨id, during, before, same, inside, own⟩ := within
  exact ⟨id, during, before, same, inside, weaker during own⟩

theorem opened_begun : Opened transactionId (.beginInterrupt transactionId :: during) :=
  ⟨[], during, rfl, by simp⟩

theorem not_stopped_nil : ¬ Stopped [] := by
  rintro ⟨_, later, earlier, same, _⟩
  cases later <;> cases same

/-- Nothing is stopped by a call that is not the successful end of an interrupt. -/
theorem stopped_aside (aside : ∀ id, call ≠ .finishInterrupt id true) :
    Stopped (call :: during) ↔ Stopped during := by
  constructor
  · rintro ⟨id, later, earlier, same, opened⟩
    cases later with
    | nil => exact absurd (List.cons.inj same).1 (aside id)
    | cons first rest => exact ⟨id, rest, earlier, (List.cons.inj same).2, opened⟩
  · rintro ⟨id, later, earlier, rfl, opened⟩
    exact ⟨id, call :: later, earlier, rfl, opened⟩

theorem stopped_finished : Stopped (.finishInterrupt transactionId true :: during) ↔
    Opened transactionId during ∨ Stopped during := by
  constructor
  · rintro ⟨id, later, earlier, same, opened⟩
    cases later with
    | nil =>
      obtain ⟨own, rfl⟩ := List.cons.inj same
      obtain ⟨rfl, _⟩ := PairCall.finishInterrupt.inj own
      exact Or.inl opened
    | cons first rest => exact Or.inr ⟨id, rest, earlier, (List.cons.inj same).2, opened⟩
  · rintro (opened | ⟨id, later, earlier, rfl, opened⟩)
    · exact ⟨transactionId, [], during, rfl, opened⟩
    · exact ⟨id, .finishInterrupt transactionId true :: later, earlier, rfl, opened⟩

end PairCall

/- The pair against its log -/

namespace PairRun
open PairCall

/-- An interrupt that is open while an operation is active began during that operation: none
    outlives its operation into the next one. -/
structure Tracked (s : PairRun) : Prop where
  apart : s.pair.operationId ≠ 0 → s.pair.operationId ≠ s.pair.interruptId
  active : s.pair.operationId ≠ 0 ↔ Active s.log
  opened : s.pair.operationId ≠ 0 → s.pair.interruptId ≠ 0 →
    Within (Opened s.pair.interruptId) s.log
  interrupted : s.pair.interrupted = true ↔ Interrupted s.log

variable {s : PairRun} {transactionId : TransactionId} {stopped : Bool}

theorem tracked_beginOperation (named : transactionId ≠ 0) (free : s.pair.interruptId = 0) :
    Tracked ⟨{ s.pair with operationId := transactionId, interrupted := false },
      .beginOperation transactionId :: s.log⟩ where
  apart _ := by simpa [free] using named
  active := iff_of_true named (within_began.mpr trivial)
  opened _ busy := absurd free busy
  interrupted := by
    apply iff_of_false Bool.false_ne_true
    intro interrupted
    exact not_stopped_nil (within_began.mp interrupted)

theorem tracked_beginInterrupt (tracked : s.Tracked) (active : s.pair.operationId ≠ 0)
    (other : transactionId ≠ s.pair.operationId) :
    Tracked ⟨{ s.pair with interruptId := transactionId },
      .beginInterrupt transactionId :: s.log⟩ where
  apart _ := other.symm
  active := tracked.active.trans (active_aside id).symm
  opened _ _ := by
    apply (within_aside id).mpr
    apply within_mono _ (tracked.active.mp active)
    intro during _
    exact opened_begun
  interrupted := by
    rw [tracked.interrupted, Interrupted, Interrupted, within_aside id]
    have aside (during : List PairCall) :
        Stopped (.beginInterrupt transactionId :: during) ↔ Stopped during :=
      stopped_aside (by simp)
    simp only [aside]

theorem tracked_finishOperation (transactionId : TransactionId) :
    Tracked ⟨{ s.pair with operationId := 0, interrupted := false },
      .finishOperation transactionId :: s.log⟩ where
  apart active := absurd rfl active
  active := iff_of_false (fun active => active rfl) within_finished
  opened active := absurd rfl active
  interrupted := iff_of_false Bool.false_ne_true within_finished

theorem tracked_finishInterrupt (tracked : s.Tracked) (named : s.pair.interruptId ≠ 0) :
    Tracked ⟨if stopped ∧ s.pair.operationId ≠ 0 then
        { s.pair with interruptId := 0, interrupted := true }
      else { s.pair with interruptId := 0 },
      .finishInterrupt s.pair.interruptId stopped :: s.log⟩ := by
  have active : s.pair.operationId ≠ 0 ↔
      Active (.finishInterrupt s.pair.interruptId stopped :: s.log) :=
    tracked.active.trans (active_aside id).symm
  split
  · rename_i stops
    obtain ⟨rfl, running⟩ := stops
    have opened := tracked.opened running named
    refine ⟨fun _ => running, active, fun _ busy => absurd rfl busy, ?_⟩
    apply iff_of_true rfl
    apply (within_aside id).mpr
    apply within_mono _ opened
    intro during own
    exact stopped_finished.mpr (Or.inl own)
  · rename_i quiet
    refine ⟨fun running => running, active, fun _ busy => absurd rfl busy, ?_⟩
    simp only [Interrupted]
    rw [tracked.interrupted, Interrupted, within_aside id]
    cases stopped with
    | false =>
      have aside (during : List PairCall) :
          Stopped (.finishInterrupt s.pair.interruptId false :: during) ↔ Stopped during :=
        stopped_aside (by simp)
      simp only [aside]
    | true =>
      -- the operation is over, so neither log has one
      have idle : s.pair.operationId = 0 := by simpa using quiet
      have none {part : List PairCall → Prop} : ¬ Within part s.log :=
        fun within => tracked.active.mpr within.active idle
      exact iff_of_false none none

theorem tracked_call (tracked : s.Tracked) (made : PairCall) : (s.call made).Tracked := by
  unfold call
  split
  · rename_i pair run
    cases accepted_of_apply run with
    | beginOperation named idle free => exact tracked_beginOperation named free
    | beginInterrupt named active free other => exact tracked_beginInterrupt tracked active other
    | finishInterrupt named => exact tracked_finishInterrupt tracked named
    | finishOperation named => exact tracked_finishOperation _
  · rename_i pair run
    obtain rfl : pair = s.pair := by
      have kept : (made.apply s.pair).2 = s.pair := unchanged_of_refused (by rw [run])
      rwa [run] at kept
    exact tracked

theorem tracked_after (made : List PairCall) : (after made).Tracked := by
  suffices ∀ s : PairRun, s.Tracked → (made.foldl call s).Tracked by
    apply this
    have none {part : List PairCall → Prop} : ¬ Within part [] := by
      rintro ⟨_, during, _, same, _⟩
      cases during <;> cases same
    exact ⟨fun active => absurd rfl active, iff_of_false (fun active => active rfl) none,
      fun active => absurd rfl active, iff_of_false Bool.false_ne_true none⟩
  induction made with
  | nil => exact fun s tracked => tracked
  | cons first rest ih => exact fun s tracked => ih _ (tracked_call tracked first)

/-- After any calls: the two ids are never one, an operation counts as interrupted exactly when
    an interrupt that began during it has since stopped it, and a call that fails does nothing. -/
theorem interrupts_correlated (made : List PairCall) :
    ¬ ((after made).pair.operationId = (after made).pair.interruptId ∧
        (after made).pair.operationId ≠ 0) ∧
      ((after made).pair.operationInterrupted = true ↔ Interrupted (after made).log) ∧
      ∀ call : PairCall, (call.apply (after made).pair).1 = false →
        (call.apply (after made).pair).2 = (after made).pair := by
  have tracked := tracked_after made
  refine ⟨?_, tracked.interrupted, fun call => unchanged_of_refused⟩
  rintro ⟨same, active⟩
  exact tracked.apart active same

end PairRun

end EspNowNet
