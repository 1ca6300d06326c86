import EspNowNet.DeclarativeHandler
import EspNowNet.Library.GuardedInvariant

/- Commands that are complete once a light is seen in the state expected of it. The declarative
   handler may be called in any order, and the lights may change between any two calls. -/
namespace EspNowNet
open GuardedInvariant

inductive LightExpectedState where
  | on
  | off
  | toggled
  deriving DecidableEq

/-- `light` names the light whose state is read, if one is set. -/
structure LightCommandCompletionProbe where
  light : Option Nat := none
  expected : LightExpectedState := .toggled
  expectedOn : Bool := false
  armed : Bool := false
  deriving DecidableEq

namespace LightCommandCompletionProbe

def seen (probe : LightCommandCompletionProbe) (lights : Nat → Bool) : Option Bool :=
  probe.light.map lights

def begin (probe : LightCommandCompletionProbe) (lights : Nat → Bool) :
    LightCommandCompletionProbe :=
  let current := (probe.seen lights).getD false
  { probe with
    expectedOn := probe.expected = .on || (probe.expected = .toggled && !current)
    armed := probe.light.isSome }

def completed (probe : LightCommandCompletionProbe) (lights : Nat → Bool) : Bool :=
  probe.armed && (probe.seen lights).any (· == probe.expectedOn)

def fillSnapshot (state : Bool) : Bool × NetStateSnapshot :=
  let schema := BoundedText.assign ("binary-state/v1".toList.map fun c => UInt8.ofNat c.toNat)
  let data := BoundedBytes.assign [if state then 1 else 0]
  (schema.1 && data.1, { completeness := .complete, schema := schema.2, data := data.2 })

def expectedSnapshot (probe : LightCommandCompletionProbe) : Bool × NetStateSnapshot :=
  fillSnapshot probe.expectedOn

def observedSnapshot (probe : LightCommandCompletionProbe) (lights : Nat → Bool) :
    Bool × NetStateSnapshot :=
  match probe.seen lights with
  | none => (false, {})
  | some state => fillSnapshot state

end LightCommandCompletionProbe

/-- What a handler has seen and given, newest first in a log. -/
inductive LightEvent where
  | started (transactionId : TransactionId) (binding : DeclarativeCommandBinding)
      (seen : Option Bool) (nowMs : UInt32)
  | watched (seen : Option Bool) (nowMs : UInt32)
  | given (result : NetResult)

/-- The handler with the probes of its bindings. Of two equal bindings only the first is ever
    started, so a probe is kept for the value of a binding. `log` is a history variable. -/
structure LightCommandHandler where
  handler : DeclarativeCommandHandler
  probes : DeclarativeCommandBinding → LightCommandCompletionProbe
  log : List LightEvent := []

inductive LightCommandCall where
  | start (request : NetCommand) (lights : Nat → Bool) (nowMs : UInt32)
  | loop (lights : Nat → Bool) (nowMs : UInt32)
  | takeResult
  | cancel (transactionId : TransactionId)

namespace LightCommandHandler

/-- `begin` comes before the actions of the binding, which may switch the light. -/
def start (s : LightCommandHandler) (request : NetCommand) (lights : Nat → Bool)
    (nowMs : UInt32) : LightCommandHandler :=
  match s.handler.bindings.1.find? (·.matches request) with
  | none => { s with handler := (s.handler.start request {} nowMs).2 }
  | some binding =>
    let begun := (s.probes binding).begin lights
    match s.handler.start request { expectedSnapshot := begun.expectedSnapshot } nowMs with
    | (.started, handler) =>
      { handler
        probes := if binding.hasCompletionProbe then Function.update s.probes binding begun
          else s.probes
        log := .started request.transactionId binding (begun.seen lights) nowMs :: s.log }
    | (_, handler) => { s with handler }

/-- The handler asks the probe of its binding while no result is ready. -/
def loop (s : LightCommandHandler) (lights : Nat → Bool) (nowMs : UInt32) : LightCommandHandler :=
  match s.handler.activeBinding with
  | none => s
  | some binding =>
    if s.handler.resultReady || !binding.hasCompletionProbe then s
    else
      let probe := s.probes binding
      { s with
        handler := s.handler.loop
          { completed := probe.completed lights
            observedSnapshot := (probe.observedSnapshot lights).2 } nowMs
        log := .watched (probe.seen lights) nowMs :: s.log }

def takeResult (s : LightCommandHandler) : LightCommandHandler :=
  match s.handler.takeResult with
  | (none, handler) => { s with handler }
  | (some result, handler) => { s with handler, log := .given result :: s.log }

def perform (s : LightCommandHandler) : LightCommandCall → LightCommandHandler
  | .start request lights nowMs => s.start request lights nowMs
  | .loop lights nowMs => s.loop lights nowMs
  | .takeResult => s.takeResult
  | .cancel transactionId => { s with handler := (s.handler.cancel transactionId).2 }

end LightCommandHandler

/- What the log says about a result -/

/-- The state a light is to reach that was seen like this before the command. -/
def LightExpectedState.after : LightExpectedState → Option Bool → Bool
  | .on, _ => true
  | .off, _ => false
  | .toggled, seen => !seen.getD false

def binaryState (state : Bool) : NetStateSnapshot :=
  (LightCommandCompletionProbe.fillSnapshot state).2

/-- A command as it was started. -/
structure LightCommand where
  transactionId : TransactionId
  timeoutMs : UInt32
  expected : Bool
  startedMs : UInt32

namespace LightCommand

/-- A look at the light ends the command. -/
def Decides (command : LightCommand) (seen : Option Bool) (nowMs : UInt32) : Prop :=
  seen = some command.expected ∨ command.timeoutMs ≤ nowMs - command.startedMs

def progress (command : LightCommand) : NetResult :=
  progressResult command.transactionId command.timeoutMs (true, binaryState command.expected)

/-- The only result of a command without a probe, right at its start. -/
def unwatched (command : LightCommand) : NetResult where
  transactionId := command.transactionId
  status := .succeeded
  execution := { started := true }

/-- The last result: the expected state if it is the one that was seen, otherwise a timeout. -/
def last (command : LightCommand) (seen : Option Bool) (nowMs : UInt32) : NetResult :=
  let result : NetResult :=
    { transactionId := command.transactionId, execution := { started := true }
      latencyMs := nowMs - command.startedMs }
  if seen = some command.expected then
    { result with status := .succeeded, remoteState := binaryState command.expected }
  else
    { result with
      status := .failed
      error :=
        { code := .timedOut
          message := errorMessage "declared completion state not observed" } }

/-- Nothing since the start has ended the command. -/
def Undecided (command : LightCommand) (since : List LightEvent) : Prop :=
  ∀ event ∈ since,
    match event with
    | .started _ _ _ _ => False
    | .watched seen nowMs => ¬ command.Decides seen nowMs
    | .given result => result = command.progress

end LightCommand

/-- The last start in a log was of this command, and this is what came since. -/
def Started (probes : DeclarativeCommandBinding → LightCommandCompletionProbe)
    (log : List LightEvent) (binding : DeclarativeCommandBinding) (command : LightCommand)
    (since : List LightEvent) : Prop :=
  ∃ seen earlier,
    log = since ++ .started command.transactionId binding seen command.startedMs :: earlier ∧
      command.timeoutMs = binding.completionTimeoutMs ∧
      command.expected = (probes binding).expected.after seen

/-- A command with a probe first gets progress that announces the state expected, and then what
    the first look at the light decides that can decide it; one without a probe has succeeded at
    once. -/
def Reports (probes : DeclarativeCommandBinding → LightCommandCompletionProbe)
    (older : List LightEvent) : LightEvent → Prop
  | .given result => ∃ binding command since, Started probes older binding command since ∧
      if binding.hasCompletionProbe then
        (since = [] ∧ result = command.progress) ∨
          ∃ seen nowMs rest, since = .watched seen nowMs :: rest ∧ command.Undecided rest ∧
            command.Decides seen nowMs ∧ result = command.last seen nowMs
      else since = [] ∧ result = command.unwatched
  | _ => True

/- The handler keeps to it -/

section Kept
variable {probes : DeclarativeCommandBinding → LightCommandCompletionProbe}
  {binding : DeclarativeCommandBinding} {command : LightCommand} {since : List LightEvent}
  {s : LightCommandHandler}

/-- How far a command with a probe has come at a handler. -/
inductive Watching (h : DeclarativeCommandHandler) (command : LightCommand) :
    List LightEvent → Prop
  | announced (ready : h.resultReady = true) (result : h.result = command.progress) :
    Watching h command []
  | waiting {since : List LightEvent} (unready : h.resultReady = false)
      (undecided : command.Undecided since) : Watching h command since
  | decided {seen : Option Bool} {nowMs : UInt32} {rest : List LightEvent}
      (ready : h.resultReady = true) (undecided : command.Undecided rest)
      (decides : command.Decides seen nowMs) (result : h.result = command.last seen nowMs) :
    Watching h command (.watched seen nowMs :: rest)

/-- The handler is at the command that was started last, and its probe was begun for it. -/
structure AtCommand (probes : DeclarativeCommandBinding → LightCommandCompletionProbe)
    (s : LightCommandHandler) (binding : DeclarativeCommandBinding) (command : LightCommand)
    (since : List LightEvent) : Prop where
  started : Started probes s.log binding command since
  transaction : s.handler.transactionId = command.transactionId
  startedMs : s.handler.startedMs = command.startedMs
  watching : binding.hasCompletionProbe = true →
    (s.probes binding).armed = (s.probes binding).light.isSome ∧
      (s.probes binding).expectedOn = command.expected ∧ Watching s.handler command since
  unwatched : binding.hasCompletionProbe = false →
    since = [] ∧ s.handler.resultReady = true ∧ s.handler.result = command.unwatched

structure LightsTold (probes : DeclarativeCommandBinding → LightCommandCompletionProbe)
    (s : LightCommandHandler) : Prop where
  expected : ∀ binding, (s.probes binding).expected = (probes binding).expected
  each : Throughout (Reports probes) s.log
  idle : s.handler.activeBinding = none → s.handler.resultReady = false
  active : ∀ binding, s.handler.activeBinding = some binding →
    ∃ command since, AtCommand probes s binding command since

theorem Started.longer {log : List LightEvent} (started : Started probes log binding command since)
    (event : LightEvent) : Started probes (event :: log) binding command (event :: since) := by
  obtain ⟨seen, earlier, rfl, timeout, expected⟩ := started
  exact ⟨seen, earlier, rfl, timeout, expected⟩

theorem LightCommand.Undecided.cons {event : LightEvent} (undecided : command.Undecided since)
    (next : match event with
      | .started _ _ _ _ => False
      | .watched seen nowMs => ¬ command.Decides seen nowMs
      | .given result => result = command.progress) : command.Undecided (event :: since) := by
  intro other member
  rcases List.mem_cons.mp member with rfl | old
  · exact next
  · exact undecided other old

theorem AtCommand.reports (at' : AtCommand probes s binding command since)
    (ready : s.handler.resultReady = true) : Reports probes s.log (.given s.handler.result) := by
  refine ⟨binding, command, since, at'.started, ?_⟩
  cases probed : binding.hasCompletionProbe with
  | false =>
    obtain ⟨none, _, result⟩ := at'.unwatched probed
    exact ⟨none, result⟩
  | true =>
    obtain ⟨_, _, watching⟩ := at'.watching probed
    cases watching with
    | announced _ result => exact Or.inl ⟨rfl, result⟩
    | waiting unready _ =>
      rw [ready] at unready
      cases unready
    | decided _ undecided decides result =>
      exact Or.inr ⟨_, _, _, rfl, undecided, decides, result⟩

theorem LightsTold.idled (told : LightsTold probes s) {handler : DeclarativeCommandHandler}
    (free : handler.activeBinding = none ∧ handler.resultReady = false) :
    LightsTold probes { s with handler } := by
  refine ⟨told.expected, told.each, fun _ => free.2, ?_⟩
  intro binding active
  rw [free.1] at active
  cases active

theorem LightsTold.cancel (told : LightsTold probes s) (transactionId : TransactionId) :
    LightsTold probes { s with handler := (s.handler.cancel transactionId).2 } := by
  unfold DeclarativeCommandHandler.cancel
  split
  · exact told
  · exact told.idled ⟨rfl, rfl⟩

theorem last_terminal (seen : Option Bool) (nowMs : UInt32) :
    (command.last seen nowMs).status ≠ .inProgress := by
  unfold LightCommand.last
  dsimp only
  split
  · exact NetResultStatus.noConfusion
  · exact NetResultStatus.noConfusion

theorem LightsTold.takeResult (told : LightsTold probes s) : LightsTold probes s.takeResult := by
  unfold LightCommandHandler.takeResult DeclarativeCommandHandler.takeResult
  by_cases ready : s.handler.resultReady = true
  swap
  · rw [if_pos ready]
    exact told
  rw [if_neg (not_not.mpr ready)]
  obtain ⟨binding, active⟩ : ∃ binding, s.handler.activeBinding = some binding := by
    cases active : s.handler.activeBinding with
    | none => exact absurd ready (by simp [told.idle active])
    | some binding => exact ⟨binding, rfl⟩
  obtain ⟨command, since, at'⟩ := told.active binding active
  have each : Throughout (Reports probes) (.given s.handler.result :: s.log) :=
    throughout_cons.mpr ⟨at'.reports ready, told.each⟩
  by_cases terminal : s.handler.result.Terminal
  · dsimp only
    rw [if_pos terminal]
    refine ⟨told.expected, each, fun _ => rfl, ?_⟩
    intro other none
    cases none
  · dsimp only
    rw [if_neg terminal]
    have progress : s.handler.result.status = .inProgress := Decidable.not_not.mp terminal
    refine ⟨told.expected, each, fun _ => rfl, ?_⟩
    intro other same
    obtain rfl := Option.some.inj (active.symm.trans same)
    refine ⟨command, .given s.handler.result :: since, at'.started.longer _, at'.transaction,
      at'.startedMs, ?_, ?_⟩
    · intro probed
      obtain ⟨armed, expected, watching⟩ := at'.watching probed
      refine ⟨armed, expected, .waiting rfl ?_⟩
      cases watching with
      | announced _ result => exact LightCommand.Undecided.cons (by simp [LightCommand.Undecided]) result
      | waiting unready _ =>
        rw [ready] at unready
        cases unready
      | decided _ _ _ result =>
        rw [result] at progress
        exact absurd progress (last_terminal _ _)
    · intro unprobed
      obtain ⟨_, _, result⟩ := at'.unwatched unprobed
      rw [result] at progress
      cases progress

theorem Watching.loop {binding : DeclarativeCommandBinding} {lights : Nat → Bool} {nowMs : UInt32}
    (at' : AtCommand probes s binding command since)
    (active : s.handler.activeBinding = some binding) (probed : binding.hasCompletionProbe = true)
    (unready : s.handler.resultReady = false) :
    let probe := s.probes binding
    let answers : ProbeAnswers :=
      { completed := probe.completed lights
        observedSnapshot := (probe.observedSnapshot lights).2 }
    Watching (s.handler.loop answers nowMs) command (.watched (probe.seen lights) nowMs :: since) := by
  intro probe answers
  obtain ⟨armed, expectedOn, watching⟩ := at'.watching probed
  have undecided : command.Undecided since := by
    cases watching with
    | announced ready _ =>
      rw [unready] at ready
      cases ready
    | waiting _ undecided => exact undecided
    | decided ready _ _ _ =>
      rw [unready] at ready
      cases ready
  obtain ⟨_, _, _, timeout, _⟩ := at'.started
  have completed : probe.completed lights = true ↔ probe.seen lights = some command.expected := by
    unfold LightCommandCompletionProbe.completed LightCommandCompletionProbe.seen
    rw [armed, expectedOn]
    cases probe.light with
    | none => simp
    | some light => simp
  unfold DeclarativeCommandHandler.loop
  rw [active]
  simp only [unready, probed, Bool.not_true, Bool.or_self, Bool.false_eq_true, ↓reduceIte]
  by_cases reached : probe.completed lights = true
  · rw [if_pos reached]
    have seen := completed.mp reached
    refine .decided rfl undecided (Or.inl seen) ?_
    have observed : (probe.observedSnapshot lights).2 = binaryState command.expected := by
      unfold LightCommandCompletionProbe.observedSnapshot
      rw [seen]
      rfl
    simp [DeclarativeCommandHandler.completeSuccess, LightCommand.last, seen, active, probed,
      answers, observed, at'.transaction, at'.startedMs]
  rw [if_neg reached]
  have unseen : ¬ probe.seen lights = some command.expected := fun seen => reached (completed.mpr seen)
  by_cases elapsed : nowMs - s.handler.startedMs ≥ binding.completionTimeoutMs
  · rw [if_pos elapsed]
    refine .decided rfl undecided (Or.inr ?_) ?_
    · rw [timeout, ← at'.startedMs]
      exact elapsed
    · simp [DeclarativeCommandHandler.completeTimeout, LightCommand.last, unseen, at'.transaction,
        at'.startedMs]
  · rw [if_neg elapsed]
    refine .waiting unready (LightCommand.Undecided.cons undecided ?_)
    rintro (seen | late)
    · exact unseen seen
    · rw [timeout, ← at'.startedMs] at late
      exact elapsed late

theorem loop_kept (h : DeclarativeCommandHandler) (answers : ProbeAnswers) (nowMs : UInt32) :
    (h.loop answers nowMs).activeBinding = h.activeBinding ∧
      (h.loop answers nowMs).transactionId = h.transactionId ∧
      (h.loop answers nowMs).startedMs = h.startedMs := by
  unfold DeclarativeCommandHandler.loop
  split
  · exact ⟨rfl, rfl, rfl⟩
  · split
    · exact ⟨rfl, rfl, rfl⟩
    · split
      · exact ⟨rfl, rfl, rfl⟩
      · split <;> exact ⟨rfl, rfl, rfl⟩

theorem LightsTold.loop (told : LightsTold probes s) (lights : Nat → Bool) (nowMs : UInt32) :
    LightsTold probes (s.loop lights nowMs) := by
  unfold LightCommandHandler.loop
  split
  · exact told
  · rename_i binding active
    split
    · exact told
    · rename_i asks
      simp only [Bool.or_eq_true, Bool.not_eq_true', not_or, Bool.not_eq_true,
        Bool.not_eq_false] at asks
      obtain ⟨command, since, at'⟩ := told.active binding active
      obtain ⟨kept, transaction, startedMs⟩ := loop_kept s.handler
        { completed := (s.probes binding).completed lights
          observedSnapshot := ((s.probes binding).observedSnapshot lights).2 } nowMs
      refine ⟨told.expected, throughout_cons.mpr ⟨trivial, told.each⟩, ?_, ?_⟩
      · intro idle
        rw [kept, active] at idle
        cases idle
      · intro other same
        rw [kept, active] at same
        obtain rfl := Option.some.inj same
        refine ⟨command, .watched ((s.probes binding).seen lights) nowMs :: since,
          at'.started.longer _, transaction.trans at'.transaction, startedMs.trans at'.startedMs,
          ?_, ?_⟩
        · intro probed
          obtain ⟨armed, expected, _⟩ := at'.watching probed
          exact ⟨armed, expected, Watching.loop at' active asks.2 asks.1⟩
        · intro unprobed
          rw [asks.2] at unprobed
          cases unprobed

theorem after_begin (probe : LightCommandCompletionProbe) (lights : Nat → Bool) :
    (probe.begin lights).expectedOn = probe.expected.after (probe.seen lights) := by
  unfold LightCommandCompletionProbe.begin
  cases probe.expected with
  | on => rfl
  | off => rfl
  | toggled => simp [LightExpectedState.after]

/-- A start that does not succeed changes nothing, and one that does binds the handler to the first
    binding that matches. -/
theorem start_of_found {h : DeclarativeCommandHandler} {request : NetCommand}
    (found : h.bindings.1.find? (·.matches request) = some binding) (answers : ProbeAnswers)
    (nowMs : UInt32) :
    ((h.start request answers nowMs).1 ≠ .started ∧ (h.start request answers nowMs).2 = h) ∨
      h.start request answers nowMs = (.started,
        let bound := { h with
          transactionId := request.transactionId, startedMs := nowMs
          activeBinding := some binding }
        if binding.hasCompletionProbe then
          { bound with
            result := progressResult request.transactionId binding.completionTimeoutMs
              answers.expectedSnapshot
            resultReady := true }
        else bound.completeSuccess answers nowMs) := by
  unfold DeclarativeCommandHandler.start
  split
  · exact Or.inl ⟨NetCommandHandlerStartStatus.noConfusion, rfl⟩
  · split
    · exact Or.inl ⟨NetCommandHandlerStartStatus.noConfusion, rfl⟩
    · right
      rw [found]
      dsimp only
      split
      · rfl
      · rfl

theorem start_of_unmatched {h : DeclarativeCommandHandler} {request : NetCommand}
    (unmatched : h.bindings.1.find? (·.matches request) = none) (answers : ProbeAnswers)
    (nowMs : UInt32) : (h.start request answers nowMs).2 = h := by
  unfold DeclarativeCommandHandler.start
  split
  · rfl
  · split
    · rfl
    · rw [unmatched]

theorem LightsTold.start (told : LightsTold probes s) (request : NetCommand) (lights : Nat → Bool)
    (nowMs : UInt32) : LightsTold probes (s.start request lights nowMs) := by
  unfold LightCommandHandler.start
  split
  · rename_i unmatched
    rw [start_of_unmatched unmatched]
    exact told
  rename_i binding found
  dsimp only
  rcases start_of_found found
      { expectedSnapshot := ((s.probes binding).begin lights).expectedSnapshot } nowMs with
    ⟨refused, same⟩ | started
  · split
    · rename_i run
      rw [run] at refused
      exact absurd rfl refused
    · rename_i run
      obtain rfl := (congrArg Prod.snd run).symm.trans same
      exact told
  rw [started]
  dsimp only
  let command : LightCommand :=
    ⟨request.transactionId, binding.completionTimeoutMs,
      (probes binding).expected.after ((s.probes binding).seen lights), nowMs⟩
  have since : Started probes
      (.started request.transactionId binding ((s.probes binding).seen lights) nowMs :: s.log)
      binding command [] :=
    ⟨(s.probes binding).seen lights, s.log, rfl, rfl, rfl⟩
  have each := throughout_cons.mpr
    ⟨show Reports probes s.log (.started request.transactionId binding
      ((s.probes binding).seen lights) nowMs) from trivial, told.each⟩
  have expectedOn : ((s.probes binding).begin lights).expectedOn = command.expected := by
    rw [after_begin, told.expected]
  cases probed : binding.hasCompletionProbe with
  | true =>
    rw [if_pos rfl, if_pos rfl]
    have own : Function.update s.probes binding ((s.probes binding).begin lights) binding =
        (s.probes binding).begin lights := Function.update_self ..
    have expected (other : DeclarativeCommandBinding) :
        (Function.update s.probes binding ((s.probes binding).begin lights) other).expected =
          (probes other).expected := by
      by_cases same : other = binding
      · rw [same, own]
        exact told.expected binding
      · rw [Function.update_of_ne same]
        exact told.expected other
    refine ⟨expected, each, ?_, ?_⟩
    · intro idle
      cases idle
    · intro other same
      obtain rfl := Option.some.inj same
      refine ⟨command, [], since, rfl, rfl, ?_, ?_⟩
      · intro _
        dsimp only
        rw [own]
        refine ⟨rfl, expectedOn, .announced rfl ?_⟩
        unfold LightCommandCompletionProbe.expectedSnapshot
        rw [expectedOn]
        rfl
      · intro unprobed
        rw [probed] at unprobed
        cases unprobed
  | false =>
    rw [if_neg Bool.false_ne_true, if_neg Bool.false_ne_true]
    refine ⟨told.expected, each, ?_, ?_⟩
    · intro idle
      cases idle
    · intro other same
      obtain rfl := Option.some.inj same
      refine ⟨command, [], since, rfl, rfl, ?_, ?_⟩
      · intro again
        rw [probed] at again
        cases again
      · intro _
        refine ⟨rfl, rfl, ?_⟩
        simp [DeclarativeCommandHandler.completeSuccess, LightCommand.unwatched, probed, command]

end Kept

/-- Whatever order the calls of the handler come in and however the lights change, each result it
    gives is of the command started last: its progress, which announces the state expected, or what
    was decided by the first look that could decide it; without a probe, its success. -/
theorem light_results_reported (deviceId : Option (List UInt8))
    (bindings : { list : List DeclarativeCommandBinding // list.length ≤ maxBindings })
    (probes : DeclarativeCommandBinding → LightCommandCompletionProbe)
    (calls : List LightCommandCall) :
    let start : LightCommandHandler := { handler := { deviceId, bindings }, probes }
    Throughout (Reports probes) (calls.foldl LightCommandHandler.perform start).log := by
  have step (s : LightCommandHandler) (call : LightCommandCall) (told : LightsTold probes s) :
      LightsTold probes (s.perform call) := by
    cases call with
    | start request lights nowMs => exact told.start request lights nowMs
    | loop lights nowMs => exact told.loop lights nowMs
    | takeResult => exact told.takeResult
    | cancel transactionId => exact told.cancel transactionId
  have run (s : LightCommandHandler) (told : LightsTold probes s) :
      LightsTold probes (calls.foldl LightCommandHandler.perform s) := by
    induction calls generalizing s with
    | nil => exact told
    | cons call calls ih => exact ih _ (step s call told)
  intro start
  have fresh : LightsTold probes start := by
    refine ⟨fun _ => rfl, throughout_nil, fun _ => rfl, ?_⟩
    intro binding active
    cases active
  exact (run start fresh).each

end EspNowNet
