import EspNowNet.DispatcherRun

/- The declarative command handler, driven by one dispatcher. A binding may have a completion
   probe; what the probe says when it is asked is an argument of the call that asks it. -/
namespace EspNowNet

structure DeclarativeCommandBinding where
  resource : Option (List UInt8) := none
  command : Option (List UInt8) := none
  hasCompletionProbe : Bool := false
  completionTimeoutMs : UInt32 := 2000
  deriving DecidableEq

def DeclarativeCommandBinding.matches (binding : DeclarativeCommandBinding)
    (request : NetCommand) : Bool :=
  binding.resource = some request.resource.chars && binding.command = some request.name.chars

/-- A probe fills in a snapshot and says whether it could. -/
structure ProbeAnswers where
  completed : Bool := false
  expectedSnapshot : Bool × NetStateSnapshot := (false, {})
  observedSnapshot : NetStateSnapshot := {}

def maxBindings : Nat := 16

structure DeclarativeCommandHandler where
  deviceId : Option (List UInt8) := none
  bindings : { list : List DeclarativeCommandBinding // list.length ≤ maxBindings } :=
    ⟨[], Nat.zero_le _⟩
  result : NetResult := {}
  resultReady : Bool := false
  activeBinding : Option DeclarativeCommandBinding := none
  transactionId : TransactionId := 0
  startedMs : UInt32 := 0
  deriving DecidableEq

/-- The first result of a command whose completion is awaited. -/
def progressResult (transactionId : TransactionId) (completionTimeoutMs : UInt32)
    (expected : Bool × NetStateSnapshot) : NetResult :=
  { transactionId, status := .inProgress
    execution :=
      { started := true
        hasEstimatedCompletion := true
        estimatedCompletionMs := completionTimeoutMs
        hasExpectedFinalState := expected.1
        expectedFinalState := expected.2 } }

namespace DeclarativeCommandHandler

def addBinding (h : DeclarativeCommandHandler) (binding : DeclarativeCommandBinding) :
    Bool × DeclarativeCommandHandler :=
  if room : h.bindings.1.length < maxBindings then
    (true, { h with bindings := ⟨h.bindings.1 ++ [binding], List.length_append ▸ room⟩ })
  else (false, h)

def reset (h : DeclarativeCommandHandler) : DeclarativeCommandHandler :=
  { h with result := {}, resultReady := false, activeBinding := none, transactionId := 0
           startedMs := 0 }

def completeSuccess (h : DeclarativeCommandHandler) (probe : ProbeAnswers) (nowMs : UInt32) :
    DeclarativeCommandHandler :=
  let probed := h.activeBinding.any (·.hasCompletionProbe)
  { h with
    result :=
      { transactionId := h.transactionId, status := .succeeded, execution := { started := true }
        remoteState := if probed then probe.observedSnapshot else {}
        latencyMs := nowMs - h.startedMs }
    resultReady := true }

def completeTimeout (h : DeclarativeCommandHandler) (nowMs : UInt32) : DeclarativeCommandHandler :=
  { h with
    result :=
      { transactionId := h.transactionId, status := .failed, execution := { started := true }
        error :=
          { code := .timedOut
            message := errorMessage "declared completion state not observed" }
        latencyMs := nowMs - h.startedMs }
    resultReady := true }

def start (h : DeclarativeCommandHandler) (request : NetCommand) (probe : ProbeAnswers)
    (nowMs : UInt32) : NetCommandHandlerStartStatus × DeclarativeCommandHandler :=
  if h.resultReady || h.activeBinding.isSome then (.busy, h)
  else if h.deviceId ≠ some request.deviceId.chars then (.rejected, h)
  else
    match h.bindings.1.find? (·.matches request) with
    | none => (.invalidCommand, h)
    | some binding =>
      let h := { h with
        transactionId := request.transactionId, startedMs := nowMs, activeBinding := some binding }
      if binding.hasCompletionProbe then
        (.started, { h with
          result := progressResult request.transactionId binding.completionTimeoutMs
            probe.expectedSnapshot
          resultReady := true })
      else (.started, h.completeSuccess probe nowMs)

def loop (h : DeclarativeCommandHandler) (probe : ProbeAnswers) (nowMs : UInt32) :
    DeclarativeCommandHandler :=
  match h.activeBinding with
  | none => h
  | some binding =>
    if h.resultReady || !binding.hasCompletionProbe then h
    else if probe.completed then h.completeSuccess probe nowMs
    else if nowMs - h.startedMs ≥ binding.completionTimeoutMs then h.completeTimeout nowMs
    else h

def takeResult (h : DeclarativeCommandHandler) : Option NetResult × DeclarativeCommandHandler :=
  if ¬ h.resultReady then (none, h)
  else
    let taken := { h with result := {}, resultReady := false }
    (some h.result, if h.result.Terminal then taken.reset else taken)

def cancel (h : DeclarativeCommandHandler) (transactionId : TransactionId) :
    Bool × DeclarativeCommandHandler :=
  if h.transactionId ≠ transactionId then (false, h) else (true, h.reset)

/-- The handler is bound to no transaction. -/
def Free (h : DeclarativeCommandHandler) : Prop := h.activeBinding = none ∧ h.resultReady = false

instance decidableFree (h : DeclarativeCommandHandler) : Decidable h.Free :=
  inferInstanceAs (Decidable (_ ∧ _))

theorem Free.not_busy {h : DeclarativeCommandHandler} (free : h.Free) (request : NetCommand)
    (probe : ProbeAnswers) (nowMs : UInt32) : (h.start request probe nowMs).1 ≠ .busy := by
  unfold start
  simp only [free.1, free.2, Option.isSome_none, Bool.or_self, Bool.false_eq_true, ↓reduceIte]
  split
  · simp
  · split
    · simp
    · split <;> simp

end DeclarativeCommandHandler

/-- A dispatcher with the declarative handler installed. -/
structure DrivenDispatcher where
  dispatcher : InboundCommandDispatcher := { handlerInstalled := true }
  handler : DeclarativeCommandHandler := {}

inductive DrivenOperation where
  | accept (inbound : EspNowInboundApplicationMessage) (probe : ProbeAnswers) (nowMs : UInt32)
  | loop (probe : ProbeAnswers) (nowMs : UInt32)
  | takeResult

namespace DrivenDispatcher

def accept (s : DrivenDispatcher) (inbound : EspNowInboundApplicationMessage)
    (probe : ProbeAnswers) (nowMs : UInt32) : DrivenDispatcher :=
  match s.dispatcher.acceptedCommand inbound with
  | none => { s with dispatcher := (s.dispatcher.accept inbound {} nowMs).2 }
  | some command =>
    let (status, handler) := s.handler.start command probe nowMs
    { dispatcher := (s.dispatcher.accept inbound { start := status } nowMs).2, handler }

/-- The dispatcher's calls of its handler, in their order: `cancel` when the command is late,
    otherwise `loop`, `has_result` and `take_result`. -/
def loop (s : DrivenDispatcher) (probe : ProbeAnswers) (nowMs : UInt32) : DrivenDispatcher :=
  if s.dispatcher.state ≠ .active then s
  else if s.dispatcher.Overdue nowMs then
    { dispatcher := s.dispatcher.loop {} nowMs
      handler := (s.handler.cancel s.dispatcher.transactionId).2 }
  else
    let handler := s.handler.loop probe nowMs
    if ¬ handler.resultReady then { dispatcher := s.dispatcher.loop {} nowMs, handler }
    else
      let (answer, handler) := handler.takeResult
      { dispatcher := s.dispatcher.loop { hasResult := true, takeResult := answer } nowMs, handler }

def perform (s : DrivenDispatcher) : DrivenOperation → DrivenDispatcher
  | .accept inbound probe nowMs => s.accept inbound probe nowMs
  | .loop probe nowMs => s.loop probe nowMs
  | .takeResult => { s with dispatcher := s.dispatcher.takeResult.2 }

/-- A dispatcher that is idle, or has its last result staged, has a handler bound to nothing. -/
def Released (s : DrivenDispatcher) : Prop :=
  s.dispatcher.state = .idle ∨ s.dispatcher.state = .resultReady ∧ s.dispatcher.pending.terminal →
    s.handler.Free

/-- The handler has been bound to the dispatcher's transaction and is still at it. -/
def Holds (s : DrivenDispatcher) : Prop :=
  s.handler.activeBinding.isSome = true ∧ s.handler.transactionId = s.dispatcher.transactionId

/-- Dispatcher and handler are at the same transaction, or both at none. -/
structure InStep (s : DrivenDispatcher) : Prop where
  sound : s.dispatcher.Sound
  installed : s.dispatcher.handlerInstalled = true
  working : s.dispatcher.state = .active → s.Holds ∧
    (s.handler.resultReady = true → s.handler.result.status = .inProgress →
      ∃ timeoutMs expected,
        s.handler.result = progressResult s.dispatcher.transactionId timeoutMs expected)
  onward : s.dispatcher.state = .resultReady → s.dispatcher.pending.terminal = false →
    s.Holds ∧ s.handler.resultReady = false
  released : s.Released

/-- The progress the dispatcher is about to take from the handler, if any, is consistent. -/
def ConsistentProgress (s : DrivenDispatcher) : DrivenOperation → Prop
  | .loop _ nowMs => s.dispatcher.state = .active → ¬ s.dispatcher.Overdue nowMs →
      s.handler.resultReady = true → s.handler.result.status = .inProgress →
        s.handler.result.consistent = true
  | _ => True

end DrivenDispatcher

namespace DeclarativeCommandHandler
variable {h : DeclarativeCommandHandler}

theorem start_cases (h : DeclarativeCommandHandler) (request : NetCommand) (probe : ProbeAnswers)
    (nowMs : UInt32) :
    ((h.start request probe nowMs).1 ≠ .started ∧ (h.start request probe nowMs).2 = h) ∨
      (h.start request probe nowMs).1 = .started ∧
        (h.start request probe nowMs).2.activeBinding.isSome = true ∧
        (h.start request probe nowMs).2.transactionId = request.transactionId ∧
        ((h.start request probe nowMs).2.result.status = .inProgress →
          ∃ timeoutMs expected, (h.start request probe nowMs).2.result =
            progressResult request.transactionId timeoutMs expected) := by
  unfold start
  split
  · exact .inl ⟨nofun, rfl⟩
  · split
    · exact .inl ⟨nofun, rfl⟩
    · split
      · exact .inl ⟨nofun, rfl⟩
      · rename_i binding _
        dsimp only
        split
        · exact .inr ⟨rfl, rfl, rfl, fun _ => ⟨binding.completionTimeoutMs, _, rfl⟩⟩
        · exact .inr ⟨rfl, rfl, rfl, nofun⟩

theorem loop_ready (ready : h.resultReady = true) (probe : ProbeAnswers) (nowMs : UInt32) :
    h.loop probe nowMs = h := by
  cases binding : h.activeBinding <;> simp [loop, binding, ready]

theorem loop_cases (h : DeclarativeCommandHandler) (probe : ProbeAnswers) (nowMs : UInt32) :
    h.loop probe nowMs = h ∨
      (h.loop probe nowMs).resultReady = true ∧ (h.loop probe nowMs).result.Terminal := by
  unfold loop
  split
  · exact .inl rfl
  · split
    · exact .inl rfl
    · split
      · exact .inr ⟨rfl, nofun⟩
      · split
        · exact .inr ⟨rfl, nofun⟩
        · exact .inl rfl

theorem takeResult_terminal (ready : h.resultReady = true) (terminal : h.result.Terminal) :
    h.takeResult.1 = some h.result ∧ h.takeResult.2.Free := by
  simp [takeResult, ready, terminal, reset, Free]

theorem takeResult_progress (ready : h.resultReady = true)
    (progress : h.result.status = .inProgress) :
    h.takeResult = (some h.result, { h with result := {}, resultReady := false }) := by
  simp [takeResult, ready, NetResult.Terminal, progress]

theorem cancel_free {transactionId : TransactionId} (bound : h.transactionId = transactionId) :
    (h.cancel transactionId).2.Free := by
  simp [cancel, bound, reset, Free]

end DeclarativeCommandHandler

theorem progressResult_encodes {transactionId : TransactionId} {timeoutMs : UInt32}
    {expected : Bool × NetStateSnapshot}
    (consistent : (progressResult transactionId timeoutMs expected).consistent = true) :
    ∃ payload, EspNowResultCodec.encode (progressResult transactionId timeoutMs expected) =
      .ok payload := by
  apply EspNowResultCodec.encodes_of_size consistent
  have := expected.2.schema.fits
  have := expected.2.data.fits
  simp only [progressResult, BoundedText.clear, BoundedBytes.clear, List.length_nil]
  omega

namespace DrivenDispatcher
open InboundCommandDispatcher
variable {s : DrivenDispatcher}

theorem InStep.fresh (handler : DeclarativeCommandHandler) (free : handler.Free) :
    InStep { handler } :=
  ⟨.of_idle rfl, rfl, nofun, nofun, fun _ => free⟩

theorem ownFailure_terminal {sent : NetResult} (own : OwnFailure sent) :
    decide sent.Terminal = true := by
  simp [NetResult.Terminal, own.1]

theorem InStep.of_terminal {d after : InboundCommandDispatcher}
    {handler : DeclarativeCommandHandler} {sent : NetResult} {payload : BoundedBytes 640}
    (staged : after = d.staged sent payload) (sound : after.Sound)
    (installed : d.handlerInstalled = true) (terminal : decide sent.Terminal = true)
    (free : handler.Free) : InStep { dispatcher := after, handler } := by
  subst staged
  constructor
  · exact sound
  · exact installed
  · exact nofun
  · intro _ onward
    exact absurd (terminal.symm.trans onward) nofun
  · exact fun _ => free

theorem InStep.accept (inStep : s.InStep) (inbound : EspNowInboundApplicationMessage)
    (probe : ProbeAnswers) (nowMs : UInt32) : (s.accept inbound probe nowMs).InStep := by
  obtain ⟨d, handler⟩ := s
  have sound (answers : NetCommandHandlerAnswers) := inStep.sound.accept inbound answers nowMs
  unfold DrivenDispatcher.accept
  dsimp only at sound ⊢
  by_cases accepts : d.Accepts inbound
  · have free : handler.Free := inStep.released (.inl accepts.1)
    cases accepted : d.acceptedCommand inbound with
    | none =>
      rcases d.accept_cases inbound {} nowMs with
        ⟨refused, _⟩ | ⟨_, _, ⟨_, some, _⟩ | ⟨_, sent, payload, _, own, same⟩⟩
      · exact absurd accepts refused
      · simp [accepted] at some
      · exact .of_terminal (congrArg Prod.snd same) (sound {}) inStep.installed
          (ownFailure_terminal own) free
    | some command =>
      have identity : command.transactionId = inbound.message.envelope.transactionId := by
        simp only [acceptedCommand, accepts, ↓reduceIte] at accepted
        cases decoded : decodeCommand inbound with
        | error _ => simp [decoded, Except.toOption] at accepted
        | ok _ =>
          obtain rfl : _ = command := by simpa [decoded, Except.toOption] using accepted
          exact EspNowCommandCodec.decode_transaction decoded
      have startable : d.Startable inbound := ⟨inStep.installed, by simp [accepted]⟩
      dsimp only
      rcases handler.start_cases command probe nowMs with
        ⟨refused, kept⟩ | ⟨started, bound, transaction, progress⟩
      · rw [kept]
        rcases d.accept_cases inbound { start := (handler.start command probe nowMs).1 } nowMs with
          ⟨unaccepted, _⟩ | ⟨_, _, ⟨started, _⟩ | ⟨_, sent, payload, _, own, same⟩⟩
        · exact absurd accepts unaccepted
        · exact absurd started refused
        · exact .of_terminal (congrArg Prod.snd same) (sound _) inStep.installed
            (ownFailure_terminal own) free
      · rcases d.accept_cases inbound { start := (handler.start command probe nowMs).1 } nowMs with
          ⟨unaccepted, _⟩ | ⟨_, _, ⟨_, _, same⟩ | ⟨unstarted, _⟩⟩
        · exact absurd accepts unaccepted
        · have running := sound { start := (handler.start command probe nowMs).1 }
          rw [same] at running ⊢
          refine ⟨running, inStep.installed, fun _ => ⟨⟨bound, ?_⟩, fun _ waiting => ?_⟩, ?_, ?_⟩
          · exact transaction.trans identity
          · rw [identity] at progress
            exact progress waiting
          · rintro ⟨⟩
          · rintro (⟨⟨⟩⟩ | ⟨⟨⟩, _⟩)
        · exact absurd started (unstarted startable)
  · have absent : d.acceptedCommand inbound = none := if_neg accepts
    have same : d.accept inbound {} nowMs = (false, d) := by
      rw [InboundCommandDispatcher.accept, if_pos accepts]
    rw [absent]
    simp only [same]
    exact inStep

theorem InStep.takeResult (inStep : s.InStep) :
    InStep { s with dispatcher := s.dispatcher.takeResult.2 } := by
  obtain ⟨d, handler⟩ := s
  have sound := inStep.sound.takeResult
  dsimp only at sound ⊢
  rcases d.takeResult_cases with ⟨_, same⟩ | ⟨ready, ⟨terminal, same⟩ | ⟨onward, same⟩⟩
  · rw [same]
    exact inStep
  · rw [same] at sound ⊢
    exact ⟨sound, inStep.installed, nofun, nofun, fun _ => inStep.released (.inr ⟨ready, terminal⟩)⟩
  · obtain ⟨holds, unready⟩ := inStep.onward ready onward
    rw [same] at sound ⊢
    refine ⟨sound, inStep.installed, fun _ => ⟨holds, fun again => ?_⟩, nofun, ?_⟩
    · exact absurd (again.symm.trans unready) nofun
    · rintro (⟨⟨⟩⟩ | ⟨⟨⟩, _⟩)

theorem InStep.take_last {d : InboundCommandDispatcher} (sound : d.Sound)
    (installed : d.handlerInstalled = true) (active : d.state = .active) {nowMs : UInt32}
    {handler : DeclarativeCommandHandler} (ready : handler.resultReady = true)
    (terminal : handler.result.Terminal) : InStep
      { dispatcher := d.loop { hasResult := true, takeResult := handler.takeResult.1 } nowMs
        handler := handler.takeResult.2 } := by
  obtain ⟨answer, free⟩ := DeclarativeCommandHandler.takeResult_terminal ready terminal
  have after := sound.loop { hasResult := true, takeResult := some handler.result } nowMs
  rw [answer]
  rcases InboundCommandDispatcher.loop_cases (sound.identified (by simp [active]))
      { hasResult := true, takeResult := some handler.result } nowMs active with
    ⟨_, unready, _⟩ | ⟨_, _, sent, payload, given, _, _, staged⟩ |
      ⟨_, sent, payload, _, own, staged⟩
  · cases unready
  · obtain rfl := Option.some.inj given
    exact .of_terminal staged after installed (decide_eq_true terminal) free
  · exact .of_terminal staged after installed (ownFailure_terminal own) free

/-- Consistent progress is relayed, and the handler stays at the transaction. -/
theorem InStep.take_progress {d : InboundCommandDispatcher} {handler : DeclarativeCommandHandler}
    (inStep : InStep ⟨d, handler⟩) (active : d.state = .active) {nowMs : UInt32}
    (early : ¬ d.Overdue nowMs) (ready : handler.resultReady = true)
    (progress : handler.result.status = .inProgress) (consistent : handler.result.consistent = true) :
    InStep { dispatcher := d.loop { hasResult := true, takeResult := some handler.result } nowMs
             handler := { handler with result := {}, resultReady := false } } := by
  obtain ⟨⟨bound, same⟩, waiting⟩ := inStep.working active
  obtain ⟨timeoutMs, expected, made⟩ := waiting ready progress
  obtain ⟨payload, encodes⟩ := progressResult_encodes (made ▸ consistent)
  have after := inStep.sound.loop { hasResult := true, takeResult := some handler.result } nowMs
  rcases InboundCommandDispatcher.loop_cases (inStep.sound.identified (by simp [active]))
      { hasResult := true, takeResult := some handler.result } nowMs active with
    ⟨_, unready, _⟩ | ⟨_, _, sent, payload, given, _, _, staged⟩ | ⟨late | ⟨_, unsendable⟩, _⟩
  · cases unready
  · obtain rfl := Option.some.inj given
    dsimp only at after
    rw [staged] at after ⊢
    exact ⟨after, inStep.installed, nofun, fun _ _ => ⟨⟨bound, same⟩, rfl⟩, fun settled => by
      simp [InboundCommandDispatcher.staged, NetResult.Terminal, progress] at settled⟩
  · exact absurd late early
  · exact absurd ⟨_, payload, rfl, by rw [made]; rfl, made ▸ encodes⟩ unsendable

/-- Inconsistent progress ends the command at the dispatcher, but not at the handler. -/
theorem InStep.take_inconsistent {d : InboundCommandDispatcher}
    {handler : DeclarativeCommandHandler} (inStep : InStep ⟨d, handler⟩)
    (active : d.state = .active) {nowMs : UInt32}
    (inconsistent : ¬ handler.result.consistent = true) : ¬ Released
      { dispatcher := d.loop { hasResult := true, takeResult := some handler.result } nowMs
        handler := { handler with result := {}, resultReady := false } } := by
  obtain ⟨⟨bound, _⟩, _⟩ := inStep.working active
  rcases InboundCommandDispatcher.loop_cases (inStep.sound.identified (by simp [active]))
      { hasResult := true, takeResult := some handler.result } nowMs active with
    ⟨_, unready, _⟩ | ⟨_, _, sent, payload, given, _, encodes, _⟩ |
      ⟨_, sent, payload, _, own, staged⟩
  · cases unready
  · obtain rfl := Option.some.inj given
    exact absurd (EspNowResultCodec.encode_ok encodes).1 inconsistent
  · rw [staged]
    intro released
    have free : handler.activeBinding = none := (released (.inr ⟨rfl, ownFailure_terminal own⟩)).1
    simp [free] at bound

/-- The loop keeps dispatcher and handler in step unless it takes inconsistent progress. -/
theorem InStep.loop_cases (inStep : s.InStep) (probe : ProbeAnswers) (nowMs : UInt32) :
    (s.ConsistentProgress (.loop probe nowMs) ∧ (s.loop probe nowMs).InStep) ∨
      ¬ s.ConsistentProgress (.loop probe nowMs) ∧ ¬ (s.loop probe nowMs).Released := by
  obtain ⟨d, handler⟩ := s
  have sound := inStep.sound
  have installed := inStep.installed
  unfold DrivenDispatcher.loop
  dsimp only at sound installed ⊢
  by_cases active : d.state = .active
  · have silent := InboundCommandDispatcher.loop_cases (sound.identified (by simp [active])) {} nowMs
      active
    rw [if_neg (by simp [active])]
    by_cases overdue : d.Overdue nowMs
    · rw [if_pos overdue]
      refine .inl ⟨fun _ early => absurd overdue early, ?_⟩
      rcases silent with ⟨early, _⟩ | ⟨early, _⟩ | ⟨_, sent, payload, _, own, staged⟩
      · exact absurd overdue early
      · exact absurd overdue early
      · exact .of_terminal staged (sound.loop {} nowMs) installed (ownFailure_terminal own)
          (DeclarativeCommandHandler.cancel_free (inStep.working active).1.2)
    · rw [if_neg overdue]
      rcases handler.loop_cases probe nowMs with kept | ⟨ready, terminal⟩
      · rw [kept]
        by_cases ready : handler.resultReady = true
        · rw [if_neg (by simp [ready])]
          by_cases progress : handler.result.status = .inProgress
          · simp only [DeclarativeCommandHandler.takeResult_progress ready progress]
            by_cases consistent : handler.result.consistent = true
            · exact .inl ⟨fun _ _ _ _ => consistent,
                inStep.take_progress active overdue ready progress consistent⟩
            · exact .inr ⟨fun sane => consistent (sane active overdue ready progress),
                inStep.take_inconsistent active consistent⟩
          · exact .inl ⟨fun _ _ _ again => absurd again progress,
              .take_last sound installed active ready progress⟩
        · rw [if_pos ready]
          refine .inl ⟨fun _ _ again => absurd again ready, ?_⟩
          rcases silent with ⟨_, _, unchanged⟩ | ⟨_, ready, _⟩ | ⟨late | ⟨ready, _⟩, _⟩
          · rw [unchanged]
            exact inStep
          · cases ready
          · exact absurd late overdue
          · cases ready
      · rw [if_neg (by simp [ready])]
        refine .inl ⟨fun _ _ waits progress => ?_, .take_last sound installed active ready terminal⟩
        rw [DeclarativeCommandHandler.loop_ready waits] at terminal
        exact absurd progress terminal
  · refine .inl ⟨fun busy => absurd busy active, ?_⟩
    rw [if_pos active]
    exact inStep

theorem InStep.perform_cases (inStep : s.InStep) (operation : DrivenOperation) :
    (s.ConsistentProgress operation ∧ (s.perform operation).InStep) ∨
      ¬ s.ConsistentProgress operation ∧ ¬ (s.perform operation).Released := by
  cases operation with
  | accept inbound probe nowMs => exact .inl ⟨trivial, inStep.accept inbound probe nowMs⟩
  | loop probe nowMs => exact inStep.loop_cases probe nowMs
  | takeResult => exact .inl ⟨trivial, inStep.takeResult⟩

def Throughout (property : DrivenDispatcher → Prop) (s : DrivenDispatcher) :
    List DrivenOperation → Prop
  | [] => property s
  | operation :: rest => property s ∧ Throughout property (s.perform operation) rest

/-- Every progress result a run takes from the handler is consistent. -/
def AllConsistent (s : DrivenDispatcher) : List DrivenOperation → Prop
  | [] => True
  | operation :: rest =>
    s.ConsistentProgress operation ∧ AllConsistent (s.perform operation) rest

/-- A settled dispatcher has a free handler, which then is not busy for the next command. -/
def Available (s : DrivenDispatcher) : Prop :=
  s.Released ∧ (s.dispatcher.state = .idle → ∀ request probe nowMs,
    (s.handler.start request probe nowMs).1 ≠ .busy)

theorem Released.available (released : s.Released) : s.Available := by
  refine ⟨released, fun idle request probe nowMs => ?_⟩
  exact (released (.inl idle)).not_busy request probe nowMs

theorem InStep.throughout_iff (inStep : s.InStep) (operations : List DrivenOperation) :
    Throughout Available s operations ↔ AllConsistent s operations := by
  induction operations generalizing s with
  | nil => exact iff_of_true inStep.released.available trivial
  | cons operation rest ih =>
    rcases inStep.perform_cases operation with ⟨consistent, next⟩ | ⟨inconsistent, unreleased⟩
    · rw [Throughout, AllConsistent, ih next, and_iff_right inStep.released.available,
        and_iff_right consistent]
    · refine iff_of_false ?_ (fun all => inconsistent all.1)
      rintro ⟨_, later⟩
      cases rest with
      | nil => exact unreleased later.1
      | cons _ _ => exact unreleased later.1.1

/-- For any bindings and any probe, the handler is free whenever the dispatcher is done with a
    command, and not busy for the next one, exactly in the runs that never take inconsistent
    progress from it. -/
theorem handler_released_iff (deviceId : Option (List UInt8))
    (bindings : { list : List DeclarativeCommandBinding // list.length ≤ maxBindings })
    (operations : List DrivenOperation) :
    Throughout Available { handler := { deviceId, bindings } } operations ↔
      AllConsistent { handler := { deviceId, bindings } } operations :=
  (InStep.fresh _ ⟨rfl, rfl⟩).throughout_iff operations

/-- A binding whose completion is awaited for no time at all. -/
def untimedBinding : DeclarativeCommandBinding :=
  { resource := some [49], command := some [111], hasCompletionProbe := true
    completionTimeoutMs := 0 }

def switchedOn : NetStateSnapshot :=
  { completeness := .complete, schema := (BoundedText.assign [98]).2
    data := (BoundedBytes.assign [1]).2 }

def untimedRun : List DrivenOperation :=
  [.accept (DispatcherRun.relayCommand 2 7) { expectedSnapshot := (true, switchedOn) } 0,
    .loop {} 1, .takeResult]

theorem untimed_unreleased : ¬ Throughout Available
    { handler := { deviceId := some [114], bindings := ⟨[untimedBinding], by decide⟩ } }
    untimedRun := by
  rintro ⟨_, _, _, released, _⟩
  have free := released (.inl (by decide))
  exact absurd free (by decide)

end DrivenDispatcher

end EspNowNet
