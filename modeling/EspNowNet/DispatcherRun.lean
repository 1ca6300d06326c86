import EspNowNet.CommandDispatcher
import EspNowNet.ResultRoundTrip

/- Runs of one inbound dispatcher under any handler. Every accepted command is answered by
   results that decode, non-terminal ones first and a single terminal one last. -/
namespace EspNowNet

theorem NetResult.terminal_iff (result : NetResult) :
    decide result.Terminal = false ↔ result.status = .inProgress := by
  rw [decide_eq_false_iff_not]
  exact not_not

/-- The result the dispatcher makes up itself when there is none from the handler. -/
def failureResult (transactionId : TransactionId) (code : NetErrorCode) (retryable : Bool)
    (message : BoundedText 95) (latencyMs : UInt32) : NetResult :=
  { transactionId, status := .failed, latencyMs, error := { code, retryable, message } }

theorem failureResult_consistent {transactionId : TransactionId} (identified : transactionId ≠ 0)
    (code : NetErrorCode) (failed : code ≠ .none) (message : BoundedText 95)
    (told : message.isEmpty = false) (retryable : Bool) (latencyMs : UInt32) :
    (failureResult transactionId code retryable message latencyMs).consistent = true := by
  have execution : NetExecutionContext.consistent {} = true := by decide
  have remote : NetStateSnapshot.consistent {} = true := by decide
  simp [failureResult, NetResult.consistent, NetError.consistent, identified, failed, told,
    execution, remote]

theorem failureResult_encodes {transactionId : TransactionId} (identified : transactionId ≠ 0)
    (code : NetErrorCode) (failed : code ≠ .none) (message : BoundedText 95)
    (told : message.isEmpty = false) (retryable : Bool) (latencyMs : UInt32) :
    ∃ payload, EspNowResultCodec.encode
      (failureResult transactionId code retryable message latencyMs) = .ok payload := by
  apply EspNowResultCodec.encodes_of_size
  · exact failureResult_consistent identified code failed message told retryable latencyMs
  · have := message.fits
    simp only [failureResult, BoundedText.clear, BoundedBytes.clear, List.length_nil]
    omega

namespace InboundCommandDispatcher
variable {d : InboundCommandDispatcher}

/-- The dispatcher with a result staged for its peer. -/
def staged (d : InboundCommandDispatcher) (sent : NetResult) (payload : BoundedBytes 640) :
    InboundCommandDispatcher :=
  { d with
    pending := ⟨d.peerIndex, d.transactionId, payload, decide sent.Terminal⟩
    state := .resultReady }

/-- A staged result that the handler did not give: nothing of the handler's execution is in it. -/
def OwnFailure (sent : NetResult) : Prop := sent.status = .failed ∧ sent.execution = {}

theorem stageResult_encodes {result : NetResult} {payload : BoundedBytes 640}
    (encodes : EspNowResultCodec.encode result = .ok payload) :
    d.stageResult result = (true, d.staged result payload) := by
  simp only [stageResult, encodes, staged]

/-- The handler's result is staged as it is, or a failure in its place; the dispatcher never
    falls back to idle on its own. -/
theorem completeResult_cases (identified : d.transactionId ≠ 0) (result : NetResult) :
    ∃ sent payload, d.completeResult result = d.staged sent payload ∧
      EspNowResultCodec.encode sent = .ok payload ∧
      ((sent = result ∧ EspNowResultCodec.encode result = .ok payload) ∨
        OwnFailure sent ∧ ∀ payload, EspNowResultCodec.encode result ≠ .ok payload) := by
  unfold completeResult
  cases encoded : EspNowResultCodec.encode result with
  | ok payload =>
    rw [stageResult_encodes encoded]
    exact ⟨result, payload, rfl, encoded, .inl ⟨rfl, rfl⟩⟩
  | error _ =>
    obtain ⟨payload, encodes⟩ := failureResult_encodes identified .internalError (by decide)
      (errorMessage "failed to encode command result") (by decide) false result.latencyMs
    have refused : d.stageResult result = (false, d) := by
      simp only [stageResult, encoded]
    have fallback : d.stageResult (failureResult d.transactionId .internalError false
        (errorMessage "failed to encode command result") result.latencyMs) =
          (true, d.staged _ payload) := stageResult_encodes encodes
    simp only [failureResult] at fallback
    simp only [refused, fallback]
    exact ⟨_, payload, rfl, encodes, .inr ⟨⟨rfl, rfl⟩, by simp⟩⟩

theorem completeFailure_cases (identified : d.transactionId ≠ 0) {code : NetErrorCode}
    (failed : code ≠ .none) {message : String} (told : (errorMessage message).isEmpty = false)
    (retryable : Bool) (nowMs : UInt32) :
    ∃ sent payload, d.completeFailure code message retryable nowMs = d.staged sent payload ∧
      EspNowResultCodec.encode sent = .ok payload ∧ OwnFailure sent := by
  obtain ⟨payload, encodes⟩ :=
    failureResult_encodes identified code failed _ told retryable (nowMs - d.startedMs)
  refine ⟨_, payload, ?_, encodes, rfl, rfl⟩
  have staging := stageResult_encodes (d := d) encodes
  simp only [failureResult] at staging
  simp only [completeFailure, completeResult, staging]
  rfl

def taking (d : InboundCommandDispatcher) (inbound : EspNowInboundApplicationMessage)
    (nowMs : UInt32) (command : NetCommand) : InboundCommandDispatcher :=
  { d with
    peerIndex := inbound.peerIndex, transactionId := inbound.message.envelope.transactionId
    startedMs := nowMs, command }

/-- The handler can be asked to start the command. -/
def Startable (d : InboundCommandDispatcher) (inbound : EspNowInboundApplicationMessage) : Prop :=
  d.handlerInstalled = true ∧ (d.acceptedCommand inbound).isSome = true

/-- An accepted command is running on the handler, or answered with a failure at once. -/
theorem accept_cases (inbound : EspNowInboundApplicationMessage)
    (answers : NetCommandHandlerAnswers) (nowMs : UInt32) :
    (¬ d.Accepts inbound ∧ d.accept inbound answers nowMs = (false, d)) ∨
      d.Accepts inbound ∧ ∃ command,
        (answers.start = .started ∧ d.acceptedCommand inbound = some command ∧
          d.accept inbound answers nowMs =
            (true, { d.taking inbound nowMs command with state := .active })) ∨
        (d.Startable inbound → answers.start ≠ .started) ∧
          ∃ sent payload, EspNowResultCodec.encode sent = .ok payload ∧ OwnFailure sent ∧
            d.accept inbound answers nowMs =
              (true, (d.taking inbound nowMs command).staged sent payload) := by
  by_cases accepts : d.Accepts inbound
  · right
    refine ⟨accepts, ?_⟩
    have failing (command : NetCommand) (code : NetErrorCode) (message : String)
        (retryable : Bool) (run : d.accept inbound answers nowMs =
          (true, (d.taking inbound nowMs command).completeFailure code message retryable nowMs))
        (failed : code ≠ .none) (told : (errorMessage message).isEmpty = false) :
        ∃ sent payload, EspNowResultCodec.encode sent = .ok payload ∧ OwnFailure sent ∧
          d.accept inbound answers nowMs =
            (true, (d.taking inbound nowMs command).staged sent payload) := by
      have identified : (d.taking inbound nowMs command).transactionId ≠ 0 := accepts.2.2.2
      obtain ⟨sent, payload, same, encodes, own⟩ :=
        completeFailure_cases identified failed told retryable nowMs
      exact ⟨sent, payload, encodes, own, same ▸ run⟩
    cases decoded : decodeCommand inbound with
    | error _ =>
      refine ⟨{}, .inr ⟨fun startable => ?_, failing {} .invalidRequest
        "invalid ESP-NOW command payload" false ?_ (by decide) (by decide)⟩⟩
      · simp [Startable, acceptedCommand, accepts, decoded, Except.toOption] at startable
      · simp only [accept, accepts, decoded, not_true_eq_false, ↓reduceIte, taking]
    | ok command =>
      refine ⟨command, ?_⟩
      by_cases installed : d.handlerInstalled = true
      · cases started : answers.start with
        | started =>
          refine .inl ⟨rfl, ?_, ?_⟩
          · simp only [acceptedCommand, accepts, ↓reduceIte, decoded, Except.toOption]
          · simp [accept, accepts, decoded, installed, started, taking]
        | busy =>
          refine .inr ⟨fun _ => by decide, failing command .targetUnavailable "command handler busy"
            true ?_ (by decide) (by decide)⟩
          simp [accept, accepts, decoded, installed, started, taking]
        | invalidCommand =>
          refine .inr ⟨fun _ => by decide, failing command .invalidRequest
            "command handler rejected invalid command" false ?_ (by decide) (by decide)⟩
          simp [accept, accepts, decoded, installed, started, taking]
        | rejected =>
          refine .inr ⟨fun _ => by decide, failing command .remoteRejected
            "command handler rejected command" false ?_ (by decide) (by decide)⟩
          simp [accept, accepts, decoded, installed, started, taking]
      · refine .inr ⟨fun startable => absurd startable.1 installed, failing command
          .targetUnavailable "no command handler registered" true ?_ (by decide) (by decide)⟩
        simp [accept, accepts, decoded, installed, taking]
  · left
    exact ⟨accepts, by simp [accept, accepts]⟩

/-- The handler's answer can be sent on as it is. -/
def Relayable (d : InboundCommandDispatcher) (answer : Option NetResult) : Prop :=
  ∃ result payload, answer = some result ∧ result.transactionId = d.transactionId ∧
    EspNowResultCodec.encode result = .ok payload

instance decidableRelayable (d : InboundCommandDispatcher) (answer : Option NetResult) :
    Decidable (d.Relayable answer) :=
  decidable_of_iff (answer.any fun result =>
      result.transactionId = d.transactionId && (EspNowResultCodec.encode result).isOk) <| by
    cases answer with
    | none => simp [Relayable]
    | some result =>
      cases encoded : EspNowResultCodec.encode result <;> simp [Relayable, encoded, Except.isOk,
        Except.toBool]

def Overdue (d : InboundCommandDispatcher) (nowMs : UInt32) : Prop :=
  nowMs - d.startedMs ≥ d.command.timeoutMs

instance decidableOverdue (d : InboundCommandDispatcher) (nowMs : UInt32) :
    Decidable (d.Overdue nowMs) :=
  inferInstanceAs (Decidable (_ ≥ _))

/-- An active dispatcher waits, sends the handler's answer on, or gives up on the handler. -/
theorem loop_cases (identified : d.transactionId ≠ 0) (answers : NetCommandHandlerAnswers)
    (nowMs : UInt32) (active : d.state = .active) :
    (¬ d.Overdue nowMs ∧ answers.hasResult = false ∧ d.loop answers nowMs = d) ∨
      (¬ d.Overdue nowMs ∧ answers.hasResult = true ∧ ∃ result payload,
        answers.takeResult = some result ∧ result.transactionId = d.transactionId ∧
          EspNowResultCodec.encode result = .ok payload ∧
          d.loop answers nowMs = d.staged result payload) ∨
      ((d.Overdue nowMs ∨ answers.hasResult = true ∧ ¬ d.Relayable answers.takeResult) ∧
        ∃ sent payload, EspNowResultCodec.encode sent = .ok payload ∧ OwnFailure sent ∧
          d.loop answers nowMs = d.staged sent payload) := by
  have failing (code : NetErrorCode) (message : String) (retryable : Bool)
      (run : d.loop answers nowMs = d.completeFailure code message retryable nowMs)
      (failed : code ≠ .none) (told : (errorMessage message).isEmpty = false) :
      ∃ sent payload, EspNowResultCodec.encode sent = .ok payload ∧ OwnFailure sent ∧
        d.loop answers nowMs = d.staged sent payload := by
    obtain ⟨sent, payload, same, encodes, own⟩ :=
      completeFailure_cases identified failed told retryable nowMs
    exact ⟨sent, payload, encodes, own, run.trans same⟩
  by_cases overdue : nowMs - d.startedMs ≥ d.command.timeoutMs
  · refine .inr (.inr ⟨.inl overdue, failing .timedOut "remote command execution timed out" false
      ?_ (by decide) (by decide)⟩)
    rw [loop, if_neg (by simp [active]), if_pos overdue]
  · by_cases ready : answers.hasResult = true
    · have invalid (run : d.loop answers nowMs = d.completeFailure .internalError
          "command handler returned invalid result" false nowMs) :=
        failing .internalError "command handler returned invalid result" false run
          (by decide) (by decide)
      by_cases relayable : d.Relayable answers.takeResult
      · obtain ⟨result, payload, answered, same, encodes⟩ := relayable
        refine .inr (.inl ⟨overdue, ready, result, payload, answered, same, encodes, ?_⟩)
        have consistent := (EspNowResultCodec.encode_ok encodes).1
        rw [loop, if_neg (by simp [active]), if_neg overdue, if_neg (by simp [ready])]
        simp only [answered, same, consistent, ne_eq, not_true_eq_false, Bool.true_eq_false,
          or_self, ↓reduceIte, completeResult, stageResult_encodes encodes]
      · refine .inr (.inr ⟨.inr ⟨ready, relayable⟩, ?_⟩)
        cases answered : answers.takeResult with
        | none =>
          apply invalid
          simp [loop, active, overdue, ready, answered]
        | some result =>
          by_cases valid : result.transactionId = d.transactionId ∧ result.consistent = true
          · obtain ⟨sent, payload, staging, encodes, ⟨_, sendable⟩ | ⟨own, _⟩⟩ :=
              completeResult_cases identified result
            · exact absurd ⟨result, payload, answered, valid.1, sendable⟩ relayable
            · refine ⟨sent, payload, encodes, own, ?_⟩
              rw [← staging]
              simp [loop, active, overdue, ready, answered, valid]
          · apply invalid
            have wrong : result.transactionId ≠ d.transactionId ∨ result.consistent = false := by
              rw [← Bool.not_eq_true]
              exact not_and_or.mp valid
            rw [loop, if_neg (by simp [active]), if_neg overdue, if_neg (by simp [ready])]
            simp only [answered, if_pos wrong]
    · refine .inl ⟨overdue, by simpa using ready, ?_⟩
      rw [loop, if_neg (by simp [active]), if_neg overdue, if_pos (by simp [ready])]

/-- What a dispatcher that is not idle knows about its command, and what it has staged. -/
structure Sound (d : InboundCommandDispatcher) : Prop where
  identified : d.state ≠ .idle → d.transactionId ≠ 0
  addressed : d.state ≠ .idle → d.peerIndex ≠ invalidPeerIndex
  staging : d.state = .resultReady → ∃ sent payload,
    EspNowResultCodec.encode sent = .ok payload ∧
      d.pending = ⟨d.peerIndex, d.transactionId, payload, decide sent.Terminal⟩

theorem Sound.of_idle (idle : d.state = .idle) : d.Sound :=
  ⟨absurd idle, absurd idle, fun ready => by simp [idle] at ready⟩

theorem Sound.of_staged (identified : d.transactionId ≠ 0)
    (addressed : d.peerIndex ≠ invalidPeerIndex) {sent : NetResult} {payload : BoundedBytes 640}
    (encodes : EspNowResultCodec.encode sent = .ok payload) : (d.staged sent payload).Sound :=
  ⟨fun _ => identified, fun _ => addressed, fun _ => ⟨sent, payload, encodes, rfl⟩⟩

theorem Sound.of_active (identified : d.transactionId ≠ 0)
    (addressed : d.peerIndex ≠ invalidPeerIndex) (active : d.state = .active) : d.Sound :=
  ⟨fun _ => identified, fun _ => addressed, fun ready => by simp [active] at ready⟩

theorem Sound.accept (sound : d.Sound) (inbound : EspNowInboundApplicationMessage)
    (answers : NetCommandHandlerAnswers) (nowMs : UInt32) :
    (d.accept inbound answers nowMs).2.Sound := by
  rcases d.accept_cases inbound answers nowMs with ⟨_, same⟩ | ⟨accepts, command, outcome⟩
  · rw [same]
    exact sound
  · obtain ⟨_, addressed, _, identified⟩ := accepts
    rcases outcome with ⟨_, _, same⟩ | ⟨_, sent, payload, encodes, _, same⟩
    · rw [same]
      exact .of_active identified addressed rfl
    · rw [same]
      exact .of_staged identified addressed encodes

theorem loop_of_not_active (inactive : d.state ≠ .active) (answers : NetCommandHandlerAnswers)
    (nowMs : UInt32) : d.loop answers nowMs = d := by
  rw [loop, if_pos inactive]

theorem Sound.loop (sound : d.Sound) (answers : NetCommandHandlerAnswers) (nowMs : UInt32) :
    (d.loop answers nowMs).Sound := by
  by_cases active : d.state = .active
  · have busy : d.state ≠ .idle := by simp [active]
    rcases loop_cases (sound.identified busy) answers nowMs active with
      ⟨_, _, same⟩ | ⟨_, _, result, payload, _, _, encodes, same⟩ |
        ⟨_, sent, payload, encodes, _, same⟩
    · rw [same]
      exact sound
    · rw [same]
      exact .of_staged (sound.identified busy) (sound.addressed busy) encodes
    · rw [same]
      exact .of_staged (sound.identified busy) (sound.addressed busy) encodes
  · rw [loop_of_not_active active]
    exact sound

/-- Nothing is taken, or the staged result is, and the dispatcher rests or works on. -/
theorem takeResult_cases : (d.state ≠ .resultReady ∧ d.takeResult = (none, d)) ∨
    d.state = .resultReady ∧
      ((d.pending.terminal = true ∧ d.takeResult = (some d.pending, d.reset)) ∨
        d.pending.terminal = false ∧
          d.takeResult = (some d.pending, { d with pending := {}, state := .active })) := by
  by_cases ready : d.state = .resultReady
  · right
    refine ⟨ready, ?_⟩
    cases terminal : d.pending.terminal with
    | true => exact .inl ⟨rfl, by simp [takeResult, hasResult, ready, terminal]⟩
    | false => exact .inr ⟨rfl, by simp [takeResult, hasResult, ready, terminal]⟩
  · left
    exact ⟨ready, by simp [takeResult, hasResult, ready]⟩

theorem takeResult_some {pending : PendingNetResult} {next : InboundCommandDispatcher}
    (run : d.takeResult = (some pending, next)) : d.state = .resultReady ∧ pending = d.pending ∧
      ((d.pending.terminal = true ∧ next = d.reset) ∨
        d.pending.terminal = false ∧ next = { d with pending := {}, state := .active }) := by
  rcases d.takeResult_cases with ⟨_, same⟩ | ⟨ready, ⟨last, same⟩ | ⟨onward, same⟩⟩ <;>
    rw [run] at same
  · cases same
  · obtain ⟨taken, rfl⟩ := Prod.mk.inj same
    exact ⟨ready, Option.some.inj taken, .inl ⟨last, rfl⟩⟩
  · obtain ⟨taken, rfl⟩ := Prod.mk.inj same
    exact ⟨ready, Option.some.inj taken, .inr ⟨onward, rfl⟩⟩

theorem Sound.takeResult (sound : d.Sound) : d.takeResult.2.Sound := by
  rcases d.takeResult_cases with ⟨_, same⟩ | ⟨ready, ⟨_, same⟩ | ⟨_, same⟩⟩
  · rw [same]
    exact sound
  · rw [same]
    exact .of_idle rfl
  · rw [same]
    have busy : d.state ≠ .idle := by simp [ready]
    exact .of_active (sound.identified busy) (sound.addressed busy) rfl

end InboundCommandDispatcher

/- Runs -/

/-- What happened at a dispatcher. `generated` is a result the dispatcher made up itself. -/
inductive DispatcherEvent where
  | accepted (peerIndex : PeerIndex) (transactionId : TransactionId)
  | refused
  | started (transactionId : TransactionId)
  | generated (pending : PendingNetResult)
  | taken (pending : PendingNetResult)
  deriving DecidableEq

inductive DispatcherOperation where
  | setHandler (installed : Bool)
  | accept (inbound : EspNowInboundApplicationMessage) (answers : NetCommandHandlerAnswers)
      (nowMs : UInt32)
  | acceptInterrupt (inbound : EspNowInboundApplicationMessage)
      (operation : InboundCommandDispatcher) (answers : NetCommandHandlerAnswers) (nowMs : UInt32)
  | loop (answers : NetCommandHandlerAnswers) (nowMs : UInt32)
  | takeResult

/-- The history has the latest event first. -/
structure DispatcherRun where
  dispatcher : InboundCommandDispatcher := {}
  history : List DispatcherEvent := []

namespace DispatcherRun

/-- An accepted command is active if the handler has answered STARTED; otherwise the
    dispatcher has answered it. -/
def noteAccept (run : DispatcherRun) (inbound : EspNowInboundApplicationMessage) :
    Bool × InboundCommandDispatcher → DispatcherRun
  | (false, dispatcher) => { dispatcher, history := .refused :: run.history }
  | (true, dispatcher) =>
    { dispatcher
      history :=
        (if dispatcher.state = .active then .started dispatcher.transactionId
          else .generated dispatcher.pending) ::
          .accepted inbound.peerIndex inbound.message.envelope.transactionId :: run.history }

/-- The loop has staged a result that is not the handler's answer. -/
def MadeUp (before after : InboundCommandDispatcher) (answers : NetCommandHandlerAnswers)
    (nowMs : UInt32) : Prop :=
  before.state = .active ∧ after.state = .resultReady ∧
    (before.Overdue nowMs ∨ ¬ before.Relayable answers.takeResult)

instance decidableMadeUp (before after : InboundCommandDispatcher)
    (answers : NetCommandHandlerAnswers) (nowMs : UInt32) :
    Decidable (MadeUp before after answers nowMs) :=
  inferInstanceAs (Decidable (_ ∧ _ ∧ (_ ∨ _)))

def perform (run : DispatcherRun) : DispatcherOperation → DispatcherRun
  | .setHandler installed =>
    { run with dispatcher := { run.dispatcher with handlerInstalled := installed } }
  | .accept inbound answers nowMs =>
    run.noteAccept inbound (run.dispatcher.accept inbound answers nowMs)
  | .acceptInterrupt inbound operation answers nowMs =>
    run.noteAccept inbound (run.dispatcher.acceptInterrupt inbound operation answers nowMs)
  | .loop answers nowMs =>
    let after := run.dispatcher.loop answers nowMs
    { dispatcher := after
      history :=
        if MadeUp run.dispatcher after answers nowMs then .generated after.pending :: run.history
        else run.history }
  | .takeResult =>
    match run.dispatcher.takeResult with
    | (some pending, dispatcher) => { dispatcher, history := .taken pending :: run.history }
    | (none, dispatcher) => { run with dispatcher }

def performAll (operations : List DispatcherOperation) : DispatcherRun :=
  operations.foldl perform {}

/-- Everything one operation can do to a sound dispatcher. -/
inductive Move (d : InboundCommandDispatcher) (history : List DispatcherEvent) :
    DispatcherRun → Prop
  | kept (installed : Bool) : Move d history ⟨{ d with handlerInstalled := installed }, history⟩
  | refused : Move d history ⟨d, .refused :: history⟩
  | started (inbound : EspNowInboundApplicationMessage) (nowMs : UInt32) (command : NetCommand)
      (accepts : d.Accepts inbound) :
      Move d history ⟨{ d.taking inbound nowMs command with state := .active },
        .started inbound.message.envelope.transactionId ::
          .accepted inbound.peerIndex inbound.message.envelope.transactionId :: history⟩
  | answered (inbound : EspNowInboundApplicationMessage) (nowMs : UInt32) (command : NetCommand)
      (accepts : d.Accepts inbound) {sent : NetResult} {payload : BoundedBytes 640}
      (encodes : EspNowResultCodec.encode sent = .ok payload)
      (own : InboundCommandDispatcher.OwnFailure sent) :
      Move d history ⟨(d.taking inbound nowMs command).staged sent payload,
        .generated ((d.taking inbound nowMs command).staged sent payload).pending ::
          .accepted inbound.peerIndex inbound.message.envelope.transactionId :: history⟩
  | relayed (active : d.state = .active) {sent : NetResult} {payload : BoundedBytes 640}
      (encodes : EspNowResultCodec.encode sent = .ok payload) :
      Move d history ⟨d.staged sent payload, history⟩
  | generated (active : d.state = .active) {sent : NetResult} {payload : BoundedBytes 640}
      (encodes : EspNowResultCodec.encode sent = .ok payload)
      (own : InboundCommandDispatcher.OwnFailure sent) :
      Move d history ⟨d.staged sent payload,
        .generated (d.staged sent payload).pending :: history⟩
  | finished (ready : d.state = .resultReady) (terminal : d.pending.terminal = true) :
      Move d history ⟨d.reset, .taken d.pending :: history⟩
  | progressed (ready : d.state = .resultReady) (onward : d.pending.terminal = false) :
      Move d history ⟨{ d with pending := {}, state := .active }, .taken d.pending :: history⟩

theorem noteAccept_move (run : DispatcherRun) (inbound : EspNowInboundApplicationMessage)
    (answers : NetCommandHandlerAnswers) (nowMs : UInt32) :
    Move run.dispatcher run.history
      (run.noteAccept inbound (run.dispatcher.accept inbound answers nowMs)) := by
  rcases run.dispatcher.accept_cases inbound answers nowMs with
    ⟨_, same⟩ | ⟨accepts, command, ⟨_, _, same⟩ | ⟨_, sent, payload, encodes, own, same⟩⟩
  · rw [same]
    exact .refused
  · rw [same]
    exact .started inbound nowMs command accepts
  · rw [same]
    exact .answered inbound nowMs command accepts encodes own

/-- The loop of an active dispatcher leaves a result of its own exactly when it is late, or the
    handler's answer cannot be relayed. -/
def Untroubled (d : InboundCommandDispatcher) : DispatcherOperation → Prop
  | .loop answers nowMs => d.state = .active →
      ¬ d.Overdue nowMs ∧ (answers.hasResult = true → d.Relayable answers.takeResult)
  | _ => True

theorem loop_move (run : DispatcherRun) (sound : run.dispatcher.Sound)
    (answers : NetCommandHandlerAnswers) (nowMs : UInt32) :
    (Untroubled run.dispatcher (.loop answers nowMs) ∧
      (run.perform (.loop answers nowMs) = run ∨
        run.dispatcher.state = .active ∧ ∃ sent payload,
          EspNowResultCodec.encode sent = .ok payload ∧
          run.perform (.loop answers nowMs) =
            ⟨run.dispatcher.staged sent payload, run.history⟩)) ∨
      ¬ Untroubled run.dispatcher (.loop answers nowMs) ∧ run.dispatcher.state = .active ∧
        ∃ sent payload, EspNowResultCodec.encode sent = .ok payload ∧
          InboundCommandDispatcher.OwnFailure sent ∧
          run.perform (.loop answers nowMs) = ⟨run.dispatcher.staged sent payload,
            .generated (run.dispatcher.staged sent payload).pending :: run.history⟩ := by
  obtain ⟨d, history⟩ := run
  simp only at sound ⊢
  by_cases active : d.state = .active
  · rcases InboundCommandDispatcher.loop_cases (sound.identified (by simp [active])) answers nowMs
      active with ⟨early, unready, same⟩ | ⟨early, ready, result, payload, answered, mine, encodes,
        same⟩ | ⟨troubled, sent, payload, encodes, own, same⟩
    · refine .inl ⟨fun _ => ⟨early, by simp [unready]⟩, .inl ?_⟩
      simp [perform, same, MadeUp, active]
    · have relayable : d.Relayable answers.takeResult := ⟨result, payload, answered, mine, encodes⟩
      refine .inl ⟨fun _ => ⟨early, fun _ => relayable⟩,
        .inr ⟨active, result, payload, encodes, ?_⟩⟩
      simp [perform, same, MadeUp, early, relayable]
    · refine .inr ⟨fun untroubled => ?_, active, sent, payload, encodes, own, ?_⟩
      · obtain ⟨early, relays⟩ := untroubled active
        rcases troubled with overdue | ⟨ready, unrelayable⟩
        · exact early overdue
        · exact unrelayable (relays ready)
      · have madeUp : MadeUp d (d.staged sent payload) answers nowMs :=
          ⟨active, rfl, troubled.imp_right And.right⟩
        simp only [perform, same, if_pos madeUp]
  · refine .inl ⟨fun busy => absurd busy active, .inl ?_⟩
    simp [perform, InboundCommandDispatcher.loop_of_not_active active, MadeUp, active]

theorem perform_move (run : DispatcherRun) (sound : run.dispatcher.Sound)
    (operation : DispatcherOperation) :
    Move run.dispatcher run.history (run.perform operation) := by
  cases operation with
  | setHandler installed => exact .kept installed
  | accept inbound answers nowMs => exact noteAccept_move run inbound answers nowMs
  | acceptInterrupt inbound operation answers nowMs =>
    simp only [perform, InboundCommandDispatcher.acceptInterrupt]
    split
    · exact noteAccept_move run inbound answers nowMs
    · exact .refused
  | loop answers nowMs =>
    rcases loop_move run sound answers nowMs with
      ⟨_, same | ⟨active, sent, payload, encodes, same⟩⟩ |
        ⟨_, active, sent, payload, encodes, own, same⟩
    · rw [same]
      exact .kept run.dispatcher.handlerInstalled
    · rw [same]
      exact .relayed active encodes
    · rw [same]
      exact .generated active encodes own
  | takeResult =>
    rcases run.dispatcher.takeResult_cases with
      ⟨_, same⟩ | ⟨ready, ⟨terminal, same⟩ | ⟨onward, same⟩⟩
    · simp only [perform, same]
      exact .kept run.dispatcher.handlerInstalled
    · simp only [perform, same]
      exact .finished ready terminal
    · simp only [perform, same]
      exact .progressed ready onward

/- What is promised of the history -/

/-- The command that has been accepted and not yet been given its terminal result. -/
def inHand : List DispatcherEvent → Option (PeerIndex × TransactionId)
  | [] => none
  | .accepted peerIndex transactionId :: _ => some (peerIndex, transactionId)
  | .taken pending :: older => if pending.terminal then none else inHand older
  | .refused :: older | .started _ :: older | .generated _ :: older => inHand older

/-- A payload that its receiver can read, with a status that says whether it is the last. -/
def Readable (pending : PendingNetResult) : Prop :=
  ∀ latencyMs, ∃ result,
    EspNowResultCodec.decode pending.transactionId pending.payload.bytes latencyMs = .ok result ∧
      result.transactionId = pending.transactionId ∧ result.consistent = true ∧
      (result.status = .inProgress ↔ pending.terminal = false)

/-- A command is accepted only when none is in hand, and every result taken is one of the
    command in hand, which its terminal result settles. -/
def Orderly : List DispatcherEvent → Prop
  | [] => True
  | .accepted _ _ :: older => inHand older = none ∧ Orderly older
  | .taken pending :: older =>
    (inHand older = some (pending.peerIndex, pending.transactionId) ∧ Readable pending) ∧
      Orderly older
  | .refused :: older | .started _ :: older | .generated _ :: older => Orderly older

theorem readable_of_encode {sent : NetResult} {payload : BoundedBytes 640}
    (encodes : EspNowResultCodec.encode sent = .ok payload) (peerIndex : PeerIndex)
    {transactionId : TransactionId} (identified : transactionId ≠ 0) :
    Readable ⟨peerIndex, transactionId, payload, decide sent.Terminal⟩ := by
  intro latencyMs
  have consistent := (EspNowResultCodec.encode_ok encodes).1
  refine ⟨_, EspNowResultCodec.decode_encode encodes identified latencyMs, rfl, ?_, ?_⟩
  · exact EspNowResultCodec.consistent_received consistent identified latencyMs
  · exact sent.terminal_iff.symm

/-- A dispatcher and its history agree on the command in hand. -/
structure InStep (run : DispatcherRun) : Prop where
  sound : run.dispatcher.Sound
  orderly : Orderly run.history
  inHand : inHand run.history = if run.dispatcher.state = .idle then none
    else some (run.dispatcher.peerIndex, run.dispatcher.transactionId)

theorem InStep.move {d : InboundCommandDispatcher} {history : List DispatcherEvent}
    {next : DispatcherRun} (inStep : InStep ⟨d, history⟩) (move : Move d history next)
    (sound : next.dispatcher.Sound) : next.InStep := by
  obtain ⟨before, orderly, hand⟩ := inStep
  simp only at before orderly hand
  cases move with
  | kept installed => exact ⟨sound, orderly, hand⟩
  | refused => exact ⟨sound, orderly, hand⟩
  | started inbound nowMs command accepts =>
    refine ⟨sound, ⟨?_, orderly⟩, rfl⟩
    rw [hand, if_pos accepts.1]
  | answered inbound nowMs command accepts encodes own =>
    refine ⟨sound, ⟨?_, orderly⟩, rfl⟩
    rw [hand, if_pos accepts.1]
  | relayed active encodes =>
    refine ⟨sound, orderly, ?_⟩
    rw [hand, if_neg (by simp [active])]
    rfl
  | generated active encodes own =>
    refine ⟨sound, orderly, ?_⟩
    have busy := hand
    rw [if_neg (by simp [active])] at busy
    exact busy
  | finished ready terminal =>
    obtain ⟨sent, payload, encodes, staged⟩ := before.staging ready
    refine ⟨sound, ⟨⟨?_, ?_⟩, orderly⟩, ?_⟩
    · rw [hand, if_neg (by simp [ready]), staged]
    · rw [staged]
      exact readable_of_encode encodes _ (before.identified (by simp [ready]))
    · simp [DispatcherRun.inHand, terminal, InboundCommandDispatcher.reset]
  | progressed ready onward =>
    obtain ⟨sent, payload, encodes, staged⟩ := before.staging ready
    refine ⟨sound, ⟨⟨?_, ?_⟩, orderly⟩, ?_⟩
    · rw [hand, if_neg (by simp [ready]), staged]
    · rw [staged]
      exact readable_of_encode encodes _ (before.identified (by simp [ready]))
    · simp [DispatcherRun.inHand, onward, hand, ready]

theorem perform_sound (run : DispatcherRun) (sound : run.dispatcher.Sound)
    (operation : DispatcherOperation) : (run.perform operation).dispatcher.Sound := by
  have accepted (inbound : EspNowInboundApplicationMessage)
      (outcome : Bool × InboundCommandDispatcher) :
      (run.noteAccept inbound outcome).dispatcher = outcome.2 := by
    obtain ⟨_ | _, _⟩ := outcome <;> rfl
  cases operation with
  | setHandler installed => exact ⟨sound.identified, sound.addressed, sound.staging⟩
  | accept inbound answers nowMs =>
    simp only [perform, accepted]
    exact sound.accept inbound answers nowMs
  | acceptInterrupt inbound operation answers nowMs =>
    simp only [perform, accepted, InboundCommandDispatcher.acceptInterrupt]
    split
    · exact sound.accept inbound answers nowMs
    · exact sound
  | loop answers nowMs => exact sound.loop answers nowMs
  | takeResult =>
    have taken := sound.takeResult
    simp only [perform]
    cases outcome : run.dispatcher.takeResult with
    | mk pending dispatcher =>
      rw [outcome] at taken
      cases pending <;> exact taken

theorem InStep.fresh : InStep {} :=
  ⟨.of_idle rfl, trivial, rfl⟩

theorem InStep.performs {run : DispatcherRun} (inStep : run.InStep)
    (operations : List DispatcherOperation) : (operations.foldl perform run).InStep := by
  induction operations generalizing run with
  | nil => exact inStep
  | cons operation rest ih =>
    apply ih
    exact inStep.move (perform_move run inStep.sound operation)
      (perform_sound run inStep.sound operation)

/-- Whatever the handler answers and whatever the order of the calls, every accepted command is
    answered by readable results of its own, the terminal one last; until that one is taken the
    dispatcher accepts nothing, and nothing else makes it idle. -/
theorem results_in_order (operations : List DispatcherOperation) :
    Orderly (performAll operations).history ∧
      ((performAll operations).dispatcher.state = .idle ↔
        inHand (performAll operations).history = none) ∧
      ((performAll operations).dispatcher.state ≠ .idle → ∀ result,
        ((performAll operations).dispatcher.completeResult result).state = .resultReady) ∧
      ∀ inbound nowMs command, (performAll operations).dispatcher.Accepts inbound → ∀ result,
        (((performAll operations).dispatcher.taking inbound nowMs command).completeResult
          result).state = .resultReady := by
  obtain ⟨sound, orderly, hand⟩ := InStep.fresh.performs operations
  refine ⟨orderly, ?_, ?_, ?_⟩
  · change _ ↔ inHand (List.foldl perform {} operations).history = none
    rw [hand]
    unfold performAll
    split <;> simp_all
  · intro busy result
    obtain ⟨_, _, staged, _⟩ :=
      InboundCommandDispatcher.completeResult_cases (sound.identified busy) result
    exact congrArg InboundCommandDispatcher.state staged
  · intro inbound nowMs command accepts result
    obtain ⟨_, _, staged, _⟩ := InboundCommandDispatcher.completeResult_cases
      (d := (performAll operations).dispatcher.taking inbound nowMs command) accepts.2.2.2 result
    exact congrArg InboundCommandDispatcher.state staged

/- What the dispatcher says about the start of the execution -/

/-- The transaction of the latest command, if the handler has started it. -/
def startedCommand : List DispatcherEvent → Option TransactionId
  | .started transactionId :: _ => some transactionId
  | [] | .accepted _ _ :: _ => none
  | .refused :: older | .generated _ :: older | .taken _ :: older => startedCommand older

/-- The receiver of the payload learns that the execution had started. -/
def TellsStarted (pending : PendingNetResult) : Prop :=
  ∀ latencyMs, ∃ result,
    EspNowResultCodec.decode pending.transactionId pending.payload.bytes latencyMs = .ok result ∧
      result.execution.started = true

/-- Every result that the dispatcher made up for a started command says that it had started. -/
def StartReported : List DispatcherEvent → Prop
  | [] => True
  | .generated pending :: older =>
    (startedCommand older = some pending.transactionId → TellsStarted pending) ∧
      StartReported older
  | .accepted _ _ :: older | .refused :: older | .started _ :: older | .taken _ :: older =>
    StartReported older

/-- No operation of the run troubles the dispatcher. -/
def AllUntroubled (run : DispatcherRun) : List DispatcherOperation → Prop
  | [] => True
  | operation :: rest =>
    Untroubled run.dispatcher operation ∧ AllUntroubled (run.perform operation) rest

/-- The history knows that the handler has started the command of an active dispatcher, and of
    one that will be active again. -/
structure StartKnown (run : DispatcherRun) : Prop where
  sound : run.dispatcher.Sound
  active : run.dispatcher.state = .active →
    startedCommand run.history = some run.dispatcher.transactionId
  onward : run.dispatcher.state = .resultReady → run.dispatcher.pending.terminal = false →
    startedCommand run.history = some run.dispatcher.transactionId

theorem StartKnown.move {d : InboundCommandDispatcher} {history : List DispatcherEvent}
    {next : DispatcherRun} (known : StartKnown ⟨d, history⟩) (move : Move d history next)
    (sound : next.dispatcher.Sound) : next.StartKnown := by
  obtain ⟨_, active, onward⟩ := known
  simp only at active onward
  cases move with
  | kept installed => exact ⟨sound, active, onward⟩
  | refused => exact ⟨sound, active, onward⟩
  | started inbound nowMs command accepts =>
    refine ⟨sound, fun _ => rfl, fun ready => ?_⟩
    cases ready
  | answered inbound nowMs command accepts encodes own =>
    refine ⟨sound, fun busy => ?_, fun _ nonterminal => ?_⟩
    · cases busy
    · have status := (NetResult.terminal_iff _).mp nonterminal
      rw [own.1] at status
      cases status
  | relayed running encodes =>
    refine ⟨sound, fun busy => ?_, fun _ _ => active running⟩
    cases busy
  | generated running encodes own =>
    refine ⟨sound, fun busy => ?_, fun _ _ => active running⟩
    cases busy
  | finished ready terminal =>
    constructor
    · exact sound
    · intro busy
      cases busy
    · intro ready
      cases ready
  | progressed ready nonterminal =>
    refine ⟨sound, fun _ => onward ready nonterminal, fun again => ?_⟩
    cases again

theorem StartKnown.fresh : StartKnown {} :=
  ⟨.of_idle rfl, fun busy => (nomatch busy), fun ready _ => (nomatch ready)⟩

/-- A failure of the dispatcher's own never says that the execution had started. -/
theorem ownFailure_untold {sent : NetResult} {payload : BoundedBytes 640}
    (encodes : EspNowResultCodec.encode sent = .ok payload)
    (own : InboundCommandDispatcher.OwnFailure sent) (peerIndex : PeerIndex)
    {transactionId : TransactionId} (identified : transactionId ≠ 0) (terminal : Bool) :
    ¬ TellsStarted ⟨peerIndex, transactionId, payload, terminal⟩ := by
  intro tells
  obtain ⟨result, decoded, started⟩ := tells 0
  rw [EspNowResultCodec.decode_encode encodes identified] at decoded
  obtain rfl := Except.ok.inj decoded
  simp [own.2] at started

theorem perform_startReported (run : DispatcherRun) (known : run.StartKnown)
    (operation : DispatcherOperation) :
    StartReported (run.perform operation).history ↔
      Untroubled run.dispatcher operation ∧ StartReported run.history := by
  have accepting (inbound : EspNowInboundApplicationMessage)
      (answers : NetCommandHandlerAnswers) (nowMs : UInt32) :
      StartReported (run.noteAccept inbound (run.dispatcher.accept inbound answers nowMs)).history ↔
        StartReported run.history := by
    rcases run.dispatcher.accept_cases inbound answers nowMs with
      ⟨_, same⟩ | ⟨_, command, ⟨_, _, same⟩ | ⟨_, sent, payload, _, _, same⟩⟩
    · rw [same]
      rfl
    · rw [same]
      rfl
    · rw [same]
      simp [noteAccept, InboundCommandDispatcher.staged, StartReported, startedCommand]
  cases operation with
  | setHandler installed => exact (and_iff_right trivial).symm
  | accept inbound answers nowMs =>
    exact (accepting inbound answers nowMs).trans (and_iff_right trivial).symm
  | acceptInterrupt inbound operation answers nowMs =>
    refine Iff.trans ?_ (and_iff_right trivial).symm
    simp only [perform, InboundCommandDispatcher.acceptInterrupt]
    split
    · exact accepting inbound answers nowMs
    · rfl
  | loop answers nowMs =>
    rcases loop_move run known.sound answers nowMs with
      ⟨untroubled, same | ⟨_, sent, payload, _, same⟩⟩ |
        ⟨troubled, active, sent, payload, encodes, own, same⟩
    · rw [same]
      exact (and_iff_right untroubled).symm
    · rw [same]
      exact (and_iff_right untroubled).symm
    · rw [same]
      have untold := ownFailure_untold encodes own run.dispatcher.peerIndex
        (known.sound.identified (by simp [active])) (decide sent.Terminal)
      have started := known.active active
      constructor
      · rintro ⟨tells, _⟩
        exact absurd (tells started) untold
      · rintro ⟨untroubled, _⟩
        exact absurd untroubled troubled
  | takeResult =>
    refine Iff.trans ?_ (and_iff_right trivial).symm
    simp only [perform]
    split <;> rfl

theorem StartKnown.perform {run : DispatcherRun} (known : run.StartKnown)
    (operation : DispatcherOperation) : (run.perform operation).StartKnown :=
  known.move (perform_move run known.sound operation) (perform_sound run known.sound operation)

theorem startReported_iff {run : DispatcherRun} (known : run.StartKnown)
    (operations : List DispatcherOperation) :
    StartReported (operations.foldl perform run).history ↔
      StartReported run.history ∧ AllUntroubled run operations := by
  induction operations generalizing run with
  | nil => simp [AllUntroubled]
  | cons operation rest ih =>
    rw [List.foldl_cons, ih (known.perform operation), perform_startReported run known operation,
      AllUntroubled]
    tauto

/-- A started command is reported as started in every result the dispatcher makes up exactly
    when it makes up none: an active dispatcher is never late, and is given nothing by its
    handler that it cannot send on. -/
theorem started_reported_iff (operations : List DispatcherOperation) :
    StartReported (performAll operations).history ↔ AllUntroubled {} operations := by
  unfold performAll
  rw [startReported_iff .fresh]
  exact and_iff_right trivial

/-- A command with a timeout of 100 ms from a peer. -/
def relayCommand (peerIndex : PeerIndex) (transactionId : TransactionId) :
    EspNowInboundApplicationMessage :=
  { peerIndex
    message :=
      { envelope := { kind := .command, transactionId }
        data := (BoundedBytes.assign [1, 1, 1, 1, 0, 0, 0, 0, 0, 100, 114, 49, 111]).2 } }

/-- The handler starts the command and stays silent until its timeout has passed. -/
def lateRun : List DispatcherOperation :=
  [.setHandler true, .accept (relayCommand 2 7) { start := .started } 0, .loop {} 100]

theorem late_unreported : ¬ StartReported (performAll lateRun).history := by
  intro reported
  obtain ⟨_, _, _, untroubled, _⟩ := (startReported_iff .fresh lateRun).mp reported
  have early := (untroubled (by decide)).1
  exact early (by decide)

end DispatcherRun

end EspNowNet
