import Mathlib.Data.List.Induction
import EspNowNet.SenderInvariant

/- The order of the fragments inside one delivery attempt, when `loop` may be called
   at any point between taking a frame and completing it. -/
namespace EspNowNet
open EspNowFrameCodec ReliableMessageSender

inductive AttemptCall where
  | takeFrame
  | completeFrame (nowMs : UInt32)
  | loop (nowMs : UInt32)

/-- A sender with the frames its current attempt has emitted and how many of them have
    completed. Only the expiry of an ACK timer starts a new attempt. -/
structure Attempt where
  sender : ReliableMessageSender
  emitted : List EspNowRadioFrame
  completed : Nat

namespace Attempt

def begin (sender : ReliableMessageSender) : Attempt := ⟨sender, [], 0⟩

def step (a : Attempt) : AttemptCall → Attempt
  | .takeFrame =>
    match a.sender.takeFrame with
    | (none, sender) => { a with sender }
    | (some (_, frame), sender) => { a with sender, emitted := a.emitted ++ [frame] }
  | .completeFrame nowMs =>
    match a.sender.completeFrame true nowMs with
    | (false, sender) => { a with sender }
    | (true, sender) => { a with sender, completed := a.completed + 1 }
  | .loop nowMs =>
    let sender := a.sender.loop nowMs
    if a.sender.state = .waitingForAck ∧ sender.state = .ready then begin sender
    else { a with sender }

def run (sender : ReliableMessageSender) (calls : List AttemptCall) : Attempt :=
  calls.foldl step (begin sender)

theorem run_snoc (sender : ReliableMessageSender) (calls : List AttemptCall) (call : AttemptCall) :
    run sender (calls ++ [call]) = (run sender calls).step call := by
  simp [run]

/-- The frames of the attempt so far are the message's first fragments, each once and in
    order, and the sender's position counts the completed ones. -/
structure InOrder (envelope : EspNowFrameEnvelope) (message : List UInt8) (a : Attempt) : Prop where
  frames : a.emitted.map Except.ok =
    (List.range a.emitted.length).map (encodeFragment envelope message)
  count : a.emitted.length = a.completed + if a.sender.frameInFlight then 1 else 0
  bounded : a.emitted.length ≤ EspNowFrameCodec.fragmentCount message.length
  position : a.sender.fragmentIndex = a.completed

end Attempt

/-- Every attempt of a run emits its fragments in order, and the completion of the last
    one leaves the sender waiting for the acknowledgement. -/
def AttemptsInOrder (sender : ReliableMessageSender) (message : List UInt8)
    (calls : List AttemptCall) : Prop :=
  (∀ done, done <+: calls → (Attempt.run sender done).InOrder sender.envelope message) ∧
    ∀ done nowMs, done ++ [.completeFrame nowMs] <+: calls →
      (Attempt.run sender done).completed < EspNowFrameCodec.fragmentCount message.length →
      (Attempt.run sender (done ++ [.completeFrame nowMs])).completed =
        EspNowFrameCodec.fragmentCount message.length →
      (Attempt.run sender (done ++ [.completeFrame nowMs])).sender.state = .waitingForAck

/-- The sender has completed a fragment and not yet taken the next one. -/
def BetweenFragments (s : ReliableMessageSender) : Prop := s.state = .ready ∧ s.fragmentIndex ≠ 0

instance decidableBetweenFragments (s : ReliableMessageSender) :
    Decidable (BetweenFragments s) :=
  inferInstanceAs (Decidable (_ ∧ _))

def NoLoopBetweenFragments (sender : ReliableMessageSender) (calls : List AttemptCall) : Prop :=
  ∀ done nowMs, done ++ [.loop nowMs] <+: calls →
    ¬ BetweenFragments (Attempt.run sender done).sender

theorem loop_of_ready {s : ReliableMessageSender} (coupled : s.Coupled) (ready : s.state = .ready)
    (nowMs : UInt32) : s.loop nowMs = { s with fragmentIndex := 0 } := by
  obtain ⟨delivered, landed⟩ := stateFor_ready_iff.mp (coupled.state ▸ ready)
  have same : s.delivery.loop nowMs = s.delivery := by
    simp [EspNowReliableDelivery.loop, delivered]
  simp [loop, same, delivered, landed, ← ready]

/-- What every attempt of a started message keeps, whatever the order of the calls. -/
structure AttemptOf (start : ReliableMessageSender) (a : Attempt) : Prop where
  coupled : a.sender.Coupled
  busy : a.sender.delivery.state ≠ .idle
  envelope : a.sender.envelope = start.envelope
  message : a.sender.message = start.message

theorem attemptOf_step {start : ReliableMessageSender} {a : Attempt} (of : AttemptOf start a)
    (call : AttemptCall) : AttemptOf start (a.step call) := by
  obtain ⟨coupled, busy, envelope, message⟩ := of
  cases call with
  | takeFrame =>
    rcases takeFrame_cases coupled with ⟨_, next⟩ | ⟨_, _, next⟩
    · simpa only [Attempt.step, next] using ⟨coupled, busy, envelope, message⟩
    · have kept := coupled_takeFrame coupled
      simp only [next] at kept
      simpa only [Attempt.step, next] using ⟨kept, busy, envelope, message⟩
  | completeFrame nowMs =>
    have kept := coupled_completeFrame coupled true nowMs
    rcases completeFrame_cases coupled true nowMs with ⟨_, next⟩ | ⟨_, _, _, next⟩ | ⟨_, _, next⟩ <;>
      simp only [next] at kept <;>
      simp only [Attempt.step, next]
    · exact ⟨coupled, busy, envelope, message⟩
    · exact ⟨kept, busy, envelope, message⟩
    · exact ⟨kept, by simp, envelope, message⟩
  | loop nowMs =>
    have kept := coupled_loop coupled nowMs
    have facts : AttemptOf start { a with sender := a.sender.loop nowMs } := by
      rcases loop_cases coupled nowMs with next | ⟨_, next⟩ | ⟨_, _, next⟩ | ⟨_, next⟩ <;>
        rw [next] at kept ⊢
      · exact ⟨kept, busy, envelope, message⟩
      · exact ⟨kept, busy, envelope, message⟩
      · exact ⟨kept, by simp, envelope, message⟩
      · exact ⟨kept, by simp, envelope, message⟩
    simp only [Attempt.step]
    split
    · exact ⟨facts.coupled, facts.busy, facts.envelope, facts.message⟩
    · exact facts

theorem attemptOf_run {start : ReliableMessageSender} (coupled : start.Coupled)
    (busy : start.delivery.state ≠ .idle) (calls : List AttemptCall) :
    AttemptOf start (Attempt.run start calls) := by
  induction calls using List.reverseRecOn with
  | nil => exact ⟨coupled, busy, rfl, rfl⟩
  | append_singleton calls call ih =>
    rw [Attempt.run_snoc]
    exact attemptOf_step ih call

theorem attemptOf_count {start : ReliableMessageSender} {a : Attempt} (of : AttemptOf start a) :
    a.sender.fragmentCount = EspNowFrameCodec.fragmentCount start.message.bytes.length := by
  rw [(of.coupled.loaded of.busy).count, of.message]
  rfl

theorem inOrder_begin (start sender : ReliableMessageSender) (zero : sender.fragmentIndex = 0)
    (landed : sender.frameInFlight = false) :
    (Attempt.begin sender).InOrder start.envelope start.message.bytes := by
  refine ⟨rfl, ?_, Nat.zero_le _, zero⟩
  simp [Attempt.begin, landed]

theorem inOrder_takeFrame {start : ReliableMessageSender} {a : Attempt} (of : AttemptOf start a)
    (order : a.InOrder start.envelope start.message.bytes) :
    (a.step .takeFrame).InOrder start.envelope start.message.bytes := by
  rcases takeFrame_cases of.coupled with ⟨_, next⟩ | ⟨ready, landed, next⟩
  · simpa only [Attempt.step, next] using order
  · obtain ⟨frames, count, bounded, position⟩ := order
    have delivered := (stateFor_ready_iff.mp (of.coupled.state ▸ ready)).1
    have inside := of.coupled.position delivered
    rw [attemptOf_count of, position] at inside
    simp only [landed, Bool.false_eq_true, ↓reduceIte, Nat.add_zero] at count
    have loaded := of.coupled.loaded of.busy
    have encoded : encodeFragment start.envelope start.message.bytes a.completed =
        .ok (fragmentFrame a.sender.envelope a.sender.message.bytes a.sender.fragmentIndex) := by
      rw [position, of.envelope, of.message]
      exact encodeFragment_eq_ok (of.envelope ▸ loaded.identity) inside
    simp only [Attempt.step, next]
    refine ⟨?_, by simp [count], by simp [count]; omega, position⟩
    simp only [List.map_append, frames, List.length_append, List.length_singleton,
      List.range_succ, List.map_cons, List.map_nil]
    rw [count, encoded]

theorem inOrder_completeFrame {start : ReliableMessageSender} {a : Attempt} (of : AttemptOf start a)
    (order : a.InOrder start.envelope start.message.bytes) (nowMs : UInt32) :
    (a.step (.completeFrame nowMs)).InOrder start.envelope start.message.bytes := by
  rcases completeFrame_cases of.coupled true nowMs with
    ⟨_, next⟩ | ⟨flight, _, _, next⟩ | ⟨flight, _, next⟩
  · simpa only [Attempt.step, next] using order
  all_goals
    obtain ⟨frames, count, bounded, position⟩ := order
    simp only [flight, ↓reduceIte] at count
    simp only [Attempt.step, next]
    exact ⟨frames, by simpa using count, bounded, by simpa using position⟩

theorem inOrder_loop {start : ReliableMessageSender} {a : Attempt} (of : AttemptOf start a)
    (order : a.InOrder start.envelope start.message.bytes)
    (outside : ¬ BetweenFragments a.sender) (nowMs : UInt32) :
    (a.step (.loop nowMs)).InOrder start.envelope start.message.bytes := by
  obtain ⟨frames, count, bounded, position⟩ := order
  rcases loop_cases of.coupled nowMs with next | ⟨ready, next⟩ | ⟨waiting, _, next⟩ | ⟨waiting, next⟩
  · have stays : ¬ (a.sender.state = .waitingForAck ∧ a.sender.state = .ready) := by
      rintro ⟨waiting, ready⟩
      simp [waiting] at ready
    simp only [Attempt.step, next, stays, ↓reduceIte]
    exact ⟨frames, count, bounded, position⟩
  · have zero : a.sender.fragmentIndex = 0 := by
      by_contra moved
      exact outside ⟨ready, moved⟩
    simp only [Attempt.step, next, ready, reduceCtorEq, false_and, ↓reduceIte]
    exact ⟨frames, count, bounded, by rw [← position, zero]⟩
  · have landed : a.sender.frameInFlight = false := by
      by_contra flying
      have ready := of.coupled.flight (by simpa using flying)
      have delivered := stateFor_waiting_iff.mp (of.coupled.state ▸ waiting)
      simp [delivered] at ready
    simp only [Attempt.step, next, waiting, and_self, ↓reduceIte]
    exact inOrder_begin _ _ rfl landed
  · simp only [Attempt.step, next, reduceCtorEq, and_false, ↓reduceIte]
    exact ⟨frames, count, bounded, position⟩

theorem inOrder_run {start : ReliableMessageSender} (coupled : start.Coupled)
    (busy : start.delivery.state ≠ .idle) (zero : start.fragmentIndex = 0)
    (landed : start.frameInFlight = false) (calls : List AttemptCall)
    (quiet : NoLoopBetweenFragments start calls) :
    (Attempt.run start calls).InOrder start.envelope start.message.bytes := by
  induction calls using List.reverseRecOn with
  | nil => exact inOrder_begin start start zero landed
  | append_singleton calls call ih =>
    have earlier := ih fun done nowMs before =>
      quiet done nowMs (before.trans (List.prefix_append calls [call]))
    have of := attemptOf_run coupled busy calls
    rw [Attempt.run_snoc]
    cases call with
    | takeFrame => exact inOrder_takeFrame of earlier
    | completeFrame nowMs => exact inOrder_completeFrame of earlier nowMs
    | loop nowMs => exact inOrder_loop of earlier (quiet calls nowMs (List.prefix_refl _)) nowMs

/-- The completion that makes the count full is that of the last fragment. -/
theorem last_completion_waits {start : ReliableMessageSender} {a : Attempt}
    (of : AttemptOf start a) (order : a.InOrder start.envelope start.message.bytes) (nowMs : UInt32)
    (fewer : a.completed < EspNowFrameCodec.fragmentCount start.message.bytes.length)
    (full : (a.step (.completeFrame nowMs)).completed =
      EspNowFrameCodec.fragmentCount start.message.bytes.length) :
    (a.step (.completeFrame nowMs)).sender.state = .waitingForAck := by
  rcases completeFrame_cases of.coupled true nowMs with ⟨_, next⟩ | ⟨_, _, more, next⟩ | ⟨_, _, next⟩
  · simp only [Attempt.step, next] at full
    omega
  · simp only [Attempt.step, next] at full
    rw [attemptOf_count of, order.position] at more
    omega
  · simp only [Attempt.step, next]

/-- A `loop` between two fragments moves the position back while the attempt goes on. -/
theorem loop_between_rewinds {start : ReliableMessageSender} {a : Attempt}
    (of : AttemptOf start a) (order : a.InOrder start.envelope start.message.bytes)
    (between : BetweenFragments a.sender) (nowMs : UInt32) :
    ¬ (a.step (.loop nowMs)).InOrder start.envelope start.message.bytes := by
  intro later
  have next := loop_of_ready of.coupled between.1 nowMs
  have position := later.position
  simp only [Attempt.step, next, between.1, reduceCtorEq, false_and, ↓reduceIte] at position
  exact between.2 (order.position.trans position.symm)

theorem started_facts {sender start : ReliableMessageSender} (reachable : sender.Reachable)
    {peerIndex : PeerIndex} {kind : EspNowFrameKind} {transactionId : TransactionId}
    {message : List UInt8}
    (started : sender.start peerIndex kind transactionId (some message) = (true, start)) :
    start.Coupled ∧ start.delivery.state ≠ .idle ∧ start.fragmentIndex = 0 ∧
      start.frameInFlight = false ∧ start.message.bytes = message := by
  have kept := coupled_start (reachable_coupled reachable) peerIndex kind transactionId (some message)
  rw [started] at kept
  obtain ⟨stored, same, _, _, _, _, _, _, form⟩ := start_true started
  rw [form] at kept ⊢
  exact ⟨kept, by simp, rfl, rfl, (Option.some.inj same).symm⟩

/-- Every attempt of a run is in order exactly when no `loop` call falls between two
    fragments of it. -/
theorem attempts_inOrder_iff {sender start : ReliableMessageSender} (reachable : sender.Reachable)
    {peerIndex : PeerIndex} {kind : EspNowFrameKind} {transactionId : TransactionId}
    {message : List UInt8}
    (started : sender.start peerIndex kind transactionId (some message) = (true, start))
    (calls : List AttemptCall) :
    AttemptsInOrder start message calls ↔ NoLoopBetweenFragments start calls := by
  obtain ⟨coupled, busy, zero, landed, rfl⟩ := started_facts reachable started
  constructor
  · intro ordered done nowMs before between
    have of := attemptOf_run coupled busy done
    have here := ordered.1 done ((List.prefix_append done _).trans before)
    have later := ordered.1 _ before
    rw [Attempt.run_snoc] at later
    exact loop_between_rewinds of here between nowMs later
  · intro quiet
    have ordered : ∀ done, done <+: calls →
        (Attempt.run start done).InOrder start.envelope start.message.bytes := by
      intro done before
      exact inOrder_run coupled busy zero landed done fun earlier nowMs inside =>
        quiet earlier nowMs (inside.trans before)
    refine ⟨ordered, ?_⟩
    intro done nowMs before fewer full
    have here := ordered done ((List.prefix_append done _).trans before)
    rw [Attempt.run_snoc] at full ⊢
    exact last_completion_waits (attemptOf_run coupled busy done) here nowMs fewer full

def configuredSender : ReliableMessageSender :=
  (ReliableMessageSender.configure {} 0x1234 {}).2

def twoFragmentMessage : List UInt8 := List.replicate 215 7

def twoFragmentStart : ReliableMessageSender :=
  (configuredSender.start 2 .command 77 (some twoFragmentMessage)).2

theorem configuredSender_reachable : configuredSender.Reachable :=
  ⟨[.configure 0x1234 {}], rfl⟩

theorem twoFragmentStart_started :
    configuredSender.start 2 .command 77 (some twoFragmentMessage) = (true, twoFragmentStart) := by
  decide +kernel

theorem attempts_inOrder_iff_two_fragments :
    AttemptsInOrder twoFragmentStart twoFragmentMessage
        [.takeFrame, .completeFrame 10, .takeFrame, .completeFrame 11] ↔
      NoLoopBetweenFragments twoFragmentStart
        [.takeFrame, .completeFrame 10, .takeFrame, .completeFrame 11] :=
  attempts_inOrder_iff configuredSender_reachable twoFragmentStart_started _

/-- The order of the endpoint's own loop: complete, `loop`, take. -/
theorem endpoint_order_repeats_first_fragment :
    ¬ AttemptsInOrder twoFragmentStart twoFragmentMessage
      [.takeFrame, .completeFrame 10, .loop 10, .takeFrame] := by
  obtain ⟨coupled, busy, _, _, bytes⟩ :=
    started_facts configuredSender_reachable twoFragmentStart_started
  intro ordered
  have here := ordered.1 [.takeFrame, .completeFrame 10] (by simp [List.prefix_iff_eq_take])
  have later := ordered.1 ([.takeFrame, .completeFrame 10] ++ [.loop 10])
    (by simp [List.prefix_iff_eq_take])
  rw [Attempt.run_snoc] at later
  have between : BetweenFragments
      (Attempt.run twoFragmentStart [.takeFrame, .completeFrame 10]).sender := by
    decide +kernel
  rw [← bytes] at here later
  exact loop_between_rewinds (attemptOf_run coupled busy _) here between 10 later

end EspNowNet
