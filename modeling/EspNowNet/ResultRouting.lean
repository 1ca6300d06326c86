import EspNowNet.Notification

/- Where a RESULT message goes when it is consumed. -/
namespace EspNowNet
open EspNowNetProtocolComponent

namespace EspNowNetProtocolComponent

/-- `process_application_message_` takes this message. -/
def Consumes (e : EspNowNetProtocolComponent) (inbound : EspNowInboundApplicationMessage) : Prop :=
  ¬ e.HoldsApplicationMessage ∧ ¬ e.WithholdsCommand ∧
    e.runtime.takeApplicationMessage.1 = some inbound

instance decidableConsumes (e : EspNowNetProtocolComponent)
    (inbound : EspNowInboundApplicationMessage) : Decidable (e.Consumes inbound) :=
  inferInstanceAs (Decidable (_ ∧ _))

/-- The message belongs to the command in the slot. -/
def Correlates (e : EspNowNetProtocolComponent) (inbound : EspNowInboundApplicationMessage)
    (slot : Fin 2) : Prop :=
  (e.clients slot).state ≠ .idle ∧ inbound.message.envelope.kind = .result ∧
    inbound.peerIndex = (e.clients slot).peer ∧
    inbound.message.envelope.transactionId = (e.clients slot).command.transactionId

instance decidableCorrelates (e : EspNowNetProtocolComponent)
    (inbound : EspNowInboundApplicationMessage) (slot : Fin 2) :
    Decidable (e.Correlates inbound slot) :=
  inferInstanceAs (Decidable (_ ∧ _))

/-- The whole effect of the consumption is the slot's own result path. -/
def ProcessedBySlot (e : EspNowNetProtocolComponent) (env : EndpointEnvironment)
    (inbound : EspNowInboundApplicationMessage) (slot : Fin 2) : Prop :=
  e.processApplicationMessage env =
    ({ e with runtime := e.runtime.takeApplicationMessage.2 }.record
      (.resultRouted (.client slot) inbound)).processCommandClientResult inbound env.nowMs slot

theorem processApplicationMessage_result {e : EspNowNetProtocolComponent}
    {inbound : EspNowInboundApplicationMessage} (env : EndpointEnvironment)
    (consumed : e.Consumes inbound) (result : inbound.message.envelope.kind = .result) :
    e.processApplicationMessage env =
      { e with runtime := e.runtime.takeApplicationMessage.2 }.routeResult env inbound
        e.resultRoute := by
  obtain ⟨held, withheld, taken⟩ := consumed
  have whole : e.runtime.takeApplicationMessage =
      (some inbound, e.runtime.takeApplicationMessage.2) := Prod.ext taken rfl
  have ready := (EspNowProtocolRuntime.takeApplicationMessage_some whole).1
  unfold processApplicationMessage
  rw [if_neg (by simp [ready, held, withheld]), whole]
  simp only [result]

theorem resultRoute_client_iff (e : EspNowNetProtocolComponent) (slot : Fin 2) :
    e.resultRoute = .client slot ↔ e.matchingCommandClient = some slot := by
  refine ⟨resultRoute_client, fun found => ?_⟩
  simp [resultRoute, found]

/-- A consumed RESULT is seen by a slot that waits for its result. -/
theorem matchesClient_iff {e : EspNowNetProtocolComponent}
    {inbound : EspNowInboundApplicationMessage} (consumed : e.Consumes inbound) (slot : Fin 2) :
    e.matchesClient slot = true ↔ (e.clients slot).state = .waitingForResult ∧
      inbound.peerIndex = (e.clients slot).peer ∧
      inbound.message.envelope.transactionId = (e.clients slot).command.transactionId := by
  have whole : e.runtime.takeApplicationMessage =
      (some inbound, e.runtime.takeApplicationMessage.2) := Prod.ext consumed.2.2 rfl
  obtain ⟨_, _, peer, transaction⟩ := EspNowProtocolRuntime.takeApplicationMessage_some whole
  simp [matchesClient, peer, transaction, and_assoc]

theorem matchingCommandClient_iff {e : EspNowNetProtocolComponent}
    {inbound : EspNowInboundApplicationMessage} (consumed : e.Consumes inbound)
    (result : inbound.message.envelope.kind = .result) (slot : Fin 2)
    (built : slot = 1 → e.build.dualCommandClient = true) :
    e.matchingCommandClient = some slot ↔
      e.matchesClient slot = true ∧ (slot = 1 → e.matchesClient 0 = false) := by
  have whole : e.runtime.takeApplicationMessage =
      (some inbound, e.runtime.takeApplicationMessage.2) := Prod.ext consumed.2.2 rfl
  obtain ⟨_, kind, _, _⟩ := EspNowProtocolRuntime.takeApplicationMessage_some whole
  unfold matchingCommandClient
  rw [if_neg (by simp [kind, result])]
  match slot with
  | 0 =>
    cases first : e.matchesClient 0
    · simp
    · simp
  | 1 =>
    have dual := built rfl
    cases first : e.matchesClient 0
    · simp [dual]
    · simp

end EspNowNetProtocolComponent

theorem first_of_suffixes {first second : EndpointEvent} {past now : List EndpointEvent}
    (one : first :: past <:+ now) (other : second :: past <:+ now) : first = second := by
  have same := List.suffix_of_suffix_length_le one other (by simp)
  exact (List.cons.inj (same.eq_of_length (by simp))).1

theorem finishCommandClient_history (e : EspNowNetProtocolComponent) (result : NetResult)
    (slot : Fin 2) : e.history <:+ (e.finishCommandClient result slot).history := by
  obtain ⟨notification, same⟩ := finishCommandClient_eq e result slot
  rw [same]
  exact List.suffix_cons _ _

theorem processCommandClientResult_history (e : EspNowNetProtocolComponent)
    (inbound : EspNowInboundApplicationMessage) (nowMs : UInt32) (slot : Fin 2) :
    e.history <:+ (e.processCommandClientResult inbound nowMs slot).history := by
  unfold processCommandClientResult
  simp only
  split
  · exact finishCommandClient_history e _ slot
  · split
    · obtain ⟨notification, same⟩ := queueCommandResultNotification_eq e (e.clients slot).peer _
      exact same ▸ List.suffix_rfl
    · exact finishCommandClient_history e _ slot

theorem processedBySlot_iff {e : EspNowNetProtocolComponent} {env : EndpointEnvironment}
    {inbound : EspNowInboundApplicationMessage} (consumed : e.Consumes inbound)
    (result : inbound.message.envelope.kind = .result) (slot : Fin 2) :
    e.ProcessedBySlot env inbound slot ↔ e.resultRoute = .client slot := by
  unfold ProcessedBySlot
  rw [processApplicationMessage_result env consumed result]
  constructor
  · intro processed
    have whole : e.runtime.takeApplicationMessage =
        (some inbound, e.runtime.takeApplicationMessage.2) := Prod.ext consumed.2.2 rfl
    have held := resultRoute_routed whole result
    have route := GuardedInvariant.extends_run step_extends
      (routedResult_steps { e with runtime := e.runtime.takeApplicationMessage.2 } env inbound
        e.resultRoute ⟨held.client, held.past⟩)
    rw [processed] at route
    have own : .resultRouted (.client slot) inbound :: e.history <:+
        (({ e with runtime := e.runtime.takeApplicationMessage.2 }.record
          (.resultRouted (.client slot) inbound)).processCommandClientResult inbound env.nowMs
            slot).history := by
      exact processCommandClientResult_history
        ({ e with runtime := e.runtime.takeApplicationMessage.2 }.record
          (.resultRouted (.client slot) inbound)) inbound env.nowMs slot
    have same := first_of_suffixes route own
    simpa using same
  · intro route
    rw [route]
    rfl

/-- In every state that may occur inside an iteration, a consumed RESULT that belongs to the
    command in a slot is processed by that slot exactly when the slot already waits for its
    result, and no slot before it waits for the same one. -/
theorem correlated_result_processed_iff (config : Configuration) (random : UInt64)
    {e : EspNowNetProtocolComponent} (moves : EndpointMoves (setup config random) e)
    (env : EndpointEnvironment) {inbound : EspNowInboundApplicationMessage} {slot : Fin 2}
    (consumed : e.Consumes inbound) (correlates : e.Correlates inbound slot) :
    e.ProcessedBySlot env inbound slot ↔
      (e.clients slot).state = .waitingForResult ∧
        ¬ (slot = 1 ∧ (e.clients 0).state = .waitingForResult ∧
          (e.clients 0).peer = (e.clients slot).peer ∧
          (e.clients 0).command.transactionId = (e.clients slot).command.transactionId) := by
  obtain ⟨busy, result, peer, transaction⟩ := correlates
  have valid := (coherent_moves moves).valid
  have built : slot = 1 → e.build.dualCommandClient = true := by
    rintro rfl
    by_contra one
    exact busy (valid.single (by simpa using one))
  rw [processedBySlot_iff consumed result, resultRoute_client_iff,
    matchingCommandClient_iff consumed result slot built, matchesClient_iff consumed slot]
  have zero := matchesClient_iff consumed 0
  rw [peer, transaction] at zero
  constructor
  · rintro ⟨⟨waiting, _⟩, first⟩
    refine ⟨waiting, ?_⟩
    rintro ⟨second, other⟩
    have taken := zero.mpr ⟨other.1, other.2.1.symm, other.2.2.symm⟩
    simp [first second] at taken
  · rintro ⟨waiting, alone⟩
    refine ⟨⟨waiting, peer, transaction⟩, fun second => ?_⟩
    by_contra taken
    obtain ⟨other, samePeer, sameTransaction⟩ := zero.mp (by simpa using taken)
    exact alone ⟨second, other, samePeer.symm, sameTransaction.symm⟩

/-- The command is in the air, its ACK is lost, and its RESULT comes. -/
def resultBeforeAck : EspNowNetProtocolComponent :=
  ((setup { peers := samplePeers } 1).run (radioReady ++
    [.control (.startCommand 0 sampleCommand 5250), .loop { nowMs := 5251 },
      samplePeerFrame .result EspNowFrameCodec.flagAckRequired 1 progressPayload])).processReceivedFrame
    5252

theorem resultBeforeAck_moves :
    EndpointMoves (setup { peers := samplePeers } 1) resultBeforeAck :=
  (run_moves _ _).trans (processReceivedFrame_steps _ _).moves

def resultAfterAck : EspNowNetProtocolComponent :=
  ((setup observedConfiguration 1).run (commandDelivered ++
    [samplePeerFrame .result EspNowFrameCodec.flagAckRequired 2 progressPayload])).processReceivedFrame
    5252

theorem resultAfterAck_moves : EndpointMoves (setup observedConfiguration 1) resultAfterAck :=
  (run_moves _ _).trans (processReceivedFrame_steps _ _).moves

def sampleResult (sequence : UInt32) : EspNowInboundApplicationMessage :=
  ⟨0, ⟨⟨.result, EspNowFrameCodec.flagAckRequired, 2, 7, sequence⟩,
    (BoundedBytes.assign progressPayload).2⟩⟩

theorem correlated_result_processed_after_ack :
    resultAfterAck.Consumes (sampleResult 2) ∧ resultAfterAck.Correlates (sampleResult 2) 0 ∧
      (resultAfterAck.ProcessedBySlot { nowMs := 5252 } (sampleResult 2) 0 ↔
        (resultAfterAck.clients 0).state = .waitingForResult ∧
          ¬ ((0 : Fin 2) = 1 ∧ (resultAfterAck.clients 0).state = .waitingForResult ∧
            (resultAfterAck.clients 0).peer = (resultAfterAck.clients 0).peer ∧
            (resultAfterAck.clients 0).command.transactionId =
              (resultAfterAck.clients 0).command.transactionId)) :=
  have consumed : resultAfterAck.Consumes (sampleResult 2) := by decide +kernel
  have correlates : resultAfterAck.Correlates (sampleResult 2) 0 := by decide +kernel
  ⟨consumed, correlates,
    correlated_result_processed_iff _ _ resultAfterAck_moves _ consumed correlates⟩

/-- A RESULT that overtakes the delivery ACK lands in the mailbox, and its slot goes on
    waiting for the ACK. -/
theorem result_before_ack_bypasses_slot :
    ¬ ∀ (config : Configuration) (random : UInt64) (e : EspNowNetProtocolComponent),
      EndpointMoves (setup config random) e →
      ∀ (env : EndpointEnvironment) (inbound : EspNowInboundApplicationMessage) (slot : Fin 2),
        e.Consumes inbound → e.Correlates inbound slot → e.ProcessedBySlot env inbound slot := by
  intro always
  have processed := always _ _ _ resultBeforeAck_moves { nowMs := 5252 } (sampleResult 1) 0
    (by decide +kernel) (by decide +kernel)
  have mailbox := congrArg (fun e => e.resultMessage.isSome) processed
  exact absurd mailbox (by decide +kernel)

end EspNowNet
