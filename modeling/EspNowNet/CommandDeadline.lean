import EspNowNet.ResultRouting

/- The end-to-end deadline of a command. Only a slot that waits for its result is compared
   with the clock. -/
namespace EspNowNet
open EspNowNetProtocolComponent

/-- A command is started in the slot, or its deadline is handed to the application. -/
def EndpointEvent.renews (slot : Fin 2) : EndpointEvent → Bool
  | .commandStarted started _ _ => started = slot
  | .externalDeadlineSet handed => handed = slot
  | _ => false

/-- What a step does to one slot. -/
inductive SlotChange (slot : Fin 2) (e e' : EspNowNetProtocolComponent) : Prop
  | kept (same : e'.clients slot = e.clients slot)
  | released (idle : (e'.clients slot).state = .idle)
  | renewed (event : EndpointEvent) (rest : List EndpointEvent)
      (renews : event.renews slot = true) (history : e'.history = event :: rest)
      (grown : e.history <:+ rest)
  | delivered (waiting : (e.clients slot).state = .waitingForDeliveryAck)

theorem SlotChange.of_update {slot changed : Fin 2} {e e' : EspNowNetProtocolComponent}
    {client : CommandClient} (form : e'.clients = Function.update e.clients changed client)
    (here : slot = changed → SlotChange slot e e') : SlotChange slot e e' := by
  by_cases same : slot = changed
  · exact here same
  · exact .kept (by rw [form, Function.update_of_ne same])

theorem slot_change {e e' : EspNowNetProtocolComponent} (coherent : e.Coherent)
    (step : EndpointStep e e') (slot : Fin 2) : SlotChange slot e e' := by
  cases step with
  | bookkeeping kept =>
    obtain ⟨_, _, _, _, _, _, _, rfl⟩ := kept.eq
    exact .kept rfl
  | messageTaken taken consumption =>
    obtain ⟨_, _, _, rfl⟩ := consumption.eq
    exact .kept rfl
  | startRefused | started | enabled | senderReset | radioPolled
    | recoveryRequested | discarded | completionIgnored | completionReleases | completionDelivered
    | heartbeatReceived | frameAccepted | messageReady | senderLooped
    | senderReleased | ackDropped | ackSent | frameRefused | frameSent | heartbeatSent =>
    exact .kept rfl
  | commandStarted nowMs enabled free idle valid encodes run =>
    refine .of_update rfl fun here => ?_
    subst here
    exact .renewed _ _ (by simp [EndpointEvent.renews]) rfl (List.suffix_cons _ _)
  | cancelled changed busy =>
    rw [cancelSlot_eq e changed]
    refine .of_update rfl fun here => .released ?_
    simp [here]
  | disabled enabled =>
    obtain ⟨clients, peer, transactionId, heartbeat, _, _, same, idle⟩ := disableRuntime_eq e
    rw [same]
    exact .released (idle coherent.valid slot)
  | externalDeadline changed busy =>
    refine .of_update rfl fun here => ?_
    subst here
    exact .renewed _ _ (by simp [EndpointEvent.renews]) rfl List.suffix_rfl
  | driver event =>
    obtain ⟨radio, history, _, same⟩ := driverEvent_eq e event
    rw [same]
    exact .kept rfl
  | @ackReceived received radio runtime ack taken run handed =>
    obtain ⟨outcome, _, same⟩ := acceptDeliveryAck_eq
      { e with radio, runtime := { runtime with deliveryAck := none } } received.peerIndex ack
    rw [same]
    exact .kept rfl
  | progressQueued peer progress =>
    obtain ⟨notification, same⟩ := queueCommandResultNotification_eq e peer _
    rw [same]
    exact .kept rfl
  | @finished changed result waiting terminal =>
    obtain ⟨notification, same⟩ := finishCommandClient_eq e result changed
    rw [same]
    refine .of_update rfl fun here => .released ?_
    simp [here]
  | deliveryFailed message nowMs owned ended =>
    unfold failCommandClient
    obtain ⟨notification, same⟩ := finishCommandClient_eq e.releaseSender _ e.commandSenderSlot
    rw [same]
    refine .of_update rfl fun here => .released ?_
    simp [here]
  | delivered owned acknowledged =>
    refine .of_update rfl fun here => ?_
    subst here
    exact .delivered (coherent.owned owned).1

/-- This has happened since `past`. -/
def Renewed (past : List EndpointEvent) (slot : Fin 2) (now : List EndpointEvent) : Prop :=
  ∃ events, now = events ++ past ∧ ∃ event ∈ events, event.renews slot = true

theorem Renewed.later {past now later : List EndpointEvent} {slot : Fin 2}
    (renewed : Renewed past slot now) (grown : now <:+ later) : Renewed past slot later := by
  obtain ⟨events, rfl, event, member, renews⟩ := renewed
  obtain ⟨newer, rfl⟩ := grown
  exact ⟨newer ++ events, by simp, event, List.mem_append_right _ member, renews⟩

theorem Renewed.count {past now : List EndpointEvent} {slot : Fin 2}
    (renewed : Renewed past slot now) :
    past.countP (EndpointEvent.renews slot) < now.countP (EndpointEvent.renews slot) := by
  obtain ⟨events, rfl, event, member, renews⟩ := renewed
  have some := List.countP_pos_iff.mpr ⟨event, member, renews⟩
  rw [List.countP_append]
  omega

theorem renewed_cons {past before : List EndpointEvent} {slot : Fin 2} {event : EndpointEvent}
    (grown : past <:+ before) (renews : event.renews slot = true) :
    Renewed past slot (event :: before) := by
  obtain ⟨events, rfl⟩ := grown
  exact ⟨event :: events, rfl, event, List.mem_cons_self, renews⟩

/-- The command that was in the slot has left it. -/
def Vacated (past : List EndpointEvent) (slot : Fin 2) (e : EspNowNetProtocolComponent) : Prop :=
  past <:+ e.history ∧ ((e.clients slot).state = .idle ∨ Renewed past slot e.history)

/-- It has left the slot, or is there as it was. -/
def Vacating (past : List EndpointEvent) (slot : Fin 2) (client : CommandClient)
    (e : EspNowNetProtocolComponent) : Prop :=
  Vacated past slot e ∨ past <:+ e.history ∧ e.clients slot = client

section Vacating
variable {past : List EndpointEvent} {slot : Fin 2} {e e' : EspNowNetProtocolComponent}

theorem vacated_step (vacated : Vacated past slot e) (coherent : e.Coherent)
    (step : EndpointStep e e') : Vacated past slot e' := by
  obtain ⟨before, left⟩ := vacated
  have grown := step_history step
  refine ⟨before.trans grown, ?_⟩
  rcases left with idle | renewed
  · cases slot_change coherent step slot with
    | kept same => exact Or.inl (same ▸ idle)
    | released idle => exact Or.inl idle
    | renewed event rest renews history grown =>
      exact Or.inr (history ▸ renewed_cons (before.trans grown) renews)
    | delivered waiting => exact absurd (idle.symm.trans waiting) (by decide)
  · exact Or.inr (renewed.later grown)

theorem vacating_step {client : CommandClient} (waits : client.state = .waitingForResult)
    (vacating : Vacating past slot client e) (coherent : e.Coherent) (step : EndpointStep e e') :
    Vacating past slot client e' := by
  have grown := step_history step
  rcases vacating with vacated | ⟨before, same⟩
  · exact Or.inl (vacated_step vacated coherent step)
  · cases slot_change coherent step slot with
    | kept kept => exact Or.inr ⟨before.trans grown, kept.trans same⟩
    | released idle => exact Or.inl ⟨before.trans grown, Or.inl idle⟩
    | renewed event rest renews history older =>
      exact Or.inl ⟨before.trans grown,
        Or.inr (history ▸ renewed_cons (before.trans older) renews)⟩
    | delivered waiting =>
      rw [same, waits] at waiting
      exact absurd waiting (by decide)

theorem vacated_steps (steps : EndpointSteps e e') (coherent : e.Coherent)
    (vacated : Vacated past slot e) : Vacated past slot e' :=
  (GuardedInvariant.preserved
    (fun s : EspNowNetProtocolComponent => s.Coherent ∧ Vacated past slot s)
    (fun both step => ⟨coherent_step both.1 step, vacated_step both.2 both.1 step⟩)
    steps ⟨coherent, vacated⟩).2

theorem vacating_moves {client : CommandClient} (waits : client.state = .waitingForResult)
    (moves : EndpointMoves e e') (coherent : e.Coherent) (vacating : Vacating past slot client e) :
    e'.Coherent ∧ Vacating past slot client e' := by
  refine GuardedInvariant.preserved
    (fun s : EspNowNetProtocolComponent =>
      s.Coherent ∧ Vacating past slot client s) ?_ moves ⟨coherent, vacating⟩
  intro s s' ⟨coherent, vacating⟩ move
  cases move with
  | step step => exact ⟨coherent_step coherent step, vacating_step waits vacating coherent step⟩
  | notification step =>
    cases step with
    | cleared => exact ⟨coherent, vacating⟩
    | taken | delivered =>
      refine ⟨coherent, ?_⟩
      rcases vacating with ⟨before, left⟩ | ⟨before, same⟩
      · refine Or.inl ⟨before.trans (List.suffix_cons _ _), ?_⟩
        exact left.imp_right fun renewed => renewed.later (List.suffix_cons _ _)
      · exact Or.inr ⟨before.trans (List.suffix_cons _ _), same⟩

end Vacating

/- The iteration up to the deadline check and after it -/

theorem phases_moves (env : EndpointEnvironment)
    (phase : EspNowNetProtocolComponent → EspNowNetProtocolComponent)
    (member : phase ∈ phases env) (e : EspNowNetProtocolComponent) : EndpointMoves e (phase e) := by
  rcases List.mem_cons.mp member with rfl | later
  · exact dispatchCommandResultNotification_moves e env
  · exact (laterPhases_steps env phase later e).moves

/-- The phases before one phase lead to a state in which that phase runs. -/
theorem runPhases_split (env : EndpointEnvironment)
    (phase : EspNowNetProtocolComponent → EspNowNetProtocolComponent)
    (before after : List (EspNowNetProtocolComponent → EspNowNetProtocolComponent))
    (each : ∀ phase ∈ before, ∀ e, EndpointMoves e (phase e)) (e : EspNowNetProtocolComponent) :
    ∃ reached, EndpointMoves e reached ∧
      runPhases env e (before ++ phase :: after) = runPhases env (phase reached) after := by
  induction before generalizing e with
  | nil => exact ⟨_, (driverEvents_steps e _).moves, rfl⟩
  | cons first before ih =>
    obtain ⟨reached, moves, same⟩ := ih
      (fun phase member => each phase (List.mem_cons_of_mem _ member))
      (first (e.driverEvents (env.driver (before ++ phase :: after).length)))
    exact ⟨reached, (driverEvents_steps e _).moves.trans
      ((each first List.mem_cons_self _).trans moves), same⟩

theorem checkResultDeadline_idle {e : EspNowNetProtocolComponent} {nowMs : UInt32} {slot : Fin 2}
    (overdue : e.ResultOverdue nowMs slot) :
    ((e.checkResultDeadline nowMs slot).clients slot).state = .idle := by
  unfold checkResultDeadline failCommandClient
  rw [if_pos overdue]
  obtain ⟨notification, same⟩ := finishCommandClient_eq e
    (EspNowNetProtocolComponent.failureResult (e.clients slot) .timedOut
      "functional result timed out" nowMs) slot
  rw [same]
  simp

/-- The check of one slot, which the source compiles for slot 1 in dual builds only. -/
def checkSlot (env : EndpointEnvironment) (slot : Fin 2) (e : EspNowNetProtocolComponent) :
    EspNowNetProtocolComponent :=
  if slot = 0 ∨ e.build.dualCommandClient then e.checkResultDeadline env.nowMs slot else e

theorem phases_split (env : EndpointEnvironment) (slot : Fin 2) :
    ∃ before after, phases env = before ++ checkSlot env slot :: after ∧
      (∀ phase ∈ before, phase ∈ phases env) ∧ ∀ phase ∈ after, phase ∈ (phases env).tail := by
  match slot with
  | 0 =>
    refine ⟨(phases env).take 4, (phases env).drop 5, ?_, fun _ => List.mem_of_mem_take, ?_⟩
    · have form : checkSlot env 0 = (·.checkResultDeadline env.nowMs 0) := by
        funext e
        simp [checkSlot]
      simp [phases, form]
    · exact fun _ member => List.mem_of_mem_drop (i := 4) member
  | 1 =>
    refine ⟨(phases env).take 5, (phases env).drop 6, ?_, fun _ => List.mem_of_mem_take, ?_⟩
    · have form : checkSlot env 1 = fun e =>
          if e.build.dualCommandClient then e.checkResultDeadline env.nowMs 1 else e := by
        funext e
        simp [checkSlot]
      simp [phases, form]
    · exact fun _ member => List.mem_of_mem_drop (i := 5) member

theorem checkSlot_steps (env : EndpointEnvironment) (slot : Fin 2)
    (e : EspNowNetProtocolComponent) : EndpointSteps e (checkSlot env slot e) := by
  unfold checkSlot
  split
  · exact checkResultDeadline_steps e _ slot
  · exact .refl

theorem checkSlot_vacates {past : List EndpointEvent} {slot : Fin 2} {client : CommandClient}
    {e : EspNowNetProtocolComponent} {env : EndpointEnvironment} (coherent : e.Coherent)
    (waits : client.state = .waitingForResult) (inner : client.externalDeadline = false)
    (overdue : env.nowMs - client.startedMs ≥ client.command.timeoutMs)
    (vacating : Vacating past slot client e) : Vacated past slot (checkSlot env slot e) := by
  rcases vacating with vacated | ⟨before, same⟩
  · exact vacated_steps (checkSlot_steps env slot e) coherent vacated
  · refine ⟨before.trans (GuardedInvariant.extends_run step_extends (checkSlot_steps env slot e)),
      Or.inl ?_⟩
    have built : slot = 0 ∨ e.build.dualCommandClient = true := by
      match slot with
      | 0 => exact Or.inl rfl
      | 1 =>
        right
        by_contra one
        have idle := coherent.valid.single (by simpa using one)
        rw [same, waits] at idle
        exact absurd idle (by decide)
    unfold checkSlot
    rw [if_pos built]
    exact checkResultDeadline_idle (by unfold ResultOverdue; rw [same]; exact ⟨waits, inner, overdue⟩)

/-- A command that waits for its result when an iteration begins, and whose time is up, has
    left its slot when the iteration ends. The slot is idle, unless a callback of the
    iteration started a command in it or handed its deadline over. -/
theorem overdue_command_leaves_slot (config : Configuration) (random : UInt64)
    (operations : List EndpointOperation) (env : EndpointEnvironment) (slot : Fin 2)
    (proceeds : ((setup config random).run operations).Proceeds env)
    (waits : (((setup config random).run operations).clients slot).state = .waitingForResult)
    (inner : (((setup config random).run operations).clients slot).externalDeadline = false)
    (overdue : env.nowMs - (((setup config random).run operations).clients slot).startedMs ≥
      (((setup config random).run operations).clients slot).command.timeoutMs) :
    ((((setup config random).run operations).loop env).clients slot).state = .idle ∨
      Renewed ((setup config random).run operations).history slot
        (((setup config random).run operations).loop env).history := by
  have coherent := coherent_run config random operations
  generalize (setup config random).run operations = e at *
  obtain ⟨before, after, split, earlier, later⟩ := phases_split env slot
  have whole : e.loop env = runPhases env (e.polled env) (phases env) := by
    obtain ⟨enabled, failed⟩ := polled_runtimeEnabled e env
    obtain ⟨initialized, sound, on⟩ := proceeds
    unfold loop
    simp [initialized, enabled, failed, sound, on]
  obtain ⟨reached, moves, same⟩ := runPhases_split env (checkSlot env slot) before after
    (fun phase member => phases_moves env phase (earlier phase member)) (e.polled env)
  have starts : Vacating e.history slot (e.clients slot) e := Or.inr ⟨List.suffix_rfl, rfl⟩
  obtain ⟨kept, vacating⟩ := vacating_moves waits ((polled_steps e env).moves.trans moves) coherent
    starts
  have checked := checkSlot_vacates kept waits inner overdue vacating
  have finished := runPhases_steps env after
    (fun phase member => laterPhases_steps env phase (later phase member)) (checkSlot env slot reached)
  have checkedCoherent := GuardedInvariant.preserved _
    (fun coherent step => coherent_step coherent step) (checkSlot_steps env slot reached) kept
  rw [whole, split, same]
  exact (vacated_steps finished checkedCoherent checked).2

theorem overdue_command_leaves_slot_after_delivery :
    ((setup observedConfiguration 1).run commandDelivered).Proceeds { nowMs := 6250 } ∧
      (((setup observedConfiguration 1).run commandDelivered).clients 0).state = .waitingForResult ∧
      (((setup observedConfiguration 1).run commandDelivered).clients 0).externalDeadline = false ∧
      6250 - (((setup observedConfiguration 1).run commandDelivered).clients 0).startedMs ≥
        (((setup observedConfiguration 1).run commandDelivered).clients 0).command.timeoutMs ∧
      (((((setup observedConfiguration 1).run commandDelivered).loop
          { nowMs := 6250 }).clients 0).state = .idle ∨
        Renewed ((setup observedConfiguration 1).run commandDelivered).history 0
          (((setup observedConfiguration 1).run commandDelivered).loop { nowMs := 6250 }).history) :=
  have proceeds : ((setup observedConfiguration 1).run commandDelivered).Proceeds
      { nowMs := 6250 } := by decide +kernel
  have waits : (((setup observedConfiguration 1).run commandDelivered).clients 0).state =
      .waitingForResult := by decide +kernel
  have inner : (((setup observedConfiguration 1).run commandDelivered).clients
      0).externalDeadline = false := by decide +kernel
  have overdue : 6250 - (((setup observedConfiguration 1).run commandDelivered).clients
      0).startedMs ≥ (((setup observedConfiguration 1).run commandDelivered).clients
        0).command.timeoutMs := by decide +kernel
  ⟨proceeds, waits, inner, overdue,
    overdue_command_leaves_slot _ _ _ _ 0 proceeds waits inner overdue⟩

/-- A command that is still being delivered when its time is up keeps its slot. -/
theorem delivery_outlasts_timeout :
    ¬ ∀ (config : Configuration) (random : UInt64) (operations : List EndpointOperation)
      (env : EndpointEnvironment) (slot : Fin 2),
      ((setup config random).run operations).Proceeds env →
      (((setup config random).run operations).clients slot).state ≠ .idle →
      (((setup config random).run operations).clients slot).externalDeadline = false →
      env.nowMs - (((setup config random).run operations).clients slot).startedMs ≥
        (((setup config random).run operations).clients slot).command.timeoutMs →
      ((((setup config random).run operations).loop env).clients slot).state = .idle ∨
        Renewed ((setup config random).run operations).history slot
          (((setup config random).run operations).loop env).history := by
  intro always
  have released := always { peers := samplePeers } 1
    (radioReady ++ [.control (.startCommand 0 sampleCommand 5250), .loop { nowMs := 5251 }])
    { nowMs := 6250 } 0 (by decide +kernel) (by decide +kernel) (by decide +kernel)
    (by decide +kernel)
  rcases released with idle | renewed
  · exact absurd idle (by decide +kernel)
  · exact absurd renewed.count (by decide +kernel)

end EspNowNet
