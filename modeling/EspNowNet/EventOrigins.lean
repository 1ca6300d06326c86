import EspNowNet.ClientTransactions
import EspNowNet.MessageConsumption

/- What one step adds to the history of an endpoint, and why. Where a command or a result comes
   from is read off these cases, event by event. -/
namespace EspNowNet
open EspNowNetProtocolComponent Holdings

/-- The events whose causes are not asked for. -/
def EndpointEvent.Unasked : EndpointEvent → Prop
  | .commandDeclared _ | .commandStarted _ _ _ | .commandAccepted _ _ | .commandVerified _ _
  | .resultRouted _ _ | .commandFinished _ _ _ _ | .resultOffered _ _
  | .resultDelivered _ _ _ => False
  | _ => True

/-- The message was given to the consumer of its kind. -/
inductive GivenTo (inbound : EspNowInboundApplicationMessage) : EndpointEvent → Prop
  | lane (lane : InboundLane) (command : inbound.message.envelope.kind = .command) :
      GivenTo inbound (.commandAccepted lane inbound)
  | route (route : ResultRoute) (result : inbound.message.envelope.kind = .result) :
      GivenTo inbound (.resultRouted route inbound)

/-- A RESULT of the peer says how a command goes on that a slot waits for. -/
structure EspNowNetProtocolComponent.Relays (e : EspNowNetProtocolComponent) (peer : PeerIndex)
    (result : NetResult) : Prop where
  progress : result.status = .inProgress
  waiting : ∃ slot, (e.clients slot).state = .waitingForResult ∧ (e.clients slot).peer = peer ∧
    (e.clients slot).command.transactionId = result.transactionId
  origin : ResultOrigin e.history peer result

/-- The sources of the peers and the id counter stay, and nothing but progress is queued. -/
structure KeepsOrigins (e e' : EspNowNetProtocolComponent) : Prop where
  identities : e'.peerApplicationIdentity = e.peerApplicationIdentity
  declarative : e'.nextDeclarativeTransactionId = e.nextDeclarativeTransactionId
  notification : e'.notification.ready = true → e'.notification = e.notification ∨
    ∃ peer result, e'.notification = ⟨result, peer, true⟩ ∧ e.Relays peer result

/-- The delivery of a command of this transaction has failed. -/
def EspNowNetProtocolComponent.GivesUp (e : EspNowNetProtocolComponent)
    (transactionId : TransactionId) : Prop :=
  e.reliableMessageOwner = .commandClient ∧
    (e.sender.state = .rejected ∨ e.sender.state = .timedOut) ∧
    (e.clients e.commandSenderSlot).command.transactionId = transactionId

/-- Why a slot ends with this result. A failure of the client's own denies the start of the
    command only if its delivery has failed. -/
inductive EspNowNetProtocolComponent.Ends (e : EspNowNetProtocolComponent) (slot : Fin 2)
    (result : NetResult) : Prop
  | failed (own : result.transportFailure = true)
      (denies : result.execution.started = false → e.GivesUp result.transactionId)
  | answered (relayed : result.transportFailure = false) (busy : (e.clients slot).state ≠ .idle)
      (transaction : result.transactionId = (e.clients slot).command.transactionId)
      (origin : ResultOrigin e.history (e.clients slot).peer result)

/-- What a step adds to the history. -/
inductive OriginStep (e e' : EspNowNetProtocolComponent) : Prop
  | aside (kept : KeepsOrigins e e') {events : List EndpointEvent}
      (history : e'.history = events ++ e.history) (unasked : ∀ event ∈ events, event.Unasked)
  | declared (identities : e'.peerApplicationIdentity = e.peerApplicationIdentity)
      (notification : e'.notification = e.notification)
      (next : e'.nextDeclarativeTransactionId = nextDeclarativeId e.nextDeclarativeTransactionId)
      (history : e'.history =
        .commandDeclared (0xE000000000000000 ||| e.nextDeclarativeTransactionId) :: e.history)
  | started (kept : KeepsOrigins e e') {slot : Fin 2} {peer : PeerIndex}
      {envelope : EspNowFrameEnvelope} {data : List UInt8} (command : envelope.kind = .command)
      {transactionId : TransactionId} (transaction : envelope.transactionId = transactionId)
      (history : e'.history = .commandStarted slot peer transactionId ::
        .messageStarted peer envelope data :: e.history)
  | given (kept : KeepsOrigins e e') {inbound : EspNowInboundApplicationMessage}
      {event : EndpointEvent} (peeked : e.runtime.peekApplicationMessage = some inbound)
      (given : GivenTo inbound event) (history : e'.history = event :: e.history)
  | verified (kept : KeepsOrigins e e') {lane : InboundLane}
      {inbound : EspNowInboundApplicationMessage} {command : NetCommand}
      (accepted : .commandAccepted lane inbound ∈ e.history)
      (decodes : InboundCommandDispatcher.decodeCommand inbound = .ok command)
      (verifies : e.Verifies inbound.peerIndex command)
      (history : e'.history = .commandVerified inbound.peerIndex command :: e.history)
  | finished {slot : Fin 2} {result : NetResult} {pending : Bool}
      (identities : e'.peerApplicationIdentity = e.peerApplicationIdentity)
      (declarative : e'.nextDeclarativeTransactionId = e.nextDeclarativeTransactionId)
      (notification : e'.notification.ready = true → e'.notification = e.notification ∨
        e'.notification = ⟨result, (e.clients slot).peer, true⟩)
      (own : e.Ends slot result)
      (history : e'.history =
        .commandFinished slot (e.clients slot).peer result pending :: e.history)
  | offered (kept : KeepsOrigins e e') (ready : e.notification.ready = true)
      (history : e'.history =
        .resultOffered e.notification.peer e.notification.result :: e.history)
  | delivered (kept : KeepsOrigins e e') {observer : Nat} {peer : PeerIndex} {result : NetResult}
      (offered : .resultOffered peer result ∈ e.history)
      (history : e'.history = .resultDelivered observer peer result :: e.history)

variable {e e' : EspNowNetProtocolComponent}

theorem KeepsOrigins.same (identities : e'.peerApplicationIdentity = e.peerApplicationIdentity)
    (declarative : e'.nextDeclarativeTransactionId = e.nextDeclarativeTransactionId)
    (notification : e'.notification = e.notification) : KeepsOrigins e e' :=
  ⟨identities, declarative, fun _ => Or.inl notification⟩

theorem OriginStep.silent (kept : KeepsOrigins e e') (history : e'.history = e.history) :
    OriginStep e e' :=
  .aside kept (history.trans (List.nil_append _).symm) (fun _ member => nomatch member)

theorem OriginStep.noted (kept : KeepsOrigins e e') {event : EndpointEvent}
    (history : e'.history = event :: e.history) (unasked : event.Unasked) : OriginStep e e' :=
  .aside kept (history.trans List.singleton_append.symm) (by simpa using unasked)

theorem OriginStep.notedTwice (kept : KeepsOrigins e e') {later earlier : EndpointEvent}
    (history : e'.history = later :: earlier :: e.history) (laterUnasked : later.Unasked)
    (earlierUnasked : earlier.Unasked) : OriginStep e e' := by
  have both : e'.history = [later, earlier] ++ e.history := history
  exact .aside kept both (by simp [laterUnasked, earlierUnasked])

/-- A command ends in a state that only differs in what no cause depends on. -/
theorem OriginStep.finish {base : EspNowNetProtocolComponent} (kept : KeepsOrigins e base)
    (notification : base.notification = e.notification) (clients : base.clients = e.clients)
    (history : base.history = e.history) {result : NetResult} {slot : Fin 2}
    (own : e.Ends slot result) : OriginStep e (base.finishCommandClient result slot) := by
  have queued : (base.finishCommandClient result slot).notification = base.notification ∨
      (base.finishCommandClient result slot).notification =
        ⟨result, (base.clients slot).peer, true⟩ := by
    unfold finishCommandClient queueCommandResultNotification
    simp only
    split
    · exact Or.inl rfl
    · exact Or.inr rfl
  obtain ⟨_, same⟩ := finishCommandClient_eq base result slot
  have noted : (base.finishCommandClient result slot).history =
      .commandFinished slot (e.clients slot).peer result base.notification.ready :: e.history := by
    rw [same, clients, history]
  rw [notification, clients] at queued
  refine .finished ?_ ?_ (fun _ => queued) own noted
  · rw [same]
    exact kept.identities
  · rw [same]
    exact kept.declarative

theorem progress_origins {peer : PeerIndex} {result : NetResult} (relays : e.Relays peer result) :
    KeepsOrigins e (e.queueCommandResultNotification peer result) := by
  unfold queueCommandResultNotification
  split
  · exact .same rfl rfl rfl
  · exact ⟨rfl, rfl, fun _ => Or.inr ⟨peer, result, rfl, relays⟩⟩

theorem disableRuntime_origins (e : EspNowNetProtocolComponent) :
    KeepsOrigins e e.disableRuntime := by
  obtain ⟨_, _, _, _, _, _, same, _⟩ := disableRuntime_eq e
  rw [same]
  exact ⟨rfl, rfl, fun ready => by cases ready⟩

theorem step_origin (step : EndpointStep e e') : OriginStep e e' := by
  have kept {next : EspNowNetProtocolComponent}
      (identities : next.peerApplicationIdentity = e.peerApplicationIdentity)
      (declarative : next.nextDeclarativeTransactionId = e.nextDeclarativeTransactionId)
      (notification : next.notification = e.notification) : KeepsOrigins e next :=
    .same identities declarative notification
  cases step with
  | bookkeeping bookkeeping =>
    cases bookkeeping with
    | heartbeat | completionTaken | mailboxTaken | mailboxFilled =>
      exact .silent (kept rfl rfl rfl) rfl
    | laneLooped lane answers nowMs =>
      obtain ⟨events, noted, same⟩ := loopLane_eq e lane answers nowMs
      rw [same]
      refine .aside (kept rfl rfl rfl) rfl fun event member => ?_
      obtain ⟨handedOn, rfl⟩ := noted event member
      trivial
    | declarativeId => exact .declared rfl rfl rfl rfl
    | commandAnswered | resultTaken | unsolicitedDelivered =>
      exact .noted (kept rfl rfl rfl) rfl trivial
    | commandVerified accepted decodes verifies =>
      exact .verified (kept rfl rfl rfl) accepted decodes verifies rfl
  | @messageTaken _ inbound runtime taken consumption =>
    have peeked := (e.runtime.takeApplicationMessage_peek).1
    rw [taken] at peeked
    cases consumption with
    | @commandAccepted lane answers nowMs accepts =>
      exact .given (kept rfl rfl rfl) peeked.symm (.lane lane accepts.2.2.1) rfl
    | @resultRouted route result routed =>
      exact .given (kept rfl rfl rfl) peeked.symm (.route route result) rfl
    | dropped => exact .silent (kept rfl rfl rfl) rfl
  | startRefused | enabled | radioPolled | recoveryRequested | completionIgnored
    | heartbeatReceived | frameAccepted | senderLooped | senderReleased
    | ackDropped | frameRefused | delivered => exact .silent (kept rfl rfl rfl) rfl
  | started | senderReset | discarded | completionReleases | messageReady | ackSent | frameSent
    | heartbeatSent | externalDeadline => exact .noted (kept rfl rfl rfl) rfl trivial
  | completionDelivered => exact .notedTwice (kept rfl rfl rfl) rfl trivial trivial
  | @commandStarted sender peer command encoded nowMs enabled free idle valid encodes run =>
    have named : sender.envelope.kind = .command ∧
        sender.envelope.transactionId = command.transactionId := by
      obtain ⟨stored, _, _, _, _, _, _, _, rfl⟩ := ReliableMessageSender.start_true run
      exact ⟨rfl, rfl⟩
    exact .started (kept rfl rfl rfl) named.1 named.2 rfl
  | cancelled slot busy =>
    rw [cancelSlot_eq e slot]
    exact .noted (kept rfl rfl rfl) rfl trivial
  | disabled enabled =>
    obtain ⟨events, history, unasked⟩ := disableRuntime_events e EndpointEvent.Unasked trivial
      (fun _ _ _ _ => trivial) (fun _ => trivial) trivial
    exact .aside (disableRuntime_origins e) history unasked
  | driver event => cases event <;> exact .noted (kept rfl rfl rfl) rfl trivial
  | @ackReceived received radio runtime ack taken run handed =>
    obtain ⟨outcome, settled, same⟩ := acceptDeliveryAck_eq
      { e with radio, runtime := { runtime with deliveryAck := none } } received.peerIndex ack
    rw [same]
    rcases settled with rfl | rfl | rfl
    · exact .noted (kept rfl rfl rfl) rfl trivial
    · exact .notedTwice (kept rfl rfl rfl) rfl trivial trivial
    · exact .notedTwice (kept rfl rfl rfl) rfl trivial trivial
  | @progressQueued peer result progress slot waiting own transaction origin =>
    have relays : e.Relays peer result :=
      ⟨progress, ⟨slot, waiting, own.symm, transaction.symm⟩, origin⟩
    refine .silent (progress_origins relays) ?_
    obtain ⟨notification, same⟩ := queueCommandResultNotification_eq e peer _
    rw [same]
  | @finished slot result waiting terminal transaction origin own =>
    have ends : e.Ends slot result := by
      cases relayed : result.transportFailure with
      | true => exact .failed relayed fun denies => by simp [own relayed] at denies
      | false => exact .answered relayed (by simp [waiting]) transaction origin
    exact .finish (kept rfl rfl rfl) rfl rfl rfl ends
  | deliveryFailed message nowMs owned ended =>
    have released : KeepsOrigins e e.releaseSender := kept rfl rfl rfl
    have failed := ended.imp And.left And.left
    exact .finish released rfl rfl rfl (.failed rfl fun _ => ⟨owned, failed, rfl⟩)

/-- Every end of a command has a reason in the state before it. -/
theorem OriginStep.ends (step : OriginStep e e') {slot : Fin 2} {peer : PeerIndex}
    {result : NetResult} {pending : Bool}
    (member : .commandFinished slot peer result pending ∈ e'.history) :
    .commandFinished slot peer result pending ∈ e.history ∨ e.Ends slot result := by
  cases step with
  | aside kept history unasked =>
    rw [history] at member
    exact Or.inl ((List.mem_append.mp member).resolve_left fun new => unasked _ new)
  | declared same notification next history | started kept command transaction history
    | verified kept accepted decodes verifies history | offered kept ready history
    | delivered kept offered history =>
    exact Or.inl (by simpa [history] using member)
  | given kept peeked given history =>
    cases given <;> exact Or.inl (by simpa [history] using member)
  | finished same declarative notification own history =>
    rw [history] at member
    rcases List.mem_cons.mp member with new | old
    · cases new
      exact Or.inr own
    · exact Or.inl old

theorem Offered.offer_mem {offer : EndpointEvent} {given : Nat → EndpointEvent}
    {observers : List Nat} {history : List EndpointEvent}
    (offered : Offered offer given observers history) : offer ∈ history := by
  induction offered with
  | first older => exact List.mem_cons_self
  | next observer before called hyp =>
    exact List.mem_append_right _ (List.mem_cons_of_mem _ hyp)

theorem move_origin (move : EndpointMove e e') : OriginStep e e' := by
  cases move with
  | step step => exact step_origin step
  | notification step =>
    cases step with
    | taken ready => exact .offered ⟨rfl, rfl, fun still => by cases still⟩ ready rfl
    | delivered turn =>
      obtain ⟨done, rest, offered, _⟩ := turn
      exact .delivered (.same rfl rfl rfl) offered.offer_mem rfl
    | cleared idle =>
      exact .silent ⟨rfl, rfl, fun ready => absurd (idle.symm.trans ready) Bool.false_ne_true⟩ rfl

/- Every event is explained -/

/-- What must have happened before an event of a kind that has a cause. -/
def Explained (identities : PeerApplicationIdentity) (history : List EndpointEvent) :
    EndpointEvent → Prop
  | .commandAccepted _ inbound =>
    .messageReady inbound ∈ history ∧ inbound.message.envelope.kind = .command
  | .resultRouted _ inbound =>
    .messageReady inbound ∈ history ∧ inbound.message.envelope.kind = .result
  | .commandVerified peer command =>
    ∃ lane inbound, .commandAccepted lane inbound ∈ history ∧ inbound.peerIndex = peer ∧
      InboundCommandDispatcher.decodeCommand inbound = .ok command ∧
      identities.check peer command.sourceDeviceId command.sourceBootId = .matched
  | .commandStarted _ peer transactionId =>
    ∃ envelope data, .messageStarted peer envelope data ∈ history ∧ envelope.kind = .command ∧
      envelope.transactionId = transactionId
  | .commandFinished _ peer result _ =>
    result.transportFailure = true ∨ ResultOrigin history peer result ∧
      ∃ slot other, .commandStarted slot other result.transactionId ∈ history
  | .resultOffered peer result => result.Terminal →
    ∃ slot pending, .commandFinished slot peer result pending ∈ history
  | .resultDelivered _ peer result => .resultOffered peer result ∈ history
  | _ => True

section Explained
variable {identities : PeerApplicationIdentity} {history grown : List EndpointEvent}

theorem ResultOrigin.grow {peer : PeerIndex} {result : NetResult}
    (origin : ResultOrigin history peer result) (grows : history ⊆ grown) :
    ResultOrigin grown peer result := by
  rcases origin with failed | ⟨slot, inbound, latencyMs, routed, rest⟩
  · exact Or.inl failed
  · exact Or.inr ⟨slot, inbound, latencyMs, grows routed, rest⟩

theorem Explained.grow {event : EndpointEvent} (explained : Explained identities history event)
    (grows : history ⊆ grown) : Explained identities grown event := by
  cases event with
  | commandAccepted | resultRouted => exact explained.imp_left fun ready => grows ready
  | commandVerified =>
    obtain ⟨lane, inbound, accepted, rest⟩ := explained
    exact ⟨lane, inbound, grows accepted, rest⟩
  | commandStarted =>
    obtain ⟨envelope, data, started, rest⟩ := explained
    exact ⟨envelope, data, grows started, rest⟩
  | commandFinished =>
    rcases explained with failed | ⟨origin, slot, other, started⟩
    · exact Or.inl failed
    · exact Or.inr ⟨origin.grow grows, slot, other, grows started⟩
  | resultOffered =>
    intro terminal
    obtain ⟨slot, pending, finished⟩ := explained terminal
    exact ⟨slot, pending, grows finished⟩
  | resultDelivered => exact grows explained
  | _ => trivial

theorem EndpointEvent.Unasked.explained {event : EndpointEvent} (unasked : event.Unasked) :
    Explained identities history event := by
  cases event <;> trivial

end Explained

/-- Every event of the history is explained by the others, and so is a waiting notification. -/
structure Accounted (identities : PeerApplicationIdentity) (e : EspNowNetProtocolComponent) :
    Prop where
  configured : e.peerApplicationIdentity = identities
  explained : ∀ event ∈ e.history, Explained identities e.history event
  waiting : e.notification.ready = true → e.notification.result.Terminal →
    ∃ slot pending,
      .commandFinished slot e.notification.peer e.notification.result pending ∈ e.history

section Accounted
variable {identities : PeerApplicationIdentity}

/-- The new events are explained in the new history; the old ones stay explained. -/
theorem Accounted.extend (accounted : Accounted identities e) {events : List EndpointEvent}
    (configured : e'.peerApplicationIdentity = e.peerApplicationIdentity)
    (history : e'.history = events ++ e.history)
    (explained : ∀ event ∈ events, Explained identities e'.history event)
    (waiting : e'.notification.ready = true → e'.notification.result.Terminal →
      e'.notification = e.notification ∨ ∃ slot pending,
        .commandFinished slot e'.notification.peer e'.notification.result pending ∈ e'.history) :
    Accounted identities e' := by
  have grows : e.history ⊆ e'.history := history ▸ List.subset_append_right _ _
  constructor
  · exact configured.trans accounted.configured
  · intro event member
    have split := member
    rw [history] at split
    rcases List.mem_append.mp split with new | old
    · exact explained event new
    · exact (accounted.explained event old).grow grows
  · intro ready terminal
    rcases waiting ready terminal with same | found
    · rw [same] at ready terminal ⊢
      obtain ⟨slot, pending, finished⟩ := accounted.waiting ready terminal
      exact ⟨slot, pending, grows finished⟩
    · exact found

/-- The same for one event and a step that queues nothing but progress. -/
theorem Accounted.noted (accounted : Accounted identities e) (kept : KeepsOrigins e e')
    {events : List EndpointEvent} (history : e'.history = events ++ e.history)
    (explained : ∀ event ∈ events, Explained identities e'.history event) :
    Accounted identities e' := by
  apply accounted.extend kept.identities history explained
  intro ready terminal
  rcases kept.notification ready with same | ⟨peer, result, same, relays⟩
  · exact Or.inl same
  · rw [same] at terminal
    exact absurd relays.progress terminal

theorem Accounted.notedOne (accounted : Accounted identities e) (kept : KeepsOrigins e e')
    {event : EndpointEvent} (history : e'.history = event :: e.history)
    (explained : Explained identities e'.history event) : Accounted identities e' := by
  apply accounted.noted kept (history.trans List.singleton_append.symm)
  intro other member
  exact List.mem_singleton.mp member ▸ explained

theorem Accounted.step (accounted : Accounted identities e) (reported : Reported e)
    (read : e.SlotsRead) (step : OriginStep e e') : Accounted identities e' := by
  cases step with
  | aside kept history unasked =>
    exact accounted.noted kept history fun event member => (unasked event member).explained
  | declared same notification next history =>
    apply accounted.extend same (history.trans List.singleton_append.symm)
    · intro event member
      exact List.mem_singleton.mp member ▸ trivial
    · exact fun _ _ => Or.inl notification
  | @started kept slot peer envelope data command transactionId transaction history =>
    have both : e'.history = [.commandStarted slot peer transactionId,
        .messageStarted peer envelope data] ++ e.history := history
    apply accounted.noted kept both
    simp only [List.forall_mem_cons, Explained]
    exact ⟨⟨envelope, data, by simp [history], command, transaction⟩, trivial, by simp⟩
  | given kept peeked given history =>
    apply accounted.notedOne kept history
    obtain ⟨ready, _⟩ := reported.mailbox _ peeked
    have grown : _ ∈ e'.history := history ▸ List.mem_cons_of_mem _ ready
    cases given with
    | lane lane command => exact ⟨grown, command⟩
    | route route result => exact ⟨grown, result⟩
  | @verified kept lane inbound command accepted decodes verifies history =>
    apply accounted.notedOne kept history
    have grown : _ ∈ e'.history := history ▸ List.mem_cons_of_mem _ accepted
    refine ⟨lane, inbound, grown, rfl, decodes, ?_⟩
    rw [← accounted.configured]
    exact verifies.2.2.2
  | @finished slot result pending same _ notification own history =>
    have grows : e.history ⊆ e'.history := history ▸ List.subset_cons_self _ _
    apply accounted.extend same (history.trans List.singleton_append.symm)
    · intro event member
      obtain rfl := List.mem_singleton.mp member
      cases own with
      | failed failed => exact Or.inl failed
      | answered relayed busy transaction origin =>
        refine Or.inr ⟨origin.grow grows, ?_⟩
        have open' : held clientReading slot e.history = some result.transactionId := by
          rw [read slot, CommandClient.openTransaction, if_neg busy, transaction]
        obtain ⟨given, member, reads⟩ := held_given open'
        cases given with
        | commandStarted at' other transactionId =>
          obtain ⟨_, rfl⟩ : at' = slot ∧ transactionId = result.transactionId := by
            simpa [clientReading] using reads
          exact ⟨at', other, grows member⟩
        | _ => simp [clientReading] at reads
    · intro ready _
      rcases notification ready with old | new
      · exact Or.inl old
      · right
        rw [new, history]
        exact ⟨slot, pending, List.mem_cons_self⟩
  | offered kept ready history =>
    apply accounted.notedOne kept history
    intro terminal
    obtain ⟨slot, pending, finished⟩ := accounted.waiting ready terminal
    exact ⟨slot, pending, history ▸ List.mem_cons_of_mem _ finished⟩
  | delivered kept offered history =>
    apply accounted.notedOne kept history
    exact history ▸ List.mem_cons_of_mem _ offered

theorem accounted_moves {config : Configuration} {random : UInt64}
    (moves : EndpointMoves (setup config random) e) :
    Accounted config.peerApplicationIdentity e := by
  induction moves with
  | refl => exact ⟨rfl, by simp [setup], by simp [setup]⟩
  | tail earlier last hyp =>
    exact hyp.step (reported_moves earlier) (slotsRead_moves earlier) (move_origin last)

end Accounted

end EspNowNet
