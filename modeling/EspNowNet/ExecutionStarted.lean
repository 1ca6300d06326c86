import EspNowNet.ClientReboot

/- What `execution.started` tells the client's application. A result that denies it lets the
   application use another transport, so the remote handler must not have started the
   command. -/
namespace EspNowNet
open EspNowNetProtocolComponent GuardedInvariant Holdings Relation

/- The remote node -/

/-- The commands the lanes were given, each by its peer and its transaction. -/
def EndpointEvent.acceptedKey : EndpointEvent → Option (PeerIndex × TransactionId)
  | .commandAccepted _ inbound =>
    some (inbound.peerIndex, inbound.message.envelope.transactionId)
  | _ => none

def acceptedKeys (history : List EndpointEvent) : List (PeerIndex × TransactionId) :=
  history.filterMap EndpointEvent.acceptedKey

def EndpointEvent.staged : EndpointEvent → Option (Option NetResult)
  | .resultStaged _ handedOn => some handedOn
  | _ => none

/-- What the handler reports about a command it has started says so. -/
def EndpointEvent.HandlerOwnsUp (event : EndpointEvent) : Prop :=
  ∀ handedOn ∈ event.staged, ∀ result ∈ handedOn, result.execution.started = true

def EndpointEvent.FromHandler (event : EndpointEvent) : Prop :=
  ∀ handedOn ∈ event.staged, handedOn ≠ none

instance decidableHandlerOwnsUp (event : EndpointEvent) : Decidable event.HandlerOwnsUp :=
  @Option.decidableForallMem _ _ (fun _ => Option.decidableForallMem _) _

instance decidableFromHandler (event : EndpointEvent) : Decidable event.FromHandler :=
  Option.decidableForallMem _

/-- No command is accepted twice, and what is said about a started command is what its handler
    says. -/
structure Candid (history : List EndpointEvent) : Prop where
  once : (acceptedKeys history).Nodup
  handler : ∀ event ∈ history, event.HandlerOwnsUp
  relayed : ∀ event ∈ history, event.FromHandler

def PendingNetResult.OwnsUp (pending : PendingNetResult) : Prop :=
  ∃ sent, EspNowResultCodec.encode sent = .ok pending.payload ∧ sent.execution.started = true

/-- The handler has started a command of this peer and transaction. -/
def StartedCommand (history : List EndpointEvent) (peer : PeerIndex)
    (transactionId : TransactionId) : Prop :=
  .commandAnswered peer transactionId .started ∈ history

/-- Whatever is said about a started command says that it was started. -/
structure Admits (e : EspNowNetProtocolComponent) : Prop where
  accepted : ∀ peer transactionId, StartedCommand e.history peer transactionId →
    (peer, transactionId) ∈ acceptedKeys e.history
  staged : ∀ peer transactionId, StartedCommand e.history peer transactionId →
    ∀ lane, (e.lanes lane).state = .resultReady → (e.lanes lane).peerIndex = peer →
      (e.lanes lane).transactionId = transactionId → (e.lanes lane).pending.OwnsUp
  taken : ∀ peer transactionId, StartedCommand e.history peer transactionId →
    ∀ lane pending, .resultTaken lane pending ∈ e.history → pending.peerIndex = peer →
      pending.transactionId = transactionId → pending.OwnsUp

section Remote
variable {e e' : EspNowNetProtocolComponent} {older newer history : List EndpointEvent}

theorem Candid.of_suffix (candid : Candid newer) (extended : older <:+ newer) : Candid older := by
  constructor
  · obtain ⟨events, rfl⟩ := extended
    have once := candid.once
    rw [acceptedKeys, List.filterMap_append] at once
    exact (List.nodup_append.mp once).2.1
  · exact fun event member => candid.handler event (extended.subset member)
  · exact fun event member => candid.relayed event (extended.subset member)

theorem acceptedKey_mem {lane : InboundLane} {inbound : EspNowInboundApplicationMessage}
    (accepted : .commandAccepted lane inbound ∈ history) :
    (inbound.peerIndex, inbound.message.envelope.transactionId) ∈ acceptedKeys history :=
  List.mem_filterMap.mpr ⟨_, accepted, rfl⟩

theorem taken_accepted (answer : LanesAnswer e) {lane : InboundLane} {pending : PendingNetResult}
    {past : List EndpointEvent} (present : .resultTaken lane pending :: past <:+ e.history) :
    (pending.peerIndex, pending.transactionId) ∈ acceptedKeys past := by
  obtain ⟨inbound, holds, peer, transaction⟩ := answer.taken _ past present
  rw [← peer, ← transaction]
  exact acceptedKey_mem (accepted_of_held holds)

/-- What an active lane hands on of its handler's answer is what it stages. -/
theorem loop_ownsUp {d : InboundCommandDispatcher} (sound : d.Sound)
    {answers : NetCommandHandlerAnswers} {nowMs : UInt32} (active : d.state = .active)
    (ready : (d.loop answers nowMs).state = .resultReady) {result : NetResult}
    (handed : d.handedOn answers nowMs = some result) (started : result.execution.started = true) :
    (d.loop answers nowMs).pending.OwnsUp := by
  have busy : d.state ≠ .idle := by simp [active]
  unfold InboundCommandDispatcher.handedOn at handed
  split at handed
  · cases handed
  · rename_i timely
    obtain ⟨answered, same, encodes⟩ : answers.takeResult = some result ∧
        result.transactionId = d.transactionId ∧
          (EspNowResultCodec.encode result).isOk = true := by
      simpa [Option.filter_eq_some_iff] using handed
    have relayable : d.Relayable answers.takeResult := by
      cases encoded : EspNowResultCodec.encode result with
      | error _ => simp [encoded, Except.isOk, Except.toBool] at encodes
      | ok payload => exact ⟨result, payload, answered, same, encoded⟩
    rcases InboundCommandDispatcher.loop_cases (sound.identified busy) answers nowMs active with
      ⟨_, _, kept⟩ | ⟨_, _, other, payload, taken, _, encoded, next⟩ | ⟨failed, _⟩
    · rw [kept, active] at ready
      cases ready
    · obtain rfl : other = result := Option.some.inj (taken.symm.trans answered)
      rw [next]
      exact ⟨other, encoded, started⟩
    · rcases failed with overdue | ⟨_, unfit⟩
      · exact absurd overdue timely
      · exact absurd relayable unfit

def EndpointEvent.Neutral : EndpointEvent → Prop
  | .commandAnswered _ _ .started | .resultTaken _ _ => False
  | _ => True

theorem startedCommand_neutral {events : List EndpointEvent}
    (neutral : ∀ event ∈ events, event.Neutral) {peer : PeerIndex} {transactionId : TransactionId}
    (started : StartedCommand (events ++ history) peer transactionId) :
    StartedCommand history peer transactionId :=
  (List.mem_append.mp started).resolve_left fun new => neutral _ new

theorem acceptedKeys_grow {events : List EndpointEvent} {key : PeerIndex × TransactionId}
    (member : key ∈ acceptedKeys history) : key ∈ acceptedKeys (events ++ history) := by
  rw [acceptedKeys, List.filterMap_append]
  exact List.mem_append_right _ member

/-- One lane changes; if it then holds a result for a started command, the result owns up. -/
theorem Admits.changed (admits : Admits e) {lane : InboundLane}
    {dispatcher : InboundCommandDispatcher}
    (lanes : e'.lanes = Function.update e.lanes lane dispatcher) {events : List EndpointEvent}
    (history : e'.history = events ++ e.history) (neutral : ∀ event ∈ events, event.Neutral)
    (own : dispatcher.state = .resultReady →
      StartedCommand e.history dispatcher.peerIndex dispatcher.transactionId →
        dispatcher.pending.OwnsUp) : Admits e' := by
  have before {peer : PeerIndex} {transactionId : TransactionId}
      (started : StartedCommand e'.history peer transactionId) :
      StartedCommand e.history peer transactionId :=
    startedCommand_neutral neutral (history ▸ started)
  constructor
  · intro peer transactionId started
    rw [history]
    exact acceptedKeys_grow (admits.accepted peer transactionId (before started))
  · intro peer transactionId started other ready samePeer sameTransaction
    rw [lanes] at ready samePeer sameTransaction ⊢
    by_cases here : other = lane
    · subst here
      rw [Function.update_self] at ready samePeer sameTransaction ⊢
      subst samePeer sameTransaction
      exact own ready (before started)
    · rw [Function.update_of_ne here] at ready samePeer sameTransaction ⊢
      exact admits.staged peer transactionId (before started) other ready samePeer sameTransaction
  · intro peer transactionId started other pending member
    rw [history] at member
    have old := (List.mem_append.mp member).resolve_left fun new => neutral _ new
    exact admits.taken peer transactionId (before started) other pending old

/-- When a command is started it is new: nothing has been said about it yet. -/
theorem Admits.start (admits : Admits e) (answer : LanesAnswer e) {lane : InboundLane}
    {inbound : EspNowInboundApplicationMessage} (once : (acceptedKeys e.history).Nodup)
    (accepted : JustAccepted lane inbound e.history) (active : (e.lanes lane).state = .active)
    (lanes : e'.lanes = e.lanes)
    (history : e'.history = .commandAnswered inbound.peerIndex
      inbound.message.envelope.transactionId .started :: e.history) : Admits e' := by
  obtain ⟨verified, older, split, reports⟩ := accepted
  let key := (inbound.peerIndex, inbound.message.envelope.transactionId)
  have fresh : key ∉ acceptedKeys older := by
    have keys : acceptedKeys e.history = acceptedKeys verified ++ key :: acceptedKeys older := by
      rw [split, acceptedKeys, List.filterMap_append]
      rfl
    rw [keys] at once
    exact (List.nodup_cons.mp (List.nodup_append.mp once).2.1).1
  have unaccepted : ∀ event ∈ verified, event.acceptedKey = none ∧ event.Neutral := by
    intro event member
    obtain ⟨command, rfl⟩ := reports event member
    exact ⟨rfl, trivial⟩
  -- an event of another lane, or a taken result, is older than the command's acceptance
  have only (other : InboundLane) (message : EspNowInboundApplicationMessage)
      (given : .commandAccepted other message ∈ e.history)
      (same : (message.peerIndex, message.message.envelope.transactionId) = key) :
      other = lane := by
    rw [split] at given
    rcases List.mem_append.mp given with new | rest
    · exact absurd (unaccepted _ new).1 (by simp [EndpointEvent.acceptedKey])
    · rcases List.mem_cons.mp rest with head | old
      · exact (EndpointEvent.commandAccepted.inj head).1
      · exact absurd (same ▸ acceptedKey_mem old) fresh
  have untaken (other : InboundLane) (pending : PendingNetResult)
      (member : .resultTaken other pending ∈ e.history) :
      (pending.peerIndex, pending.transactionId) ≠ key := by
    intro same
    obtain ⟨later, past, cut⟩ := List.append_of_mem member
    have present : .resultTaken other pending :: past <:+ e.history := ⟨later, cut.symm⟩
    have known := taken_accepted answer present
    rw [split] at present
    have later : .resultTaken other pending :: past <:+ .commandAccepted lane inbound :: older := by
      refine @suffix_of_aside _ (fun event => ¬ event.Neutral) _ _ _ _ ?_ id present
      exact fun event member neutral => neutral (unaccepted event member).2
    rcases List.suffix_cons_iff.mp later with head | earlier
    · cases head
    · obtain ⟨between, rfl⟩ := (List.suffix_cons _ _).trans earlier
      exact fresh (acceptedKeys_grow (same ▸ known))
  constructor
  · intro peer transactionId started
    rw [history, ← List.singleton_append]
    apply acceptedKeys_grow
    rw [history] at started
    rcases List.mem_cons.mp started with new | old
    · cases new
      rw [split]
      exact acceptedKey_mem (List.mem_append_right _ List.mem_cons_self)
    · exact admits.accepted peer transactionId old
  · intro peer transactionId started other ready samePeer sameTransaction
    rw [lanes] at ready samePeer sameTransaction ⊢
    rw [history] at started
    rcases List.mem_cons.mp started with new | old
    · cases new
      obtain ⟨message, holds, fromPeer, transaction⟩ := answer.works other (by simp [ready])
      have same : other = lane := only other message (accepted_of_held holds)
        (by rw [fromPeer, transaction, samePeer, sameTransaction])
      rw [same, active] at ready
      cases ready
    · exact admits.staged peer transactionId old other ready samePeer sameTransaction
  · intro peer transactionId started other pending member samePeer sameTransaction
    rw [history] at started member
    have before : .resultTaken other pending ∈ e.history := by simpa using member
    rcases List.mem_cons.mp started with new | old
    · cases new
      exact absurd (by rw [samePeer, sameTransaction]) (untaken other pending before)
    · exact admits.taken peer transactionId old other pending before samePeer sameTransaction

theorem Admits.step (admits : Admits e) (sound : ∀ lane, (e.lanes lane).Sound)
    (answer : LanesAnswer e) (candid : Candid e'.history) (step : LaneStep e e') : Admits e' := by
  cases step with
  | kept same history off =>
    have lanes : e'.lanes = Function.update e.lanes .command (e.lanes .command) := by
      rw [Function.update_eq_self, same]
    apply admits.changed lanes history
    · intro event member
      have := off event member
      cases event <;> trivial
    · exact fun ready started => admits.staged _ _ started .command ready rfl rfl
  | @accepted lane inbound answers nowMs accepts lanes history =>
    apply admits.changed lanes (history.trans List.singleton_append.symm)
      (by simp [EndpointEvent.Neutral])
    intro _ started
    obtain ⟨peer, transaction⟩ := accept_command accepts answers nowMs
    rw [← peer, ← transaction] at started
    have twice := candid.once
    rw [history] at twice
    exact absurd (admits.accepted _ _ started) (List.nodup_cons.mp twice).1
  | @answered lane inbound status accepted active lanes history =>
    by_cases started : status = .started
    · subst started
      have earlier := candid.of_suffix (history ▸ List.suffix_cons _ _)
      exact admits.start answer earlier.once accepted (active rfl) lanes history
    · have same : e'.lanes = Function.update e.lanes lane (e.lanes lane) := by
        rw [Function.update_eq_self, lanes]
      apply admits.changed same (history.trans List.singleton_append.symm)
      · intro event member
        obtain rfl := List.mem_singleton.mp member
        cases status <;> trivial
      · exact fun ready started => admits.staged _ _ started lane ready rfl rfl
  | looped lane answers nowMs lanes still history =>
    apply admits.changed lanes (history.trans (List.nil_append _).symm) (by simp)
    intro ready started
    by_cases active : (e.lanes lane).state = .active
    · exact absurd ready (still active)
    · rw [InboundCommandDispatcher.loop_of_not_active active] at ready started ⊢
      exact admits.staged _ _ started lane ready rfl rfl
  | staged lane answers nowMs active lanes history =>
    apply admits.changed lanes (history.trans List.singleton_append.symm)
      (by simp [EndpointEvent.Neutral])
    intro ready _
    have noted : .resultStaged lane ((e.lanes lane).handedOn answers nowMs) ∈ e'.history :=
      history ▸ List.mem_cons_self
    obtain ⟨result, handed⟩ := Option.ne_none_iff_exists'.mp (candid.relayed _ noted _ rfl)
    exact loop_ownsUp (sound lane) active ready handed (candid.handler _ noted _ rfl result handed)
  | @taken lane pending dispatcher run lanes history =>
    obtain ⟨ready, rfl, next⟩ := InboundCommandDispatcher.takeResult_some run
    have unready : dispatcher.state ≠ .resultReady := by
      rcases next with ⟨_, rfl⟩ | ⟨_, rfl⟩ <;> simp [InboundCommandDispatcher.reset]
    have before {peer : PeerIndex} {transactionId : TransactionId}
        (started : StartedCommand e'.history peer transactionId) :
        StartedCommand e.history peer transactionId := by
      rw [history] at started
      simpa [StartedCommand] using started
    have emptied : Admits { e with lanes := Function.update e.lanes lane dispatcher } :=
      admits.changed rfl (List.nil_append _).symm (by simp) fun still _ => absurd still unready
    constructor
    · intro peer transactionId started
      rw [history, ← List.singleton_append]
      exact acceptedKeys_grow (admits.accepted peer transactionId (before started))
    · intro peer transactionId started other
      rw [lanes]
      exact emptied.staged peer transactionId (before started) other
    · intro peer transactionId started other pending member samePeer sameTransaction
      rw [history] at member
      rcases List.mem_cons.mp member with new | old
      · cases new
        obtain ⟨sent, payload, _, same⟩ := (sound lane).staging ready
        rw [same] at samePeer sameTransaction
        exact admits.staged peer transactionId (before started) lane ready samePeer sameTransaction
      · exact admits.taken peer transactionId (before started) other pending old samePeer
          sameTransaction

theorem admits_moves {config : Configuration} {random : UInt64}
    (moves : EndpointMoves (setup config random) e) (candid : Candid e.history) : Admits e := by
  induction moves with
  | refl => constructor <;> simp [setup, StartedCommand]
  | tail earlier last hyp =>
    have before := candid.of_suffix (move_extends _ _ last)
    exact (hyp before).step (lanesRead_moves earlier).sound (lanesAnswer_moves earlier) candid
      (move_lanes last)

end Remote

/- The client -/

/-- No COMMAND of this transaction is reported. -/
def Unreported (history : List EndpointEvent) (transactionId : TransactionId) : Prop :=
  ∀ inbound, .messageReady inbound ∈ history → inbound.message.envelope.kind = .command →
    inbound.message.envelope.transactionId ≠ transactionId

/-- The client gives up the delivery of no command that is reported. -/
def GivesUpUnreported (reported : List EndpointEvent) (e : EspNowNetProtocolComponent) : Prop :=
  ∀ transactionId, e.GivesUp transactionId → Unreported reported transactionId

theorem denied_unreported {config : Configuration} {random : UInt64}
    {reported : List EndpointEvent} {e : EspNowNetProtocolComponent}
    (run : ReflTransGen (fun e e' => EndpointMove e e' ∧ GivesUpUnreported reported e)
      (setup config random) e) {slot : Fin 2} {peer : PeerIndex} {result : NetResult}
    {pending : Bool} (finished : .commandFinished slot peer result pending ∈ e.history)
    (own : result.transportFailure = true) (denies : result.execution.started = false) :
    Unreported reported result.transactionId := by
  induction run with
  | refl => simp [setup] at finished
  | tail earlier last hyp =>
    rcases (move_origin last.1).ends finished with before | ends
    · exact hyp before
    · cases ends with
      | failed _ gives => exact last.2 _ (gives denies)
      | answered relayed => simp [own] at relayed

section Pair
variable {p : NodePair 0} {n : Network (Party 0)}

theorem accepted_from_client (consistent : Consistent p.toDeployment n)
    (few : (startedMessages (n (.client 0)).history).length < 2 ^ 32 - 1)
    {lane : InboundLane} {inbound : EspNowInboundApplicationMessage}
    (accepted : .commandAccepted lane inbound ∈ (n .remote).history) :
    .messageReady inbound ∈ (n .remote).history ∧ inbound.message.envelope.kind = .command ∧
      inbound.peerIndex = (p.config .remote).peers.indexForAddress (p.address (.client 0)) := by
  obtain ⟨ready, command⟩ := (accounted_moves (consistent.runs .remote)).explained _ accepted
  refine ⟨ready, command, ?_⟩
  obtain ⟨party, out, boots, reaches⟩ := consistent.sender (mem_readyMessages.mpr ready)
  obtain ⟨boot, rfl⟩ := NodePair.reaches_remote reaches
  obtain rfl : boot = 0 := Fin.fin_one_eq_zero boot
  obtain ⟨_, _, _, _, _, from'⟩ := consistent.origin few (mem_readyMessages.mpr ready) boots
  exact from'.symm

/-- In every run in which the client gives up the delivery of no command that the remote node
    reports, the remote node accepts no command twice, and its dispatchers say nothing about a
    started command but what the handler says: a command whose notified result denies that it
    was started is never started. -/
theorem denied_command_not_started {s : NodePair.State 0}
    (run : p.MovesWhile (GivesUpUnreported (s.2 .remote).history) p.start s)
    (few : ∀ party, (startedMessages (s.2 party).history).length < 2 ^ 32 - 1)
    (lanes : OnlyLaneResults (s.2 .remote).history) (candid : Candid (s.2 .remote).history)
    {observer : Nat} {peer : PeerIndex} {result : NetResult}
    (notified : .resultDelivered observer peer result ∈ (s.2 (.client 0)).history)
    (terminal : result.Terminal) (denies : result.execution.started = false)
    (index : PeerIndex) : ¬ StartedCommand (s.2 .remote).history index result.transactionId := by
  intro started
  have moves : p.Moves p.start s := run.lift id fun _ _ step => step.1
  have consistent := consistent_moves (NodePair.networkMoves moves)
  have admits := admits_moves (consistent.runs .remote) candid
  obtain ⟨event, accepted, key⟩ := List.mem_filterMap.mp (admits.accepted _ _ started)
  obtain ⟨lane, inbound, rfl⟩ : ∃ lane inbound, event = .commandAccepted lane inbound := by
    cases event <;> simp [EndpointEvent.acceptedKey] at key
    exact ⟨_, _, rfl⟩
  obtain ⟨rfl, transaction⟩ := Prod.mk.inj (Option.some.inj key)
  obtain ⟨ready, command, from'⟩ := accepted_from_client consistent (few _) accepted
  cases relayed : result.transportFailure with
  | true =>
    have explained := (accounted_moves (consistent.runs (.client 0))).explained
    obtain ⟨_, _, finished⟩ := explained _ (explained _ notified) terminal
    have unreported := denied_unreported (NodePair.client_run run 0) finished relayed denies
    exact unreported inbound ready command transaction
  | false =>
    obtain ⟨answer, sent, kind, taken⟩ :=
      notified_answer consistent (few .remote) notified terminal relayed
    obtain ⟨latencyMs, decodes⟩ := taken.decodes
    obtain ⟨other, _, answers, _⟩ := answered_command consistent (fun _ => few _) lanes sent kind
    obtain ⟨lane', pending, older, present, ⟨_, same, bytes⟩, holds⟩ := answers
    have takes : .resultTaken lane' pending :: older <:+ (s.2 .remote).history :=
      (List.suffix_cons _ _).trans present
    have given := ((List.suffix_cons _ _).trans takes).subset (accepted_of_held holds)
    -- the result was taken for a command of the same peer
    have peers : pending.peerIndex = inbound.peerIndex := by
      obtain ⟨worked, held, from'', _⟩ :=
        (lanesAnswer_moves (consistent.runs .remote)).taken _ older takes
      obtain rfl : worked = other := Option.some.inj (held.symm.trans holds)
      rw [← from'', from', (accepted_from_client consistent (few _) given).2.2]
    have named : answer.envelope.transactionId = result.transactionId :=
      (EspNowResultCodec.decode_transaction decodes).symm
    obtain ⟨told, encodes, owns⟩ := admits.taken _ _ started lane' pending
      (takes.subset List.mem_cons_self) peers (same.trans named)
    have identified : answer.envelope.transactionId ≠ 0 := by
      intro zero
      simp [EspNowResultCodec.decode, zero] at decodes
    rw [← bytes, EspNowResultCodec.decode_encode encodes identified] at decodes
    obtain rfl := Except.ok.inj decodes
    simp [owns] at denies

end Pair

/- A command whose delivery times out -/

def plainPair : NodePair 0 where
  address
    | .remote => sampleAddress true
    | .client _ => sampleAddress false
  config
    | .remote => remoteConfiguration
    | .client _ => clientConfiguration
  random
    | .remote => 9
    | .client _ => 1
  bootIdsDistinct := by
    intro one other same
    match one, other with
    | .remote, .remote | .client 0, .client 0 => rfl
    | .remote, .client 0 | .client 0, .remote => exact absurd same (by decide)
  sameAddress _ := rfl
  sameConfig _ := rfl
  apart := by decide
  clientPeers := clientConfiguration_peers
  remotePeers := remoteConfiguration_peers

/-- Three attempts, each of which waits for an ACK that does not come. -/
def waitingInVain : List EndpointOperation :=
  ([5252, 5504, 5756] : List UInt32).flatMap fun nowMs =>
    [.driver (.sendCallback 0 true), .loop { nowMs },
      .loop { nowMs := nowMs + 250, failureMs := nowMs + 250 }, .loop { nowMs := nowMs + 251 }]

/-- What the client makes of a delivery that is not acknowledged. -/
def deniedResult : NetResult :=
  EspNowNetProtocolComponent.failureResult
    { command := { sampleCommand with transactionId := firstDeclared }, startedMs := 5250 }
    .timedOut "delivery acknowledgement timed out" 6006

/-- No frame of the command arrives. -/
def lostCommand : Network (Party 0) :=
  plainPair.begin.play [(.client 0, issuing ++ waitingInVain)]

/-- The command arrives and is started; its ACKs are lost. -/
def lostAck : Network (Party 0) :=
  plainPair.begin.play [(.client 0, issuing), (.remote, taking 1), (.client 0, waitingInVain)]

theorem lostCommand_not_started :
    .resultDelivered 0 0 deniedResult ∈ (lostCommand (.client 0)).history ∧
      ¬ StartedCommand (lostCommand .remote).history 0 firstDeclared := by
  have plays :
      plainPair.plays [] plainPair.begin [(.client 0, issuing ++ waitingInVain)] = true := by
    decide +kernel
  have silent : (lostCommand .remote).history = [] := by decide +kernel
  have moves : plainPair.Moves plainPair.start (0, lostCommand) :=
    NodePair.play_moves plays (by simp)
  have run : plainPair.MovesWhile (GivesUpUnreported (lostCommand .remote).history)
      plainPair.start (0, lostCommand) := by
    refine moves.lift id fun _ _ step => ⟨step, fun _ _ inbound ready => ?_⟩
    simp [silent] at ready
  have few : ∀ party, (startedMessages (lostCommand party).history).length < 2 ^ 32 - 1 := by
    intro party
    match party with
    | .remote | .client 0 => decide +kernel
  have lanes : OnlyLaneResults (lostCommand .remote).history := by decide +kernel
  have candid : Candid (lostCommand .remote).history := by
    constructor <;> simp [silent, acceptedKeys]
  have notified : .resultDelivered 0 0 deniedResult ∈ (lostCommand (.client 0)).history := by
    decide +kernel
  have terminal : deniedResult.Terminal := by decide +kernel
  have unstarted := @denied_command_not_started plainPair (0, lostCommand) run few lanes candid 0 0
    deniedResult notified terminal rfl 0
  exact ⟨notified, unstarted⟩

/-- The client denies the start of a command that the remote handler has started. -/
theorem lost_ack_denies_started_command :
    ¬ ∀ (p : NodePair 0) (s : NodePair.State 0), p.Moves p.start s →
      (∀ party, (startedMessages (s.2 party).history).length < 2 ^ 32 - 1) →
      OnlyLaneResults (s.2 .remote).history → Candid (s.2 .remote).history →
      ∀ (observer : Nat) (peer : PeerIndex) (result : NetResult),
        .resultDelivered observer peer result ∈ (s.2 (.client 0)).history → result.Terminal →
        result.execution.started = false →
        ∀ index, ¬ StartedCommand (s.2 .remote).history index result.transactionId := by
  intro always
  have plays : plainPair.plays [.client 0] plainPair.begin
      [(.client 0, issuing), (.remote, taking 1), (.client 0, waitingInVain)] = true := by
    decide +kernel
  have moves : plainPair.Moves plainPair.start (0, lostAck) := NodePair.play_moves plays (by simp)
  have few : ∀ party, (startedMessages (lostAck party).history).length < 2 ^ 32 - 1 := by
    intro party
    match party with
    | .remote | .client 0 => decide +kernel
  have candid : Candid (lostAck .remote).history := by
    constructor <;> decide +kernel
  have notified : .resultDelivered 0 0 deniedResult ∈ (lostAck (.client 0)).history := by
    decide +kernel
  have started : StartedCommand (lostAck .remote).history 0 firstDeclared := by
    unfold StartedCommand
    decide +kernel
  have lanes : OnlyLaneResults (lostAck .remote).history := by decide +kernel
  have terminal : deniedResult.Terminal := by decide +kernel
  exact always plainPair (0, lostAck) moves few lanes candid 0 0 deniedResult notified terminal
    rfl 0 started

end EspNowNet
