import EspNowNet.DeclarativeIds
import EspNowNet.LaneCommands
import EspNowNet.Network

/- A client node that reboots: its component starts afresh under a new boot id, and its id
   counter starts again at one. What was sent before a reboot may still arrive after it. -/
namespace EspNowNet
open EspNowNetProtocolComponent Relation

/-- The remote node, or the client node after that many reboots. -/
inductive Party (reboots : Nat) where
  | remote
  | client (boot : Fin (reboots + 1))
  deriving DecidableEq

theorem forall_party {reboots : Nat} {holds : Party reboots → Prop} :
    (∀ party, holds party) ↔ holds .remote ∧ ∀ boot, holds (.client boot) := by
  constructor
  · exact fun all => ⟨all .remote, fun boot => all (.client boot)⟩
  · rintro ⟨remote, client⟩ party
    cases party with
    | remote => exact remote
    | client boot => exact client boot

instance decidableForallParty {reboots : Nat} {holds : Party reboots → Prop}
    [∀ party, Decidable (holds party)] : Decidable (∀ party, holds party) :=
  decidable_of_iff _ forall_party.symm

structure NodePair (reboots : Nat) extends Deployment (Party reboots) where
  sameAddress : ∀ boot, address (.client boot) = address (.client 0)
  sameConfig : ∀ boot, config (.client boot) = config (.client 0)
  apart : address (.client 0) ≠ address .remote
  clientPeers : ∀ peer found, (config (.client 0)).peers.peer peer = some found →
    found.address = address .remote
  remotePeers : ∀ peer found, (config .remote).peers.peer peer = some found →
    found.address = address (.client 0)

namespace NodePair
variable {reboots : Nat}

abbrev State (reboots : Nat) := Fin (reboots + 1) × Network (Party reboots)

def start (p : NodePair reboots) : State reboots := (0, p.begin)

/-- The remote node or the present boot of the client moves, or the client reboots. -/
inductive Move (p : NodePair reboots) : State reboots → State reboots → Prop
  | runs {boot : Fin (reboots + 1)} {n : Network (Party reboots)} {party : Party reboots}
      (alive : party = .remote ∨ party = .client boot) {e' : EspNowNetProtocolComponent}
      (move : EndpointMove (n party) e')
      (carried : ∀ address data, .frameReceived address data ∈ e'.history →
        p.Carries n party address data) : Move p (boot, n) (boot, Function.update n party e')
  | reboots {boot next : Fin (reboots + 1)} {n : Network (Party reboots)}
      (follows : next.val = boot.val + 1) : Move p (boot, n) (next, n)

abbrev Moves (p : NodePair reboots) := ReflTransGen p.Move

variable {p : NodePair reboots}

theorem networkMoves {s s' : State reboots} (moves : p.Moves s s') :
    NetworkMoves p.toDeployment s.2 s'.2 := by
  induction moves with
  | refl => exact .refl
  | tail earlier last hyp =>
    cases last with
    | runs alive move carried => exact hyp.tail (.move _ move carried)
    | reboots => exact hyp

theorem reaches_client {party : Party reboots} {out : PeerIndex} {boot : Fin (reboots + 1)}
    (reaches : p.peerAddress party out = some (p.address (.client boot))) : party = .remote := by
  cases party with
  | remote => rfl
  | client other =>
    rw [p.sameAddress, Deployment.peerAddress, p.sameConfig] at reaches
    obtain ⟨found, known, address⟩ := Option.map_eq_some_iff.mp reaches
    exact absurd (address.symm.trans (p.clientPeers out found known)) p.apart

theorem reaches_remote {party : Party reboots} {out : PeerIndex}
    (reaches : p.peerAddress party out = some (p.address .remote)) :
    ∃ boot, party = .client boot := by
  cases party with
  | client boot => exact ⟨boot, rfl⟩
  | remote =>
    obtain ⟨found, known, address⟩ := Option.map_eq_some_iff.mp reaches
    exact absurd ((p.remotePeers out found known).symm.trans address) p.apart

/-- The runs in which every state that the living client leaves has the property. -/
abbrev MovesWhile (p : NodePair reboots) (holds : EspNowNetProtocolComponent → Prop) :=
  ReflTransGen fun s s' => p.Move s s' ∧ holds (s.2 (.client s.1))

theorem client_run {holds : EspNowNetProtocolComponent → Prop} {s s' : State reboots}
    (run : p.MovesWhile holds s s') (boot : Fin (reboots + 1)) :
    ReflTransGen (fun e e' => EndpointMove e e' ∧ holds e) (s.2 (.client boot))
      (s'.2 (.client boot)) := by
  induction run with
  | refl => exact .refl
  | @tail middle last earlier next hyp =>
    obtain ⟨moved, kept⟩ := next
    cases moved with
    | reboots => exact hyp
    | @runs present n party alive e' move carried =>
      by_cases own : party = .client boot
      · subst own
        obtain rfl : boot = present := Party.client.inj (alive.resolve_left (by simp))
        simp only [Function.update_self]
        exact hyp.tail ⟨move, kept⟩
      · simp only [Function.update_of_ne (Ne.symm own)]
        exact hyp

def bootId (p : NodePair reboots) (party : Party reboots) : UInt64 :=
  (setup (p.config party) (p.random party)).localBootId

theorem play_moves {boot : Fin (reboots + 1)} {n : Network (Party reboots)}
    {senders : List (Party reboots)} {stretches : List (Party reboots × List EndpointOperation)}
    (plays : p.plays senders n stretches = true)
    (alive : ∀ stretch ∈ stretches, stretch.1 = .remote ∨ stretch.1 = .client boot) :
    p.Moves (boot, n) (boot, n.play stretches) := by
  have steps : ReflTransGen (fun n n' => p.Move (boot, n) (boot, n')) n (n.play stretches) := by
    apply play_run plays
    intro stretch member n e' move carried
    exact .runs (alive stretch member) move carried
  exact steps.lift (boot, ·) fun _ _ move => move

end NodePair

section Reboot
variable {reboots : Nat} {p : NodePair reboots} {n : Network (Party reboots)}

structure TakenAnswer (n : Network (Party reboots)) (boot : Fin (reboots + 1))
    (answer : OutboundMessage) (result : NetResult) : Prop where
  routed : ∃ slot inbound, .resultRouted (.client slot) inbound ∈ (n (.client boot)).history ∧
    inbound.message.envelope = answer.envelope ∧ inbound.message.data.bytes = answer.data
  decodes : ∃ latencyMs,
    EspNowResultCodec.decode answer.envelope.transactionId answer.data latencyMs = .ok result

/-- The result was taken from a lane that the remote node had given exactly this command to. -/
def ProducedFor (n : Network (Party reboots)) (boot : Fin (reboots + 1))
    (command : OutboundMessage) (result : NetResult) : Prop :=
  ∃ answer inbound, TakenAnswer n boot answer result ∧
    Answers (n .remote).history answer inbound ∧
    inbound.message.envelope = command.envelope ∧ inbound.message.data.bytes = command.data

/-- A slot takes the last word on a command of another boot for that on its own command. -/
def TakesStale (p : NodePair reboots) (n : Network (Party reboots)) (boot : Fin (reboots + 1)) :
    Prop :=
  ∃ answer result command, TakenAnswer n boot answer result ∧ result.Terminal ∧
    Answers (n .remote).history answer command ∧
    command.message.envelope.sourceBootId ≠ p.bootId (.client boot)

/-- The client's application only sends declarative commands, the remote node only sends the
    results of its lanes, and neither runs out of numbers. -/
@[mk_iff]
structure Declarative (n : Network (Party reboots)) : Prop where
  few : ∀ party, (startedMessages (n party).history).length < 2 ^ 32 - 1
  fewIds : ∀ boot, (declaredIds (n (.client boot)).history).length < declarativeIdCount
  declared : ∀ boot, OnlyDeclared (n (.client boot)).history
  lanes : OnlyLaneResults (n .remote).history

instance decidableDeclarative (n : Network (Party reboots)) : Decidable (Declarative n) :=
  decidable_of_iff _ (declarative_iff n).symm

theorem notified_answer (consistent : Consistent p.toDeployment n)
    (few : (startedMessages (n .remote).history).length < 2 ^ 32 - 1)
    {boot : Fin (reboots + 1)} {observer : Nat} {peer : PeerIndex} {result : NetResult}
    (notified : .resultDelivered observer peer result ∈ (n (.client boot)).history)
    (terminal : result.Terminal) (relayed : result.transportFailure = false) :
    ∃ answer ∈ startedMessages (n .remote).history,
      answer.envelope.kind = .result ∧ TakenAnswer n boot answer result := by
  have explained := (accounted_moves (consistent.runs (.client boot))).explained
  obtain ⟨_, _, finished⟩ := explained _ (explained _ notified) terminal
  obtain ⟨origin, _⟩ := (explained _ finished).resolve_left (by simp [relayed])
  obtain ⟨slot, inbound, latencyMs, routed, _, decodes⟩ := origin.resolve_left (by simp [relayed])
  obtain ⟨ready, kind⟩ := explained _ routed
  obtain ⟨party, out, boots, reaches⟩ := consistent.sender (mem_readyMessages.mpr ready)
  obtain rfl := NodePair.reaches_client reaches
  obtain ⟨answer, member, envelope, data, _⟩ :=
    consistent.origin few (mem_readyMessages.mpr ready) boots
  refine ⟨answer, member, envelope ▸ kind, ⟨slot, inbound, routed, envelope.symm, data.symm⟩,
    latencyMs, ?_⟩
  rw [envelope, data]
  exact decodes

theorem answered_command (consistent : Consistent p.toDeployment n)
    (few : ∀ boot, (startedMessages (n (.client boot)).history).length < 2 ^ 32 - 1)
    (only : OnlyLaneResults (n .remote).history) {answer : OutboundMessage}
    (started : answer ∈ startedMessages (n .remote).history)
    (kind : answer.envelope.kind = .result) :
    ∃ inbound boot, Answers (n .remote).history answer inbound ∧
      inbound.message.envelope.sourceBootId = p.bootId (.client boot) ∧
      ∃ command ∈ commandMessages (n (.client boot)).history,
        command.envelope.transactionId = answer.envelope.transactionId ∧
        inbound.message.envelope = command.envelope ∧
        inbound.message.data.bytes = command.data := by
  obtain ⟨inbound, answers, from', ready, isCommand⟩ :=
    answers_of_result (consistent.runs .remote) only started kind
  obtain ⟨party, out, boots, reaches⟩ := consistent.sender (mem_readyMessages.mpr ready)
  obtain ⟨boot, rfl⟩ := NodePair.reaches_remote reaches
  obtain ⟨command, member, envelope, data, _⟩ :=
    consistent.origin (few boot) (mem_readyMessages.mpr ready) boots
  refine ⟨inbound, boot, answers, boots, command, ?_, ?_, envelope.symm, data.symm⟩
  · exact mem_commandMessages.mpr ⟨member, envelope ▸ isCommand⟩
  · rw [envelope]
    exact from'.transaction

/-- In every run in which no slot of a boot takes the last word on a command of another boot, a
    notified result of the remote node was produced for the one command that this boot has
    started under the transaction of the result. -/
theorem notified_result_of_own_command {s : NodePair.State reboots} (run : p.Moves p.start s)
    (declarative : Declarative s.2) {boot : Fin (reboots + 1)} (fresh : ¬ TakesStale p s.2 boot)
    {observer : Nat} {peer : PeerIndex} {result : NetResult}
    (notified : .resultDelivered observer peer result ∈ (s.2 (.client boot)).history)
    (terminal : result.Terminal) (relayed : result.transportFailure = false) :
    ∃ command ∈ commandMessages (s.2 (.client boot)).history,
      command.envelope.transactionId = result.transactionId ∧
      (∀ other ∈ commandMessages (s.2 (.client boot)).history,
        other.envelope.transactionId = result.transactionId → other = command) ∧
      ProducedFor s.2 boot command result := by
  have consistent := consistent_moves (NodePair.networkMoves run)
  obtain ⟨answer, started, kind, taken⟩ :=
    notified_answer consistent (declarative.few .remote) notified terminal relayed
  obtain ⟨inbound, sender, answers, boots, command, member, transaction, envelope, data⟩ :=
    answered_command consistent (fun boot => declarative.few (.client boot)) declarative.lanes
      started kind
  have own : sender = boot := by
    by_contra other
    refine fresh ⟨answer, result, inbound, taken, terminal, answers, fun same => other ?_⟩
    have parties := p.bootIdsDistinct (boots.symm.trans same)
    exact (Party.client.inj parties)
  subst own
  obtain ⟨latencyMs, decodes⟩ := taken.decodes
  have named := transaction.trans (EspNowResultCodec.decode_transaction decodes).symm
  refine ⟨command, member, named, fun other second same => ?_, ?_⟩
  · exact commandMessage_unique (consistent.runs (.client sender)) (declarative.fewIds sender)
      (declarative.declared sender) second member (same.trans named.symm)
  · exact ⟨answer, inbound, taken, answers, envelope, data⟩

end Reboot

/- The first command of the second boot, which carries the id of the first command of the first -/

def clientConfiguration : Configuration :=
  { peers := peerAt (sampleAddress true), commandResultObservers := ObserverSlots.empty.register 0 }

def remoteConfiguration : Configuration :=
  { peers := peerAt (sampleAddress false), handlerInstalled := true }

theorem only_peer {peers : PeerRegistry} {address : Vector UInt8 6}
    (one : peers.peers.map (·.address) = [address]) {peer : PeerIndex} {found : PeerIdentity}
    (known : peers.peer peer = some found) : found.address = address := by
  have member : found.address ∈ peers.peers.map (·.address) :=
    List.mem_map.mpr ⟨found, List.mem_of_getElem? known, rfl⟩
  rw [one] at member
  exact List.mem_singleton.mp member

theorem clientConfiguration_peers (peer : PeerIndex) (found : PeerIdentity)
    (known : clientConfiguration.peers.peer peer = some found) :
    found.address = sampleAddress true :=
  only_peer (by decide) known

theorem remoteConfiguration_peers (peer : PeerIndex) (found : PeerIdentity)
    (known : remoteConfiguration.peers.peer peer = some found) :
    found.address = sampleAddress false :=
  only_peer (by decide) known

def samplePair : NodePair 1 where
  address
    | .remote => sampleAddress true
    | .client _ => sampleAddress false
  config
    | .remote => remoteConfiguration
    | .client _ => clientConfiguration
  random
    | .remote => 9
    | .client boot => if boot = 0 then 1 else 2
  bootIdsDistinct := by
    intro one other same
    match one, other with
    | .remote, .remote | .client 0, .client 0 | .client 1, .client 1 => rfl
    | .remote, .client 0 | .remote, .client 1 | .client 0, .remote | .client 0, .client 1
      | .client 1, .remote | .client 1, .client 0 => exact absurd same (by decide)
  sameAddress _ := rfl
  sameConfig _ := rfl
  apart := by decide
  clientPeers := clientConfiguration_peers
  remotePeers := remoteConfiguration_peers

def firstDeclared : TransactionId := 0xE000000000000001

def sentCommand (bootId : UInt64) : List UInt8 :=
  let command := { sampleCommand with transactionId := firstDeclared }
  (EspNowFrameCodec.fragmentFrame
    ⟨.command, EspNowFrameCodec.flagAckRequired, bootId, firstDeclared, 1⟩
    ((EspNowCommandCodec.encode command).toOption.elim [] (·.bytes)) 0).bytes

def sentAck (sequence : UInt32) : List UInt8 :=
  (EspNowFrameCodec.fragmentFrame ⟨.ack, 0, 9, firstDeclared, sequence⟩
    (EspNowAckCodec.encodedBytes ⟨⟨2, firstDeclared, 1⟩, .accepted⟩) 0).bytes

def succeeded : NetResult :=
  { transactionId := firstDeclared, status := .succeeded, execution := { started := true } }

def sentResult : List UInt8 :=
  (EspNowFrameCodec.fragmentFrame
    ⟨.result, EspNowFrameCodec.flagAckRequired, 9, firstDeclared, 1⟩
    ((EspNowResultCodec.encode succeeded).toOption.elim [] (·.bytes)) 0).bytes

def issuing : List EndpointOperation :=
  radioReady ++
    [.control (.sendCommand [112] [100] [] [110] [] 1000 5250), .loop { nowMs := 5251 }]

def taking (bootId : UInt64) : List EndpointOperation :=
  radioReady ++
    [.driver (.receiveCallback (sampleAddress false) (sentCommand bootId)), startingLoop 5251]

def holding : List EndpointOperation :=
  [.driver (.sendCallback 0 true),
    .driver (.receiveCallback (sampleAddress false) (sentCommand 2)), .loop { nowMs := 5252 }]

def concludes (sequence : UInt32) : List (Party 1 × List EndpointOperation) :=
  [(.client 1, [.driver (.sendCallback 0 true),
      .driver (.receiveCallback (sampleAddress true) (sentAck sequence)), .loop { nowMs := 5252 }]),
    (.remote, [.driver (.sendCallback 0 true), .loop { nowMs := 5253, lanes := fun _ =>
      { answers := { hasResult := true, takeResult := some succeeded } } }]),
    (.client 1, [.driver (.receiveCallback (sampleAddress true) sentResult),
      .loop { nowMs := 5253 }, .loop { nowMs := 5254 }])]

def notifiedResult : NetResult := { succeeded with latencyMs := 3 }

def ownNetwork : Network (Party 1) :=
  samplePair.begin.play ([(.client 1, issuing), (.remote, taking 2)] ++ concludes 1)

def firstBoot : List (Party 1 × List EndpointOperation) :=
  [(.client 0, issuing), (.remote, taking 1)]

def secondBoot : List (Party 1 × List EndpointOperation) :=
  [(.client 1, issuing), (.remote, holding)] ++ concludes 2

def staleNetwork : Network (Party 1) :=
  (samplePair.begin.play firstBoot).play secondBoot

theorem ownNetwork_moves : samplePair.Moves samplePair.start (1, ownNetwork) := by
  have rebooted : samplePair.Moves samplePair.start (1, samplePair.begin) :=
    .single (.reboots rfl)
  have plays : samplePair.plays [.remote, .client 1] samplePair.begin
      ([(.client 1, issuing), (.remote, taking 2)] ++ concludes 1) = true := by decide +kernel
  exact rebooted.trans (NodePair.play_moves plays (by simp [concludes]))

theorem staleNetwork_moves : samplePair.Moves samplePair.start (1, staleNetwork) := by
  have first : samplePair.plays [.remote, .client 0] samplePair.begin firstBoot = true := by
    decide +kernel
  have second : samplePair.plays [.remote, .client 0, .client 1]
      (samplePair.begin.play firstBoot) secondBoot = true := by decide +kernel
  have before : samplePair.Moves samplePair.start (0, samplePair.begin.play firstBoot) :=
    NodePair.play_moves first (by simp [firstBoot])
  exact (before.tail (.reboots rfl)).trans
    (NodePair.play_moves second (by simp [secondBoot, concludes]))

theorem declarative_own : Declarative ownNetwork := by decide +kernel

theorem declarative_stale : Declarative staleNetwork := by decide +kernel

def commandBoots (history : List EndpointEvent) : List UInt64 :=
  history.filterMap fun event =>
    match event with
    | .commandAccepted _ inbound => some inbound.message.envelope.sourceBootId
    | _ => none

theorem answers_boot {history : List EndpointEvent} {answer : OutboundMessage}
    {inbound : EspNowInboundApplicationMessage} (answers : Answers history answer inbound) :
    inbound.message.envelope.sourceBootId ∈ commandBoots history := by
  obtain ⟨lane, pending, older, present, _, holds⟩ := answers
  have accepted := accepted_of_held holds
  have earlier : older <:+ history :=
    ((List.suffix_cons _ _).trans (List.suffix_cons _ _)).trans present
  exact List.mem_filterMap.mpr ⟨_, earlier.subset accepted, rfl⟩

theorem notified_result_of_second_boot :
    ∃ command ∈ commandMessages (ownNetwork (.client 1)).history,
      command.envelope.transactionId = notifiedResult.transactionId ∧
      (∀ other ∈ commandMessages (ownNetwork (.client 1)).history,
        other.envelope.transactionId = notifiedResult.transactionId → other = command) ∧
      ProducedFor ownNetwork 1 command notifiedResult := by
  have boots : commandBoots (ownNetwork .remote).history = [2] := by decide +kernel
  have fresh : ¬ TakesStale samplePair ownNetwork 1 := by
    rintro ⟨answer, result, command, _, _, answers, other⟩
    have member := answers_boot answers
    rw [boots] at member
    exact other (List.mem_singleton.mp member)
  have notified : .resultDelivered 0 0 notifiedResult ∈ (ownNetwork (.client 1)).history := by
    decide +kernel
  exact notified_result_of_own_command ownNetwork_moves declarative_own fresh notified
    (by decide) rfl

/-- The handler's result for the command of the first boot ends the command of the second. -/
theorem stale_result_ends_new_command :
    ¬ ∀ (reboots : Nat) (p : NodePair reboots) (s : NodePair.State reboots),
      p.Moves p.start s → Declarative s.2 → ∀ (boot : Fin (reboots + 1)) (observer : Nat)
        (peer : PeerIndex) (result : NetResult),
        .resultDelivered observer peer result ∈ (s.2 (.client boot)).history →
        result.Terminal → result.transportFailure = false →
        ∃ command ∈ commandMessages (s.2 (.client boot)).history,
          command.envelope.transactionId = result.transactionId ∧
          ProducedFor s.2 boot command result := by
  intro always
  have notified : .resultDelivered 0 0 notifiedResult ∈ (staleNetwork (.client 1)).history := by
    decide +kernel
  obtain ⟨command, member, _, answer, inbound, _, answers, same, _⟩ :=
    always 1 samplePair (1, staleNetwork) staleNetwork_moves declarative_stale 1 0 0 notifiedResult
      notified (by decide) rfl
  have worked : commandBoots (staleNetwork .remote).history = [1] := by decide +kernel
  have sent : (commandMessages (staleNetwork (.client 1)).history).map
      (·.envelope.sourceBootId) = [2] := by decide +kernel
  have boot := answers_boot answers
  have own := List.mem_map_of_mem (f := fun message : OutboundMessage =>
    message.envelope.sourceBootId) member
  rw [worked, same] at boot
  rw [sent] at own
  exact absurd ((List.mem_singleton.mp boot).symm.trans (List.mem_singleton.mp own)) (by decide)

end EspNowNet
