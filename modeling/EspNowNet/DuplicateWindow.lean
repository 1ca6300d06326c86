import EspNowNet.RuntimeInvariant
import EspNowNet.SenderInvariant

/- One receiver and its sixteen peers, each a reliable sender of its own. Frames and ACKs are
   in flight until they are delivered or lost; nothing is delivered twice. -/
namespace EspNowNet
open EspNowFrameCodec

/-- The boot ids and the retry policy the parties are configured with. -/
structure Participants where
  receiver : UInt64
  peers : Fin 16 → UInt64
  policy : EspNowRetryPolicy
  receiverNonzero : receiver ≠ 0
  peersNonzero : ∀ peer, peers peer ≠ 0
  peersDistinct : Function.Injective peers
  policyValid : policy.Valid

/-- `reported` lists the identities the receiver has reported as ready, newest first. -/
structure Reception where
  receiver : EspNowProtocolRuntime
  senders : Fin 16 → ReliableMessageSender
  frames : List EspNowReceivedFrame := []
  acks : List EspNowPendingApplicationAck := []
  reported : List DeliveryIdentity := []

inductive ReceptionEvent where
  | start (peer : Fin 16) (kind : EspNowFrameKind) (transactionId : TransactionId)
      (message : List UInt8)
  | senderLoop (peer : Fin 16) (nowMs : UInt32)
  | transmit (peer : Fin 16)
  | completeFrame (peer : Fin 16) (succeeded : Bool) (nowMs : UInt32)
  | finish (peer : Fin 16)
  | deliverFrame (position : Nat)
  | loseFrame (position : Nat)
  | takeMessage
  | answer
  | deliverAck (position : Nat)
  | loseAck (position : Nat)

namespace Reception

def begin (participants : Participants) : Reception where
  receiver := (({} : EspNowProtocolRuntime).configure participants.receiver).2
  senders peer :=
    (({} : ReliableMessageSender).configure (participants.peers peer) participants.policy).2

def setSender (s : Reception) (peer : Fin 16) (sender : ReliableMessageSender) : Reception :=
  { s with senders := Function.update s.senders peer sender }

def finish (s : Reception) (peer : Fin 16) : Reception :=
  match (s.senders peer).state with
  | .acknowledged | .rejected | .timedOut => s.setSender peer (s.senders peer).reset
  | _ => s

def transmit (s : Reception) (peer : Fin 16) : Reception :=
  match (s.senders peer).takeFrame with
  | (none, _) => s
  | (some (_, frame), sender) =>
    { s.setSender peer sender with frames := s.frames ++ [⟨UInt8.ofNat peer, frame⟩] }

def deliverFrame (s : Reception) (position : Nat) : Reception :=
  match s.frames[position]? with
  | none => s
  | some received =>
    let s := { s with frames := s.frames.eraseIdx position }
    match s.receiver.accept received with
    | (.applicationMessageReady, receiver) =>
      match receiver.peekApplicationMessage with
      | some inbound =>
        { s with receiver, reported := inbound.message.envelope.identity :: s.reported }
      | none => { s with receiver }
    | (_, receiver) => { s with receiver }

def answer (s : Reception) : Reception :=
  match s.receiver.takeApplicationAck with
  | (none, _) => s
  | (some pending, receiver) => { s with receiver, acks := s.acks ++ [pending] }

def deliverAck (s : Reception) (position : Nat) : Reception :=
  match s.acks[position]? with
  | none => s
  | some pending =>
    let s := { s with acks := s.acks.eraseIdx position }
    if inside : pending.peerIndex.toNat < 16 then
      let peer : Fin 16 := ⟨pending.peerIndex.toNat, inside⟩
      s.setSender peer ((s.senders peer).acceptAck pending.payload).2
    else s

def step (s : Reception) : ReceptionEvent → Reception
  | .start peer kind transactionId message =>
    s.setSender peer ((s.senders peer).start 0 kind transactionId (some message)).2
  | .senderLoop peer nowMs => s.setSender peer ((s.senders peer).loop nowMs)
  | .transmit peer => s.transmit peer
  | .completeFrame peer succeeded nowMs =>
    s.setSender peer ((s.senders peer).completeFrame succeeded nowMs).2
  | .finish peer => s.finish peer
  | .deliverFrame position => s.deliverFrame position
  | .loseFrame position => { s with frames := s.frames.eraseIdx position }
  | .takeMessage => { s with receiver := s.receiver.takeApplicationMessage.2 }
  | .answer => s.answer
  | .deliverAck position => s.deliverAck position
  | .loseAck position => { s with acks := s.acks.eraseIdx position }

def Reachable (participants : Participants) (s : Reception) : Prop :=
  ∃ events : List ReceptionEvent, s = events.foldl step (begin participants)

/-- The receiver remembers the newest reports, and reports nothing it remembers. -/
structure Remembers (s : Reception) : Prop where
  sound : s.receiver.Sound fun _ _ => True
  tracks : RecentWindow.Tracks EspNowDuplicateCache.capacity s.receiver.duplicates.ring s.reported
  spread : RecentWindow.Spread EspNowDuplicateCache.capacity s.reported

/-- Everything but a delivered frame leaves the memory and the reports alone. -/
theorem Remembers.settle {s t : Reception} (inv : s.Remembers) {receiver : EspNowProtocolRuntime}
    (sound : receiver.Sound fun _ _ => True)
    (remembers : receiver.duplicates = s.receiver.duplicates)
    (same : t.receiver = receiver ∧ t.reported = s.reported) : t.Remembers := by
  obtain ⟨received, reported⟩ := same
  refine ⟨received ▸ sound, ?_, reported ▸ inv.spread⟩
  rw [received, reported, remembers]
  exact inv.tracks

theorem remembers_begin (participants : Participants) : (begin participants).Remembers := by
  refine ⟨EspNowProtocolRuntime.sound_configure EspNowProtocolRuntime.sound_fresh _, ?_,
    RecentWindow.spread_nil _⟩
  obtain ⟨localBootId, same⟩ := EspNowProtocolRuntime.configure_eq {} participants.receiver
  simp only [begin, same]
  exact RecentWindow.tracks_nil _ rfl

theorem remembers_deliverFrame {s : Reception} (inv : s.Remembers) (position : Nat) :
    (s.deliverFrame position).Remembers := by
  unfold deliverFrame
  split
  · exact inv
  · rename_i received found
    cases run : s.receiver.accept received with
    | mk result receiver =>
      obtain ⟨sound, effect⟩ := EspNowProtocolRuntime.accept_effect inv.sound trivial run
      cases effect with
      | silent nothing mailbox remembers handed answer =>
        rcases nothing with rfl | rfl
        · exact inv.settle sound remembers (by simp [run])
        · exact inv.settle sound remembers (by simp [run])
      | deliveryAck assembled kind decodes mailbox remembers handed answer =>
        exact inv.settle sound remembers (by simp [run])
      | duplicate known mailbox remembers handed answer =>
        exact inv.settle sound remembers (by simp [run])
      | ready assembled kind unknown mailbox remembers handed answer =>
        obtain ⟨absent, tracks⟩ :=
          EspNowDuplicateCache.observe_tracks inv.tracks assembled.identity unknown
        simp only [run, mailbox]
        exact ⟨sound, remembers ▸ tracks, RecentWindow.spread_cons inv.spread absent⟩

theorem remembers_step {s : Reception} (inv : s.Remembers) (event : ReceptionEvent) :
    (s.step event).Remembers := by
  have unchanged {t : Reception} (same : t.receiver = s.receiver ∧ t.reported = s.reported) :
      t.Remembers := inv.settle inv.sound rfl same
  cases event with
  | start | senderLoop | completeFrame | loseFrame | loseAck => exact unchanged ⟨rfl, rfl⟩
  | deliverFrame position => exact remembers_deliverFrame inv position
  | transmit peer =>
    simp only [step, transmit]
    split <;> exact unchanged ⟨rfl, rfl⟩
  | finish peer =>
    simp only [step, finish]
    split <;> exact unchanged ⟨rfl, rfl⟩
  | deliverAck position =>
    simp only [step, deliverAck]
    split
    · exact inv
    · split <;> exact unchanged ⟨rfl, rfl⟩
  | takeMessage =>
    cases run : s.receiver.takeApplicationMessage with
    | mk message receiver =>
      have sound := EspNowProtocolRuntime.sound_takeApplicationMessage inv.sound run
      obtain ⟨reassembler, ready, rfl⟩ := EspNowProtocolRuntime.takeApplicationMessage_eq run
      exact inv.settle sound rfl (by simp [step, run])
  | answer =>
    have sound := EspNowProtocolRuntime.sound_handed inv.sound s.receiver.deliveryAck none
    simp only [step, answer, EspNowProtocolRuntime.takeApplicationAck]
    split
    · exact inv
    · rename_i taken
      obtain rfl := (congrArg Prod.snd taken)
      exact inv.settle sound rfl ⟨rfl, rfl⟩

theorem reachable_remembers {participants : Participants} {s : Reception}
    (reachable : s.Reachable participants) : s.Remembers := by
  obtain ⟨events, rfl⟩ := reachable
  have inv := remembers_begin participants
  generalize begin participants = first at inv
  induction events generalizing first with
  | nil => exact inv
  | cons event events ih => exact ih _ (remembers_step inv event)

/-- An identity is only reported again after eight others have been reported. -/
theorem reports_spread {participants : Participants} {s : Reception}
    (reachable : s.Reachable participants) :
    ∀ n, ((s.reported.drop n).take (EspNowDuplicateCache.capacity + 1)).Nodup :=
  (reachable_remembers reachable).spread

def sampleParticipants : Participants where
  receiver := 0x2000
  peers peer := UInt64.ofNat (0x1000 + peer)
  policy := {}
  receiverNonzero := by decide
  peersNonzero := by decide
  peersDistinct := by
    unfold Function.Injective
    decide +kernel
  policyValid := by decide

/-- One message of one fragment, from its start to its application ACK in flight. -/
def exchange (peer : Fin 16) : List ReceptionEvent :=
  [.start peer .command 77 [1, 2, 3], .transmit peer, .deliverFrame 0, .completeFrame peer true 10,
    .takeMessage, .answer]

def twoExchanges : List ReceptionEvent := exchange 0 ++ [.loseAck 0] ++ exchange 1

theorem reports_spread_two_peers :
    (((twoExchanges.foldl step (begin sampleParticipants)).reported.drop 0).take
      (EspNowDuplicateCache.capacity + 1)).Nodup :=
  reports_spread ⟨twoExchanges, rfl⟩ 0

/-- The ACK of the first message is lost; before its second attempt eight peers deliver a
    message each. -/
def evictingRun : List ReceptionEvent :=
  exchange 0 ++ [.loseAck 0] ++
    [1, 2, 3, 4, 5, 6, 7, 8].flatMap (fun peer => exchange peer ++ [.deliverAck 0]) ++
    [.senderLoop 0 260, .transmit 0, .deliverFrame 0]

theorem evicted_identity_reported_again :
    ¬ ∀ (participants : Participants) (s : Reception), s.Reachable participants →
      s.reported.Nodup := by
  intro claimed
  have once := claimed sampleParticipants (evictingRun.foldl step (begin sampleParticipants))
    ⟨evictingRun, rfl⟩
  have twice : ¬ (evictingRun.foldl step (begin sampleParticipants)).reported.Nodup := by
    decide +kernel
  exact twice once

end Reception

end EspNowNet
