import EspNowNet.HeartbeatTrace

/- Heartbeats between endpoints joined by a channel that may lose, repeat, delay and reorder
   frames. A PONG that an endpoint counts was sent by its heartbeat peer in answer to the PING
   the endpoint waits for. -/
namespace EspNowNet
open EspNowNetProtocolComponent GuardedInvariant Relation

def heartbeatPing (bootId : UInt64) (sequence : UInt32) : HeartbeatPacket :=
  { requesterBoot := bootId, sequence }

/-- A PONG that answers a PING which came from the heartbeat peer. -/
def AnswersPing (peers : PeerRegistry) (peer : PeerIndex) (bootId : UInt64)
    (history : List EndpointEvent) (pong : HeartbeatPacket) : Prop :=
  ∃ (address : Vector UInt8 6) (ping : HeartbeatPacket),
    .frameReceived address ping.encode ∈ history ∧
    peers.indexForAddress address = peer ∧ ping.Valid ∧ ping.kind = 1 ∧
    pong = { ping with kind := 2, responderBoot := bootId }

/-- A heartbeat packet is only sent to the heartbeat peer, as a PING of this boot or as the answer
    to an earlier PING. -/
def SaysHeartbeat (peers : PeerRegistry) (peer : PeerIndex) (bootId : UInt64)
    (older : List EndpointEvent) : EndpointEvent → Prop
  | .frameSent out data => HeartbeatPacket.hasMagic data = true → out = peer ∧
      ∃ packet, data = packet.encode ∧
        ((∃ sequence, sequence ≠ 0 ∧ packet = heartbeatPing bootId sequence) ∨
          AnswersPing peers peer bootId older packet)
  | _ => True

theorem EndpointEvent.Beatless.saysHeartbeat {event : EndpointEvent} (beatless : event.Beatless)
    {peers : PeerRegistry} {peer : PeerIndex} {bootId : UInt64} (older : List EndpointEvent) :
    SaysHeartbeat peers peer bootId older event := by
  cases event with
  | frameSent out data =>
    intro magical
    rw [EndpointEvent.Beatless, magical] at beatless
    cases beatless
  | _ => trivial

theorem AnswersPing.grow {peers : PeerRegistry} {peer : PeerIndex} {bootId : UInt64}
    {history grown : List EndpointEvent} {pong : HeartbeatPacket}
    (answers : AnswersPing peers peer bootId history pong) (grows : history ⊆ grown) :
    AnswersPing peers peer bootId grown pong := by
  obtain ⟨address, ping, received, rest⟩ := answers
  exact ⟨address, ping, grows received, rest⟩

/-- What is awaited was sent, and what waits to be sent was asked for. -/
structure Heartbeats (peers : PeerRegistry) (peer : PeerIndex) (bootId : UInt64)
    (heartbeat : ApplicationHeartbeat) (history : List EndpointEvent) : Prop where
  target : heartbeat.peer = peer
  awaits : heartbeat.exchange.pending = true → ∃ sequence, sequence ≠ 0 ∧
    heartbeat.exchange.request = heartbeatPing bootId sequence ∧
    .frameSent peer (heartbeatPing bootId sequence).encode ∈ history
  replies : heartbeat.replyPending = true →
    AnswersPing peers peer bootId history heartbeat.reply
  each : Throughout (SaysHeartbeat peers peer bootId) history

section Heartbeats
variable {peers : PeerRegistry} {peer : PeerIndex} {bootId : UInt64}
  {heartbeat next : ApplicationHeartbeat} {history : List EndpointEvent}

theorem Heartbeats.aside (beats : Heartbeats peers peer bootId heartbeat history)
    (same : next = heartbeat ∨ next = heartbeat.disable) {events : List EndpointEvent}
    (beatless : ∀ event ∈ events, event.Beatless) :
    Heartbeats peers peer bootId next (events ++ history) := by
  have grows : history ⊆ events ++ history := List.subset_append_right _ _
  have each : Throughout (SaysHeartbeat peers peer bootId) (events ++ history) :=
    beats.each.append fun event member past => (beatless event member).saysHeartbeat past
  rcases same with rfl | rfl
  · refine ⟨beats.target, fun pending => ?_, fun pending => (beats.replies pending).grow grows, each⟩
    obtain ⟨sequence, nonzero, request, sent⟩ := beats.awaits pending
    exact ⟨sequence, nonzero, request, grows sent⟩
  · exact ⟨beats.target, fun pending => (Bool.false_ne_true pending).elim,
      fun pending => (Bool.false_ne_true pending).elim, each⟩

theorem Heartbeats.tick (beats : Heartbeats peers peer bootId heartbeat history)
    (nowMs : UInt32) : Heartbeats peers peer bootId (heartbeat.tick nowMs) history := by
  have expires : Heartbeats peers peer bootId
      (if heartbeat.exchange.expired nowMs then
        { heartbeat with exchange := heartbeat.exchange.reset, lost := heartbeat.lost + 1 }
      else heartbeat) history := by
    split
    · exact { beats with awaits := fun pending => (Bool.false_ne_true pending).elim }
    · exact beats
  have drops (h : ApplicationHeartbeat) (beats : Heartbeats peers peer bootId h history) :
      Heartbeats peers peer bootId
        (if h.replyPending ∧ nowMs - h.replyReceivedMs ≥ h.timeoutMs then
          { h with replyPending := false }
        else h) history := by
    split
    · exact { beats with replies := fun pending => (Bool.false_ne_true pending).elim }
    · exact beats
  exact drops _ expires

/-- What becomes of a received frame: nothing, a reply to be sent, or the end of the exchange. -/
theorem receive_cases (h : ApplicationHeartbeat) (received : EspNowReceivedFrame)
    (localBootId : UInt64) (nowMs : UInt32) :
    (h.receive received localBootId nowMs).2 = h ∨
      ∃ packet, HeartbeatPacket.decode received.frame.bytes = some packet ∧
        received.peerIndex = h.peer ∧
        (packet.kind = 1 ∧ (h.receive received localBootId nowMs).2 = { h with
            reply := { packet with kind := 2, responderBoot := localBootId }
            replyReceivedMs := nowMs, replyPending := true } ∨
          ∃ exchange, h.exchange.accept packet nowMs = (true, exchange) ∧
            (h.receive received localBootId nowMs).2 = { h with exchange, ok := h.ok + 1 }) := by
  unfold ApplicationHeartbeat.receive
  split
  · exact Or.inl rfl
  · split
    · exact Or.inl rfl
    · rename_i _ own
      split
      · exact Or.inl rfl
      · rename_i packet decodes
        split
        · rename_i ping
          split
          · exact Or.inl rfl
          · exact Or.inr ⟨packet, decodes, not_not.mp own, Or.inl ⟨ping, rfl⟩⟩
        · split
          · rename_i exchange accepted
            exact Or.inr ⟨packet, decodes, not_not.mp own, Or.inr ⟨exchange, accepted, rfl⟩⟩
          · exact Or.inl rfl

theorem valid_of_decode {data : List UInt8} {packet : HeartbeatPacket}
    (decodes : HeartbeatPacket.decode data = some packet) : packet.Valid := by
  unfold HeartbeatPacket.decode at decodes
  split at decodes
  · cases decodes
  · rename_i shape
    simp only at decodes
    split at decodes
    · cases decodes
    · rename_i fields
      simp only [not_or, not_and] at shape fields
      obtain rfl := Option.some.inj decodes
      refine ⟨?_, fields.1, fields.2.1, fields.2.2⟩
      have kind := shape.2.2
      by_cases ping : byteAt data 4 = 1
      · exact Or.inl ping
      · exact Or.inr (not_not.mp (kind ping))

theorem Heartbeats.receive (beats : Heartbeats peers peer bootId heartbeat history)
    {received : EspNowReceivedFrame}
    (came : Came peers history received.peerIndex received.frame.bytes) (nowMs : UInt32) :
    Heartbeats peers peer bootId (heartbeat.receive received bootId nowMs).2 history := by
  rcases receive_cases heartbeat received bootId nowMs with
    same | ⟨packet, decodes, own, ⟨ping, same⟩ | ⟨exchange, accepted, same⟩⟩
  · rw [same]
    exact beats
  · have bytes := HeartbeatPacket.encode_of_decode decodes
    rw [same]
    refine { beats with replies := fun _ => ?_ }
    rcases came with empty | ⟨address, member, index⟩
    · rw [empty] at decodes
      cases decodes
    · exact ⟨address, packet, bytes ▸ member, index.trans (own.trans beats.target),
        valid_of_decode decodes, ping, rfl⟩
  · have ended := HeartbeatExchange.accept_true accepted
    rw [same]
    refine { beats with awaits := fun pending => ?_ }
    rw [ended.2] at pending
    exact (Bool.false_ne_true pending).elim

/-- The packet that is sent next is a reply that was waiting or a new PING. -/
theorem prepare_cases {packet : HeartbeatPacket} {localBootId : UInt64} {nowMs : UInt32}
    (prepared : heartbeat.prepare localBootId nowMs = (some packet, next)) :
    heartbeat.replyPending = true ∧ packet = heartbeat.reply ∧
        next = { heartbeat with replyPending := false } ∨
      ∃ sequence, sequence ≠ 0 ∧ packet = heartbeatPing localBootId sequence ∧
        heartbeat.replyPending = false ∧
        next = { heartbeat with
          lastAttemptMs := nowMs, sequence, sent := heartbeat.sent + 1 } ∧
        heartbeat.exchange.pending = false := by
  unfold ApplicationHeartbeat.prepare at prepared
  split at prepared
  · rename_i pending
    obtain ⟨first, second⟩ := Prod.mk.inj prepared
    exact Or.inl ⟨pending, (Option.some.inj first).symm, second.symm⟩
  · rename_i silent
    split at prepared
    · cases prepared
    · rename_i due
      simp only [not_or, Bool.not_eq_true] at due silent
      obtain ⟨first, second⟩ := Prod.mk.inj prepared
      exact Or.inr ⟨nextSequence heartbeat.sequence, nextSequence_ne_zero _,
        (Option.some.inj first).symm, silent, second.symm, due.2.1⟩

/-- What is sent is recorded in front of the history that explains it. -/
theorem Heartbeats.sent (beats : Heartbeats peers peer bootId heartbeat history)
    {packet : HeartbeatPacket} {nowMs : UInt32}
    (prepared : heartbeat.prepare bootId nowMs = (some packet, next)) :
    Heartbeats peers peer bootId (next.transmitted packet true nowMs)
      (.frameSent peer packet.encode :: history) := by
  have grows : history ⊆ .frameSent peer packet.encode :: history := List.subset_cons_self _ _
  rcases prepare_cases prepared with
    ⟨pending, rfl, rfl⟩ | ⟨sequence, nonzero, rfl, silent, rfl, idle⟩
  · have answers := beats.replies pending
    have pong : heartbeat.reply.kind = 2 := by
      obtain ⟨_, _, _, _, _, _, same⟩ := answers
      rw [same]
    have unchanged : ApplicationHeartbeat.transmitted { heartbeat with replyPending := false }
        heartbeat.reply true nowMs = { heartbeat with replyPending := false } := if_pos pong
    rw [unchanged]
    refine ⟨beats.target, fun awaited => ?_, fun still => (Bool.false_ne_true still).elim, ?_⟩
    · obtain ⟨sequence, nonzero, request, sent⟩ := beats.awaits awaited
      exact ⟨sequence, nonzero, request, grows sent⟩
    · exact throughout_cons.mpr ⟨fun _ => ⟨rfl, heartbeat.reply, rfl, Or.inr answers⟩, beats.each⟩
  · refine ⟨beats.target, fun _ => ?_, fun still => ?_, ?_⟩
    · exact ⟨sequence, nonzero, rfl, List.mem_cons_self⟩
    · exact (Bool.false_ne_true (silent.symm.trans still)).elim
    · exact throughout_cons.mpr
        ⟨fun _ => ⟨rfl, _, rfl, Or.inl ⟨sequence, nonzero, rfl⟩⟩, beats.each⟩

/-- A refused PONG is forgotten, and a refused PING only counted. -/
theorem Heartbeats.refused (beats : Heartbeats peers peer bootId heartbeat history)
    {packet : HeartbeatPacket} {nowMs : UInt32}
    (prepared : heartbeat.prepare bootId nowMs = (some packet, next)) :
    Heartbeats peers peer bootId (next.transmitted packet false nowMs) history := by
  rcases prepare_cases prepared with
    ⟨pending, rfl, rfl⟩ | ⟨sequence, nonzero, rfl, silent, rfl, idle⟩
  · have pong : heartbeat.reply.kind = 2 := by
      obtain ⟨_, _, _, _, _, _, same⟩ := beats.replies pending
      rw [same]
    have unchanged : ApplicationHeartbeat.transmitted { heartbeat with replyPending := false }
        heartbeat.reply false nowMs = { heartbeat with replyPending := false } := if_pos pong
    rw [unchanged]
    exact { beats with replies := fun still => (Bool.false_ne_true still).elim }
  · exact { beats with }

end Heartbeats

/-- The endpoint has run, and its heartbeat is what its history says. -/
structure Beating (config : Configuration) (random : UInt64) (e : EspNowNetProtocolComponent) :
    Prop where
  runs : EndpointMoves (setup config random) e
  beats : Heartbeats config.peers config.heartbeat.peer (setup config random).localBootId
    e.heartbeat e.history

section Beating
variable {config : Configuration} {random : UInt64} {e e' : EspNowNetProtocolComponent}

theorem Beating.move (beating : Beating config random e) (move : HeartbeatMove e e') :
    Beating config random e' := by
  have runs : EndpointMoves (setup config random) e' := beating.runs.trans move.moves
  have traced := traced_moves beating.runs
  obtain ⟨_, beats⟩ := beating
  refine ⟨runs, ?_⟩
  cases move with
  | aside moves aside =>
    obtain ⟨events, history, beatless⟩ := aside.history
    rw [history]
    exact beats.aside aside.heartbeat beatless
  | ticked nowMs =>
    unfold heartbeatTick
    split
    · exact beats.tick nowMs
    · exact beats
  | received receivedMs =>
    unfold processReceivedFrame
    cases taken : e.radio.takeReceivedFrame with
    | mk popped radio =>
      cases popped with
      | none => exact beats
      | some received =>
        have accepted (e' : EspNowNetProtocolComponent) (aside : HeartbeatAside e e') :
            Heartbeats config.peers config.heartbeat.peer (setup config random).localBootId
              e'.heartbeat e'.history := by
          obtain ⟨events, history, beatless⟩ := aside.beatless.history
          rw [history]
          exact beats.aside aside.heartbeat beatless
        have member := (EspIdfEspNowEncryptedRadio.takeReceivedFrame_some taken).1
        have came := traced.inbox.entries received member
        rw [traced.peers] at came
        have updated := beats.receive came receivedMs
        rw [← traced.boot] at updated
        have kept : HeartbeatAside e { e with radio } := .kept rfl rfl
        simp only
        split
        · split
          · rename_i heartbeat run
            rw [run] at updated
            rw [traced.boot] at updated
            exact updated
          · exact accepted _ (kept.trans (acceptProtocolFrame_aside _ received))
        · exact accepted _ (kept.trans (acceptProtocolFrame_aside _ received))
  | dispatched nowMs accepted =>
    unfold dispatchHeartbeat
    split
    · exact beats
    · cases prepared : e.heartbeat.prepare e.localBootId nowMs with
      | mk packet heartbeat =>
        cases packet with
        | none =>
          rw [ApplicationHeartbeat.prepare_none prepared]
          exact beats
        | some packet =>
          have boot := prepared
          rw [traced.boot] at boot
          rcases transmit_cases { e with heartbeat } .heartbeat e.heartbeat.peer packet.encode
            accepted with refused | ⟨radio, _, sent⟩
          · simp only [refused]
            exact beats.refused boot
          · simp only [sent]
            rw [← beats.target]
            have after := beats.sent boot
            rw [← beats.target] at after
            exact after

theorem beating_moves (moves : HeartbeatMoves (setup config random) e)
    (fresh : ∃ peer intervalMs timeoutMs, config.heartbeat = { peer, intervalMs, timeoutMs }) :
    Beating config random e := by
  induction moves with
  | refl =>
    refine ⟨.refl, rfl, fun pending => ?_, fun pending => ?_, throughout_nil⟩
    · obtain ⟨peer, intervalMs, timeoutMs, same⟩ := fresh
      simp [setup, same] at pending
    · obtain ⟨peer, intervalMs, timeoutMs, same⟩ := fresh
      simp [setup, same] at pending
  | tail earlier last ih => exact ih.move last

end Beating

/-- An accepted reply is a PONG to the request that is pending. -/
theorem accepted_reply {x x' : HeartbeatExchange} {reply : HeartbeatPacket} {nowMs : UInt32}
    (accepted : x.accept reply nowMs = (true, x')) : x.pending = true ∧ reply.kind = 2 ∧
      reply.requesterBoot = x.request.requesterBoot ∧ reply.sequence = x.request.sequence := by
  unfold HeartbeatExchange.accept at accepted
  split at accepted
  · cases accepted
  · rename_i fits
    simp only [not_or, not_not] at fits
    exact ⟨fits.1, fits.2.2.1, fits.2.2.2.2.1, fits.2.2.2.2.2⟩

/- What a sent packet says -/

theorem heartbeatPing_valid {bootId : UInt64} {sequence : UInt32} (boot : bootId ≠ 0)
    (nonzero : sequence ≠ 0) : (heartbeatPing bootId sequence).Valid where
  kind := Or.inl rfl
  requester := boot
  sequence := nonzero
  responder pong := absurd pong (by decide : (1 : UInt8) ≠ 2)

theorem pong_valid {ping : HeartbeatPacket} (valid : ping.Valid) {bootId : UInt64}
    (boot : bootId ≠ 0) :
    HeartbeatPacket.Valid { ping with kind := 2, responderBoot := bootId } where
  kind := Or.inr rfl
  requester := valid.requester
  sequence := valid.sequence
  responder _ := boot

theorem magic_of_decode {data : List UInt8} {packet : HeartbeatPacket}
    (decodes : HeartbeatPacket.decode data = some packet) :
    HeartbeatPacket.hasMagic data = true := by
  unfold HeartbeatPacket.decode at decodes
  split at decodes
  · cases decodes
  · rename_i shape
    simp only [not_or, Bool.not_eq_false] at shape
    exact shape.1

theorem encode_injective {one other : HeartbeatPacket} (first : one.Valid) (second : other.Valid)
    (same : one.encode = other.encode) : one = other := by
  have decodes := HeartbeatPacket.decode_encode first
  rw [same, HeartbeatPacket.decode_encode second] at decodes
  exact (Option.some.inj decodes).symm

theorem setup_boot (config : Configuration) (random : UInt64) :
    (setup config random).localBootId ≠ 0 := by
  simp only [setup]
  split
  · decide
  · assumption

/-- A packet that was sent is a PING of the sender, or a PONG to what it had received. -/
theorem Heartbeats.said {peers : PeerRegistry} {peer out : PeerIndex} {bootId : UInt64}
    {heartbeat : ApplicationHeartbeat} {history : List EndpointEvent} {packet : HeartbeatPacket}
    (beats : Heartbeats peers peer bootId heartbeat history) (boot : bootId ≠ 0)
    (valid : packet.Valid) (sent : .frameSent out packet.encode ∈ history) :
    out = peer ∧ ∃ older, .frameSent out packet.encode :: older <:+ history ∧
      ((∃ sequence, packet = heartbeatPing bootId sequence) ∨
        AnswersPing peers peer bootId older packet) := by
  obtain ⟨later, older, split⟩ := List.append_of_mem sent
  have present : .frameSent out packet.encode :: older <:+ history := ⟨later, split.symm⟩
  have magical := magic_of_decode (HeartbeatPacket.decode_encode valid)
  obtain ⟨own, other, same, ⟨sequence, nonzero, ping⟩ | answers⟩ :=
    beats.each _ older present magical
  · rw [ping] at same
    have identical := encode_injective valid (heartbeatPing_valid boot nonzero) same
    exact ⟨own, older, present, Or.inl ⟨sequence, identical⟩⟩
  · have answering := answers
    obtain ⟨_, asked, _, _, wellFormed, _, rfl⟩ := answering
    have identical := encode_injective valid (pong_valid wellFormed boot) same
    rw [← identical] at answers
    exact ⟨own, older, present, Or.inr answers⟩

/- The network -/

/-- A deployment in which no heartbeat has begun. -/
structure HeartbeatDeployment (ι : Type) extends Deployment ι where
  fresh : ∀ i, ∃ peer intervalMs timeoutMs, (config i).heartbeat = { peer, intervalMs, timeoutMs }

section Network
variable {ι : Type} {d : HeartbeatDeployment ι} {n n' : Network ι}

/-- A packet that an endpoint received was sent to it by an endpoint at the peer's address. -/
theorem Consistent.beat (consistent : Consistent d.toDeployment n) (i : ι) {address : Vector UInt8 6}
    {packet : HeartbeatPacket} (beating : ∀ j, Beating (d.config j) (d.random j) (n j))
    (valid : packet.Valid) (received : .frameReceived address packet.encode ∈ (n i).history) :
    ∃ j older, d.address j = address ∧
      d.peerAddress j (d.config j).heartbeat.peer = some (d.address i) ∧
      .frameSent (d.config j).heartbeat.peer packet.encode :: older <:+ (n j).history ∧
      ((∃ sequence, packet = heartbeatPing (setup (d.config j) (d.random j)).localBootId sequence) ∨
        AnswersPing (d.config j).peers (d.config j).heartbeat.peer
          (setup (d.config j) (d.random j)).localBootId older packet) := by
  obtain ⟨j, out, sent, addressed, own⟩ := consistent.carried i address packet.encode received
  obtain ⟨rfl, older, present, told⟩ := (beating j).beats.said (setup_boot _ _) valid sent
  exact ⟨j, older, own, addressed, present, told⟩

variable [DecidableEq ι]

/-- One endpoint makes a move, and has received only what was sent to it. -/
inductive HeartbeatNetworkMove (d : HeartbeatDeployment ι) (n : Network ι) : Network ι → Prop
  | move (i : ι) {e' : EspNowNetProtocolComponent} (move : HeartbeatMove (n i) e')
      (carried : ∀ address data, .frameReceived address data ∈ e'.history →
        d.Carries n i address data) : HeartbeatNetworkMove d n (Function.update n i e')

abbrev HeartbeatNetworkMoves (d : HeartbeatDeployment ι) := ReflTransGen (HeartbeatNetworkMove d)

theorem HeartbeatNetworkMoves.networkMoves (run : HeartbeatNetworkMoves d n n') :
    NetworkMoves d.toDeployment n n' := by
  induction run with
  | refl => exact .refl
  | tail earlier last ih =>
    obtain ⟨i, move, carried⟩ := last
    exact ih.trans (endpoint_networkMoves i move.moves carried)

theorem beating_network (run : HeartbeatNetworkMoves d d.begin n) (i : ι) :
    Beating (d.config i) (d.random i) (n i) := by
  have each := GuardedInvariant.preserved
    (fun n : Network ι => ∀ i, HeartbeatMoves (setup (d.config i) (d.random i)) (n i)) ?_ run
    (fun _ => .refl)
  · exact beating_moves (each i) (d.fresh i)
  · intro n n' runs move j
    obtain ⟨i, move, carried⟩ := move
    by_cases same : j = i
    · subst same
      rw [Function.update_self]
      exact (runs j).tail move
    · rw [Function.update_of_ne same]
      exact runs j

/-- A counted PONG is one that the exchange accepts, in a frame from the heartbeat peer. -/
theorem counted_pong {e : EspNowNetProtocolComponent} {receivedMs : UInt32}
    (counted : (e.processReceivedFrame receivedMs).heartbeat.ok ≠ e.heartbeat.ok) :
    ∃ received ∈ e.radio.receivedFrames.entries, ∃ packet exchange,
      HeartbeatPacket.decode received.frame.bytes = some packet ∧
      received.peerIndex = e.heartbeat.peer ∧
      e.heartbeat.exchange.accept packet receivedMs = (true, exchange) := by
  unfold processReceivedFrame at counted
  cases taken : e.radio.takeReceivedFrame with
  | mk popped radio =>
    rw [taken] at counted
    cases popped with
    | none => exact absurd rfl counted
    | some received =>
      have other (e' : EspNowNetProtocolComponent) (aside : HeartbeatAside e e') :
          e'.heartbeat.ok = e.heartbeat.ok := by
        rcases aside.heartbeat with same | same
        · rw [same]
        · rw [same]
          rfl
      have kept : HeartbeatAside e { e with radio } := .kept rfl rfl
      simp only at counted
      split at counted
      · split at counted
        · rename_i heartbeat run
          rcases receive_cases e.heartbeat received e.localBootId receivedMs with
            same | ⟨packet, decodes, own, ⟨_, same⟩ | ⟨exchange, accepted, _⟩⟩
          · rw [run] at same
            exact absurd (congrArg ApplicationHeartbeat.ok same) counted
          · rw [run] at same
            exact absurd (congrArg ApplicationHeartbeat.ok same) counted
          · have member := (EspIdfEspNowEncryptedRadio.takeReceivedFrame_some taken).1
            exact ⟨received, member, packet, exchange, decodes, own, accepted⟩
        · exact absurd (other _ (kept.trans (acceptProtocolFrame_aside _ received))) counted
      · exact absurd (other _ (kept.trans (acceptProtocolFrame_aside _ received))) counted

/-- Whenever a PONG is counted, an endpoint at the heartbeat peer's address has sent it, after it
    had received the very PING that is awaited, which this endpoint had sent to it. -/
theorem counted_pong_answers_ping (run : HeartbeatNetworkMoves d d.begin n) (a : ι)
    (receivedMs : UInt32)
    (counted : ((n a).processReceivedFrame receivedMs).heartbeat.ok ≠ (n a).heartbeat.ok) :
    ∃ b older sequence,
      let ping := heartbeatPing (setup (d.config a) (d.random a)).localBootId sequence
      let pong := { ping with
        kind := 2, responderBoot := (setup (d.config b) (d.random b)).localBootId }
      (n a).heartbeat.exchange.request = ping ∧
      (d.config a).peers.indexForAddress (d.address b) = (d.config a).heartbeat.peer ∧
      .frameSent (d.config a).heartbeat.peer ping.encode ∈ (n a).history ∧
      d.peerAddress b (d.config b).heartbeat.peer = some (d.address a) ∧
      .frameSent (d.config b).heartbeat.peer pong.encode :: older <:+ (n b).history ∧
      .frameReceived (d.address a) ping.encode ∈ older := by
  have consistent := consistent_moves run.networkMoves
  have beating := beating_network run
  obtain ⟨received, member, packet, exchange, decodes, own, accepted⟩ := counted_pong counted
  obtain ⟨pending, kind, boot, same⟩ := accepted_reply accepted
  obtain ⟨sequence, nonzero, request, sent⟩ := (beating a).beats.awaits pending
  have came := (consistent.traced a).inbox.entries received member
  rw [(consistent.traced a).peers] at came
  have valid := valid_of_decode decodes
  have bytes := HeartbeatPacket.encode_of_decode decodes
  rcases came with empty | ⟨address, arrived, index⟩
  · rw [empty] at decodes
    cases decodes
  · rw [← bytes] at arrived
    obtain ⟨b, older, there, addressed, present, ⟨other, ping⟩ | answers⟩ :=
      consistent.beat a beating valid arrived
    · rw [ping] at kind
      exact absurd kind (by decide : (1 : UInt8) ≠ 2)
    · obtain ⟨from', asked, asking, _, wellFormed, isPing, pong⟩ := answers
      have before : .frameReceived from' asked.encode ∈ (n b).history :=
        present.subset (List.mem_cons_of_mem _ asking)
      -- the PING that was answered was sent by the endpoint whose boot id it carries
      obtain ⟨k, _, here, _, _, ⟨number, own'⟩ | ⟨_, _, _, _, _, _, other⟩⟩ :=
        consistent.beat b beating wellFormed before
      · have requester : asked.requesterBoot = (n a).heartbeat.exchange.request.requesterBoot := by
          rw [← boot, pong]
        have numbered : asked.sequence = (n a).heartbeat.exchange.request.sequence := by
          rw [← same, pong]
        rw [request] at requester numbered
        obtain rfl : k = a := by
          apply d.bootIdsDistinct
          rw [own'] at requester
          exact requester
        rw [own'] at numbered
        obtain rfl : number = sequence := numbered
        subst own' pong
        refine ⟨b, older, number, request, ?_, sent, addressed, present, ?_⟩
        · rw [there, index, own, (beating k).beats.target]
        · rw [here]
          exact asking
      · rw [other] at isPing
        exact absurd isPing (by decide : (2 : UInt8) ≠ 1)

/-- Whatever one endpoint does is a run of the network, if it has received what was sent to it. -/
theorem endpoint_heartbeatMoves (i : ι) {last : EspNowNetProtocolComponent}
    (run : HeartbeatMoves (n i) last) (carried : ∀ address data,
      .frameReceived address data ∈ last.history → d.Carries n i address data) :
    HeartbeatNetworkMoves d n (Function.update n i last) := by
  induction run with
  | refl =>
    rw [Function.update_eq_self]
  | @tail middle last earlier move ih =>
    have grown := (GuardedInvariant.extends_run move_extends move.moves).subset
    have before := ih fun address data member => carried address data (grown member)
    have own := update_grows i
      (GuardedInvariant.extends_run move_extends (HeartbeatMoves.moves earlier)).subset
    have next : HeartbeatNetworkMove d (Function.update n i middle)
        (Function.update (Function.update n i middle) i last) :=
      .move i (by rwa [Function.update_self]) fun address data member =>
        (carried address data member).grow own
    rw [Function.update_idem] at next
    exact before.tail next

end Network

/- Two endpoints, the first of which sends a PING to the second -/

def beatingDeployment : HeartbeatDeployment Bool where
  address := sampleAddress
  config second :=
    { build := { applicationHeartbeat := true }
      heartbeat := { peer := 0, intervalMs := if second then 0 else 1000 }
      peers := peerAt (sampleAddress !second) }
  random second := if second then 2 else 1
  bootIdsDistinct := by
    unfold Function.Injective
    decide
  fresh _ := ⟨_, _, _, rfl⟩

def pingSent : EspNowNetProtocolComponent :=
  (beatingDeployment.begin false).run (radioReady ++ [.loop { nowMs := 5251 }])

def pongSent : EspNowNetProtocolComponent :=
  (beatingDeployment.begin true).run (radioReady ++
    [.driver (.receiveCallback (sampleAddress false) (heartbeatPing 1 1).encode),
      .loop { nowMs := 5252 }])

def pongArrived : EspNowNetProtocolComponent :=
  pingSent.run [.driver (.sendCallback 0 true), .driver (.receiveCallback (sampleAddress true)
    (HeartbeatPacket.encode { kind := 2, requesterBoot := 1, sequence := 1, responderBoot := 2 }))]

def beatingNetwork : Network Bool :=
  Function.update (Function.update (Function.update beatingDeployment.begin false pingSent)
    true pongSent) false pongArrived

theorem beatingNetwork_moves :
    HeartbeatNetworkMoves beatingDeployment beatingDeployment.begin beatingNetwork := by
  have sent : HeartbeatNetworkMoves beatingDeployment beatingDeployment.begin
      (Function.update beatingDeployment.begin false pingSent) :=
    endpoint_heartbeatMoves false (run_heartbeatMoves _ _)
      (carried_of_received [] (by decide +kernel) (by simp))
  have answered := endpoint_heartbeatMoves (d := beatingDeployment)
    (n := Function.update beatingDeployment.begin false pingSent) true
    (run_heartbeatMoves _ _ : HeartbeatMoves _ pongSent)
    (carried_of_received [(sampleAddress false, (heartbeatPing 1 1).encode)] (by decide +kernel) (by
      intro frame member
      obtain rfl := List.mem_singleton.mp member
      exact ⟨false, 0, by decide +kernel, by decide +kernel, rfl⟩))
  have arrived := endpoint_heartbeatMoves (d := beatingDeployment)
    (n := Function.update (Function.update beatingDeployment.begin false pingSent) true pongSent)
    false (run_heartbeatMoves _ _ : HeartbeatMoves _ pongArrived)
    (carried_of_received [(sampleAddress true, HeartbeatPacket.encode
        { kind := 2, requesterBoot := 1, sequence := 1, responderBoot := 2 })]
      (by decide +kernel) (by
        intro frame member
        obtain rfl := List.mem_singleton.mp member
        exact ⟨true, 0, by decide +kernel, by decide +kernel, rfl⟩))
  exact (sent.trans answered).trans arrived

theorem counted_pong_answers_ping_two_endpoints :
    ∃ b older sequence,
      let ping := heartbeatPing
        (setup (beatingDeployment.config false) (beatingDeployment.random false)).localBootId
        sequence
      let pong := { ping with
        kind := 2
        responderBoot :=
          (setup (beatingDeployment.config b) (beatingDeployment.random b)).localBootId }
      (beatingNetwork false).heartbeat.exchange.request = ping ∧
      (beatingDeployment.config false).peers.indexForAddress (beatingDeployment.address b) =
        (beatingDeployment.config false).heartbeat.peer ∧
      .frameSent (beatingDeployment.config false).heartbeat.peer ping.encode ∈
        (beatingNetwork false).history ∧
      beatingDeployment.peerAddress b (beatingDeployment.config b).heartbeat.peer =
        some (beatingDeployment.address false) ∧
      .frameSent (beatingDeployment.config b).heartbeat.peer pong.encode :: older <:+
        (beatingNetwork b).history ∧
      .frameReceived (beatingDeployment.address false) ping.encode ∈ older :=
  counted_pong_answers_ping beatingNetwork_moves false 5260 (by decide +kernel)

end EspNowNet
