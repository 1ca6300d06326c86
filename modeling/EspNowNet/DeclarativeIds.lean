import EspNowNet.EventOrigins
import Mathlib.Data.List.Induction

/- The transaction ids `send_command` draws. The counter starts again with every boot, but
   within one boot no id comes twice. -/
namespace EspNowNet
open EspNowNetProtocolComponent GuardedInvariant

def EndpointEvent.declaredId : EndpointEvent → Option TransactionId
  | .commandDeclared transactionId => some transactionId
  | _ => none

/-- The ids drawn so far, newest first. -/
def declaredIds (history : List EndpointEvent) : List TransactionId :=
  history.filterMap EndpointEvent.declaredId

/-- How many ids the counter runs through before it starts again. -/
def declarativeIdCount : Nat := 2 ^ 60 - 1

theorem taggedId_toNat {id : UInt64} (small : id.toNat < 2 ^ 60) :
    (0xE000000000000000 ||| id).toNat = 0xE000000000000000 + id.toNat := by
  rw [UInt64.toNat_or]
  have split : (0xE000000000000000 : UInt64).toNat = 14 <<< 60 := by decide
  rw [split, ← Nat.shiftLeft_add_eq_or_of_lt small]
  rfl

theorem nextDeclarativeId_toNat {id : UInt64} (more : id.toNat < declarativeIdCount) :
    (nextDeclarativeId id).toNat = id.toNat + 1 := by
  unfold declarativeIdCount at more
  have sum : (id + 1).toNat = id.toNat + 1 := by
    rw [UInt64.toNat_add]
    simp only [UInt64.reduceToNat]
    omega
  unfold nextDeclarativeId
  rw [if_neg]
  · exact sum
  · rintro (zero | large)
    · have := congrArg UInt64.toNat zero
      rw [sum] at this
      simp at this
    · rw [gt_iff_lt, UInt64.lt_iff_toNat_lt, sum] at large
      simp only [UInt64.reduceToNat] at large
      omega

variable {e e' : EspNowNetProtocolComponent}

theorem EndpointEvent.Unasked.undeclared {event : EndpointEvent} (unasked : event.Unasked) :
    event.declaredId = none := by
  cases event <;> first | rfl | exact unasked.elim

theorem declaredIds_append {events older : List EndpointEvent}
    (undeclared : ∀ event ∈ events, event.declaredId = none) :
    declaredIds (events ++ older) = declaredIds older := by
  rw [declaredIds, List.filterMap_append, List.filterMap_eq_nil_iff.mpr undeclared,
    List.nil_append, declaredIds]

theorem OriginStep.drawn (step : OriginStep e e') :
    (e'.nextDeclarativeTransactionId = e.nextDeclarativeTransactionId ∧
        declaredIds e'.history = declaredIds e.history) ∨
      e'.nextDeclarativeTransactionId = nextDeclarativeId e.nextDeclarativeTransactionId ∧
        declaredIds e'.history =
          (0xE000000000000000 ||| e.nextDeclarativeTransactionId) :: declaredIds e.history := by
  cases step with
  | declared same notification next history => exact Or.inr ⟨next, by rw [history]; rfl⟩
  | aside kept history unasked =>
    refine Or.inl ⟨kept.declarative, ?_⟩
    rw [history]
    exact declaredIds_append fun event member => (unasked event member).undeclared
  | given kept peeked given history =>
    refine Or.inl ⟨kept.declarative, ?_⟩
    rw [history]
    cases given <;> rfl
  | finished same declarative notification own history =>
    exact Or.inl ⟨declarative, by rw [history]; rfl⟩
  | started kept command transaction history | verified kept accepted decodes verifies history
    | offered kept ready history | delivered kept offered history =>
    exact Or.inl ⟨kept.declarative, by rw [history]; rfl⟩

/-- The ids drawn so far are different and lie below the next one. -/
structure Counted (e : EspNowNetProtocolComponent) : Prop where
  next : e.nextDeclarativeTransactionId.toNat = (declaredIds e.history).length + 1
  below : ∀ id ∈ declaredIds e.history,
    id.toNat < 0xE000000000000000 + e.nextDeclarativeTransactionId.toNat
  distinct : (declaredIds e.history).Nodup

theorem Counted.step (counted : Counted e)
    (few : (declaredIds e'.history).length < declarativeIdCount) (step : OriginStep e e') :
    Counted e' := by
  rcases step.drawn with ⟨next, same⟩ | ⟨next, drawn⟩
  · constructor
    · rw [next, same, counted.next]
    · rw [next, same]
      exact counted.below
    · rw [same]
      exact counted.distinct
  · rw [drawn, List.length_cons] at few
    have more : e.nextDeclarativeTransactionId.toNat < declarativeIdCount := by
      rw [counted.next]
      exact few
    have small : e.nextDeclarativeTransactionId.toNat < 2 ^ 60 := by
      unfold declarativeIdCount at more
      omega
    have tagged := taggedId_toNat small
    constructor
    · rw [next, nextDeclarativeId_toNat more, drawn, List.length_cons, counted.next]
    · intro id member
      rw [next, nextDeclarativeId_toNat more]
      rw [drawn] at member
      rcases List.mem_cons.mp member with rfl | older
      · omega
      · have := counted.below id older
        omega
    · rw [drawn, List.nodup_cons]
      refine ⟨fun member => ?_, counted.distinct⟩
      have := counted.below _ member
      omega

theorem declared_fewer {older newer : List EndpointEvent} (extended : older <:+ newer)
    (few : (declaredIds newer).length < declarativeIdCount) :
    (declaredIds older).length < declarativeIdCount := by
  obtain ⟨events, rfl⟩ := extended
  rw [declaredIds, List.filterMap_append, List.length_append] at few
  unfold declaredIds
  omega

theorem counted_moves {config : Configuration} {random : UInt64}
    (moves : EndpointMoves (setup config random) e)
    (few : (declaredIds e.history).length < declarativeIdCount) : Counted e := by
  refine guardedBy move_extends (fun history => (declaredIds history).length < declarativeIdCount)
    declared_fewer Counted ?_ moves ?_ few
  · exact fun few counted move => counted.step few (move_origin move)
  · exact ⟨rfl, by simp [setup, declaredIds], by simp [setup, declaredIds]⟩

/- Commands that are only sent under drawn ids -/

def EndpointEvent.startedCommand (event : EndpointEvent) : Option OutboundMessage :=
  event.startedMessage.filter fun message => message.envelope.kind = .command

def commandMessages (history : List EndpointEvent) : List OutboundMessage :=
  history.filterMap EndpointEvent.startedCommand

def commandIds (history : List EndpointEvent) : List TransactionId :=
  (commandMessages history).map (·.envelope.transactionId)

/-- A COMMAND message is started right after its id has been drawn. -/
def StartsDeclared (older : List EndpointEvent) (event : EndpointEvent) : Prop :=
  ∀ message ∈ event.startedCommand,
    older.head? = some (.commandDeclared message.envelope.transactionId)

instance decidableStartsDeclared (older : List EndpointEvent) (event : EndpointEvent) :
    Decidable (StartsDeclared older event) :=
  Option.decidableForallMem _

/-- The application sends its commands through `send_command` alone. -/
def OnlyDeclared (history : List EndpointEvent) : Prop := Throughout StartsDeclared history

instance decidableOnlyDeclared (history : List EndpointEvent) : Decidable (OnlyDeclared history) :=
  inferInstanceAs (Decidable (Throughout StartsDeclared history))

theorem mem_commandMessages {history : List EndpointEvent} {message : OutboundMessage} :
    message ∈ commandMessages history ↔
      message ∈ startedMessages history ∧ message.envelope.kind = .command := by
  simp only [commandMessages, startedMessages, List.mem_filterMap, EndpointEvent.startedCommand,
    Option.filter_eq_some_iff, decide_eq_true_eq]
  constructor
  · rintro ⟨event, member, starts, command⟩
    exact ⟨⟨event, member, starts⟩, command⟩
  · rintro ⟨⟨event, member, starts⟩, command⟩
    exact ⟨event, member, starts, command⟩

theorem commandIds_sublist {history : List EndpointEvent} (only : OnlyDeclared history) :
    (commandIds history).Sublist (declaredIds history) ∧
      ∀ id, history.head? = some (.commandDeclared id) →
        (id :: commandIds history).Sublist (declaredIds history) := by
  induction history with
  | nil => exact ⟨List.Sublist.refl _, by simp⟩
  | cons event older hyp =>
    obtain ⟨allowed, earlier⟩ := throughout_cons.mp only
    obtain ⟨weak, strong⟩ := hyp earlier
    cases event with
    | commandDeclared id =>
      have drawn : declaredIds (.commandDeclared id :: older) = id :: declaredIds older := rfl
      have same : commandIds (.commandDeclared id :: older) = commandIds older := rfl
      rw [drawn, same]
      constructor
      · exact weak.cons id
      · intro other first
        obtain rfl : id = other := by simpa using first
        exact weak.cons_cons id
    | messageStarted peer envelope data =>
      refine ⟨?_, by simp⟩
      have undrawn : declaredIds (.messageStarted peer envelope data :: older) =
          declaredIds older := rfl
      rw [undrawn, commandIds, commandMessages]
      cases starts : EndpointEvent.startedCommand (.messageStarted peer envelope data) with
      | none =>
        rw [List.filterMap_cons_none starts]
        exact weak
      | some message =>
        rw [List.filterMap_cons_some starts]
        exact strong message.envelope.transactionId (allowed message starts)
    | _ => exact ⟨weak, by simp⟩

/-- Within one boot, an id names one COMMAND message. -/
theorem commandMessage_unique {config : Configuration} {random : UInt64}
    (moves : EndpointMoves (setup config random) e)
    (few : (declaredIds e.history).length < declarativeIdCount) (only : OnlyDeclared e.history)
    {message other : OutboundMessage} (member : message ∈ commandMessages e.history)
    (second : other ∈ commandMessages e.history)
    (same : message.envelope.transactionId = other.envelope.transactionId) : message = other := by
  have distinct : (commandIds e.history).Nodup :=
    (commandIds_sublist only).1.nodup (counted_moves moves few).distinct
  exact List.inj_on_of_nodup_map distinct member second same

end EspNowNet
