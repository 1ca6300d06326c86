import Mathlib.Data.List.TakeWhile

/- Fixed-capacity values and the identities built from them. A text or a byte
   string carries its own bound, so no stored value is ever longer than its slot. -/
namespace EspNowNet

abbrev TransactionId := UInt64
abbrev PeerIndex := UInt8

def invalidPeerIndex : PeerIndex := 255

structure BoundedBytes (capacity : Nat) where
  bytes : List UInt8
  fits : bytes.length ≤ capacity
  deriving DecidableEq

namespace BoundedBytes
variable {capacity : Nat}

def clear : BoundedBytes capacity := ⟨[], Nat.zero_le _⟩

instance inhabited : Inhabited (BoundedBytes capacity) := ⟨clear⟩

/-- A value that does not fit leaves the slot cleared. -/
def assign (value : List UInt8) : Bool × BoundedBytes capacity :=
  if fits : value.length ≤ capacity then (true, ⟨value, fits⟩) else (false, clear)

def size (value : BoundedBytes capacity) : Nat := value.bytes.length

def isEmpty (value : BoundedBytes capacity) : Bool := value.bytes.isEmpty

@[simp] theorem clear_bytes : (clear : BoundedBytes capacity).bytes = [] := rfl

theorem assign_fits {value : List UInt8} (fits : value.length ≤ capacity) :
    assign value = (true, (⟨value, fits⟩ : BoundedBytes capacity)) := dif_pos fits

theorem assign_true {value : List UInt8} {stored : BoundedBytes capacity}
    (run : assign value = (true, stored)) : stored.bytes = value := by
  unfold assign at run
  split at run
  · simp only [Prod.mk.injEq, true_and] at run
    exact run ▸ rfl
  · simp at run

end BoundedBytes

/-- The characters of a C string end at its first NUL. -/
def cString (bytes : List UInt8) : List UInt8 := bytes.takeWhile (· != 0)

theorem cString_eq_self {bytes : List UInt8} (clean : 0 ∉ bytes) : cString bytes = bytes := by
  apply List.takeWhile_eq_self_iff.mpr
  intro byte member
  rw [bne_iff_ne]
  rintro rfl
  exact clean member

structure BoundedText (capacity : Nat) where
  chars : List UInt8
  fits : chars.length ≤ capacity
  noNul : 0 ∉ chars
  deriving DecidableEq

namespace BoundedText
variable {capacity : Nat}

def clear : BoundedText capacity := ⟨[], Nat.zero_le _, by simp⟩

instance inhabited : Inhabited (BoundedText capacity) := ⟨clear⟩

theorem cString_noNul (bytes : List UInt8) : 0 ∉ cString bytes := by
  intro member
  have := List.mem_takeWhile_imp member
  simp at this

def assign (value : List UInt8) : Bool × BoundedText capacity :=
  if fits : (cString value).length ≤ capacity then
    (true, ⟨cString value, fits, cString_noNul value⟩)
  else (false, clear)

def size (value : BoundedText capacity) : Nat := value.chars.length

def isEmpty (value : BoundedText capacity) : Bool := value.chars.isEmpty

end BoundedText

structure DeliveryIdentity where
  sourceBootId : UInt64 := 0
  transactionId : TransactionId := 0
  sequence : UInt32 := 0
  deriving DecidableEq

namespace DeliveryIdentity

def Valid (identity : DeliveryIdentity) : Prop :=
  identity.sourceBootId ≠ 0 ∧ identity.transactionId ≠ 0 ∧ identity.sequence ≠ 0

instance decidableValid (identity : DeliveryIdentity) : Decidable identity.Valid :=
  inferInstanceAs (Decidable (_ ∧ _))

end DeliveryIdentity

/-- Counters that skip zero when they wrap: delivery, ACK and heartbeat sequences. -/
def nextSequence (sequence : UInt32) : UInt32 :=
  if sequence + 1 = 0 then sequence + 1 + 1 else sequence + 1

theorem nextSequence_ne_zero (sequence : UInt32) : nextSequence sequence ≠ 0 := by
  unfold nextSequence
  split
  · rename_i wrapped
    rw [wrapped]
    decide
  · assumption

end EspNowNet
