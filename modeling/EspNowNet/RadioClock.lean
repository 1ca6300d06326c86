import EspNowNet.Radio

/- The radio's clock against real time. A stamp is the low half of an instant, and a deadline is
   compared with the clock through a signed difference. -/
namespace EspNowNet
open EspIdfEspNowEncryptedRadio

/-- A deadline that has not been missed by half the range of the clock is compared rightly. -/
theorem deadlinePending_real {instant dueAt : Nat} (near : dueAt ≤ instant + 2 ^ 31)
    (recent : instant < dueAt + 2 ^ 31) :
    deadlinePending (UInt32.ofNat instant) (UInt32.ofNat dueAt) = true ↔ instant < dueAt := by
  unfold deadlinePending
  rw [decide_eq_true_eq, UInt32.toNat_sub, UInt32.toNat_ofNat', UInt32.toNat_ofNat']
  omega

/-- No deadline passes before its time, however late the polls come. -/
theorem due_of_over {instant dueAt : Nat} (near : dueAt ≤ instant + 2 ^ 31)
    (elapsed : deadlinePending (UInt32.ofNat instant) (UInt32.ofNat dueAt) = false) :
    dueAt ≤ instant := by
  by_contra early
  have pending := (deadlinePending_real near (by omega)).mpr (Nat.lt_of_not_le early)
  rw [elapsed] at pending
  cases pending

theorem jitterMs_le (env : RadioEnvironment) (spanMs salt : UInt32)
    (small : spanMs.toNat + 1 < 2 ^ 32) : (jitterMs env spanMs salt).toNat ≤ spanMs.toNat := by
  unfold jitterMs
  split
  · rw [UInt32.toNat_div]
    exact Nat.div_le_self _ _
  · have one : (spanMs + 1).toNat = spanMs.toNat + 1 := by
      rw [UInt32.toNat_add]
      exact Nat.mod_eq_of_lt small
    rw [UInt32.toNat_mod, one]
    exact Nat.le_of_lt_succ (Nat.mod_lt _ (Nat.succ_pos _))

/-- A delay after a stamp is the stamp of the instant that is as much later. -/
theorem stamp_add_one (instant : Nat) (baseMs : UInt32) :
    UInt32.ofNat instant + baseMs = UInt32.ofNat (instant + baseMs.toNat) := by
  rw [UInt32.ofNat_add, UInt32.ofNat_toNat]

theorem stamp_add (instant : Nat) (baseMs delayMs : UInt32) :
    UInt32.ofNat instant + baseMs + delayMs =
      UInt32.ofNat (instant + baseMs.toNat + delayMs.toNat) := by
  rw [stamp_add_one, stamp_add_one]

end EspNowNet
