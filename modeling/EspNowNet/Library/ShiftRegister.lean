import Mathlib.Data.BitVec

/- A reflected CRC register. A step shifts out the lowest bit and adds the polynomial if it was
   set; a digit of `k` bits is added at the low end before `k` steps. When the top bit of the
   polynomial is set, no two runs of digits that are together no wider than the register leave
   it in the same state. -/
namespace ShiftRegister
variable {w : Nat}

def step (polynomial register : BitVec w) : BitVec w :=
  (register >>> 1) ^^^ (if register.getLsbD 0 then polynomial else 0)

/-- A digit of `k` bits enters the register. -/
def feed (polynomial : BitVec w) (k : Nat) (register digit : BitVec w) : BitVec w :=
  Nat.repeat (step polynomial) k (register ^^^ digit)

def run (polynomial : BitVec w) (k : Nat) (register : BitVec w) (digits : List (BitVec w)) :
    BitVec w :=
  digits.foldl (feed polynomial k) register

section Linear
variable (polynomial : BitVec w)

theorem step_xor (x y : BitVec w) :
    step polynomial (x ^^^ y) = step polynomial x ^^^ step polynomial y := by
  unfold step
  rw [BitVec.ushiftRight_xor_distrib, BitVec.getLsbD_xor]
  ext i
  cases x.getLsbD 0 <;> cases y.getLsbD 0 <;> simp only [BitVec.getElem_xor, Bool.xor_false,
    Bool.xor_true, Bool.not_false, Bool.not_true, Bool.false_eq_true, ↓reduceIte] <;>
    cases (x >>> 1)[i] <;> cases (y >>> 1)[i] <;> cases polynomial[i] <;> simp

theorem repeat_xor (n : Nat) (x y : BitVec w) :
    Nat.repeat (step polynomial) n (x ^^^ y) =
      Nat.repeat (step polynomial) n x ^^^ Nat.repeat (step polynomial) n y := by
  induction n with
  | zero => rfl
  | succ n hyp => rw [Nat.repeat, Nat.repeat, Nat.repeat, hyp, step_xor]

theorem feed_xor (k : Nat) (x y a b : BitVec w) :
    feed polynomial k (x ^^^ y) (a ^^^ b) = feed polynomial k x a ^^^ feed polynomial k y b := by
  unfold feed
  rw [← repeat_xor]
  congr 1
  ext i
  simp only [BitVec.getElem_xor]
  cases x[i] <;> cases y[i] <;> cases a[i] <;> cases b[i] <;> rfl

theorem run_xor (k : Nat) (x y : BitVec w) {a b : List (BitVec w)} (same : a.length = b.length) :
    run polynomial k (x ^^^ y) (List.zipWith (· ^^^ ·) a b) =
      run polynomial k x a ^^^ run polynomial k y b := by
  induction a generalizing x y b with
  | nil =>
    obtain rfl := List.length_eq_zero_iff.mp same.symm
    rfl
  | cons digit a hyp =>
    cases b with
    | nil => simp at same
    | cons other b =>
      simp only [run, List.zipWith_cons_cons, List.foldl_cons, feed_xor]
      exact hyp _ _ (by simpa using same)

end Linear

section Detection
variable {polynomial : BitVec w}

/-- A step that leaves the top bit clear has only shifted. -/
theorem eq_double_step (top : polynomial.msb = true) {x : BitVec w} {m : Nat}
    (small : (step polynomial x).toNat < 2 ^ m) (room : m < w) :
    x.toNat = 2 * (step polynomial x).toNat := by
  cases low : x.getLsbD 0 with
  | true =>
    have set : (step polynomial x).msb = true := by
      have cleared : (x >>> 1).msb = false := by
        rw [BitVec.msb_ushiftRight]
        simp
      simp [step, low, BitVec.msb_xor, top, cleared]
    have large := BitVec.le_toNat_of_msb_true set
    have : 2 ^ m ≤ 2 ^ (w - 1) := Nat.pow_le_pow_right (by decide) (by omega)
    omega
  | false =>
    have shifted : step polynomial x = x >>> 1 := by simp [step, low]
    have even : x.toNat % 2 = 0 := by
      have bit : x.toNat.testBit 0 = false := low
      simpa [Nat.testBit_zero] using bit
    rw [shifted, BitVec.toNat_ushiftRight, Nat.shiftRight_eq_div_pow]
    omega

theorem eq_shift_repeat (top : polynomial.msb = true) {k : Nat} {x : BitVec w} {m : Nat}
    (small : (Nat.repeat (step polynomial) k x).toNat < 2 ^ m) (room : m + k ≤ w) :
    x.toNat = 2 ^ k * (Nat.repeat (step polynomial) k x).toNat := by
  induction k generalizing m with
  | zero => simp [Nat.repeat]
  | succ k hyp =>
    have double := eq_double_step top small (by omega)
    have less : (Nat.repeat (step polynomial) k x).toNat < 2 ^ (m + 1) := by
      rw [double, Nat.pow_succ, Nat.repeat] at *
      omega
    have earlier := hyp less (by omega)
    rw [earlier, double, Nat.pow_succ, Nat.mul_assoc]
    rfl

theorem eq_of_step_eq (top : polynomial.msb = true) {x y : BitVec w}
    (same : step polynomial x = step polynomial y) : x = y := by
  have cleared : step polynomial (x ^^^ y) = 0#w := by rw [step_xor, same, BitVec.xor_self]
  have positive : 0 < w := by
    by_contra empty
    obtain rfl : w = 0 := by omega
    simp [BitVec.msb, BitVec.getMsbD] at top
  have zero := eq_double_step top (x := x ^^^ y) (m := 0) (by simp [cleared]) positive
  rw [cleared] at zero
  exact BitVec.xor_eq_zero_iff.mp (BitVec.eq_of_toNat_eq zero)

theorem eq_of_repeat_eq (top : polynomial.msb = true) {n : Nat} {x y : BitVec w}
    (same : Nat.repeat (step polynomial) n x = Nat.repeat (step polynomial) n y) : x = y := by
  induction n with
  | zero => exact same
  | succ n hyp => exact hyp (eq_of_step_eq top same)

/-- The same digits never bring two different registers together. -/
theorem eq_of_run_eq (top : polynomial.msb = true) {k : Nat} {x y : BitVec w}
    {digits : List (BitVec w)}
    (same : run polynomial k x digits = run polynomial k y digits) : x = y := by
  induction digits generalizing x y with
  | nil => exact same
  | cons digit digits hyp =>
    have fed := eq_of_repeat_eq top (hyp same)
    simpa using fed

/-- A register that a short run of digits clears was no wider than the digits. -/
theorem lt_of_run_eq_zero (top : polynomial.msb = true) {k : Nat} {x : BitVec w}
    {digits : List (BitVec w)} (narrow : ∀ digit ∈ digits, digit.toNat < 2 ^ k)
    (short : digits.length * k ≤ w) (cleared : run polynomial k x digits = 0#w) :
    x.toNat < 2 ^ (digits.length * k) := by
  induction digits generalizing x with
  | nil =>
    obtain rfl : x = 0#w := cleared
    simp
  | cons digit digits hyp =>
    simp only [List.length_cons, Nat.succ_mul] at short ⊢
    have less := hyp (fun other member => narrow other (List.mem_cons_of_mem _ member))
      (by omega) cleared
    have shifted := eq_shift_repeat top less short
    have sum : (x ^^^ digit).toNat < 2 ^ (digits.length * k + k) := by
      rw [shifted, Nat.pow_add, Nat.mul_comm]
      exact Nat.mul_lt_mul_of_pos_right less (Nat.two_pow_pos k)
    have own : digit.toNat < 2 ^ (digits.length * k + k) :=
      (narrow digit List.mem_cons_self).trans_le (Nat.pow_le_pow_right (by decide) (by omega))
    have undone : x = (x ^^^ digit) ^^^ digit := by
      rw [BitVec.xor_assoc, BitVec.xor_self, BitVec.xor_zero]
    rw [undone, BitVec.toNat_xor]
    exact Nat.xor_lt_two_pow sum own

theorem eq_zero_of_run_eq_zero (top : polynomial.msb = true) {k : Nat}
    {digits : List (BitVec w)} (narrow : ∀ digit ∈ digits, digit.toNat < 2 ^ k)
    (short : digits.length * k ≤ w) (cleared : run polynomial k 0#w digits = 0#w) :
    ∀ digit ∈ digits, digit = 0#w := by
  induction digits with
  | nil => simp
  | cons digit digits hyp =>
    simp only [List.length_cons, Nat.succ_mul] at short
    have rest : ∀ other ∈ digits, other.toNat < 2 ^ k :=
      fun other member => narrow other (List.mem_cons_of_mem _ member)
    have less := lt_of_run_eq_zero top rest (by omega) cleared
    have shifted : (0#w ^^^ digit).toNat = 2 ^ k * (feed polynomial k 0#w digit).toNat :=
      eq_shift_repeat top less short
    rw [BitVec.zero_xor] at shifted
    -- the digit is a multiple of what bounds it
    have nothing : (feed polynomial k 0#w digit).toNat = 0 := by
      have bound := narrow digit List.mem_cons_self
      rw [shifted] at bound
      have least : 2 ^ k * (feed polynomial k 0#w digit).toNat < 2 ^ k * 1 := by
        rw [Nat.mul_one]
        exact bound
      exact Nat.lt_one_iff.mp (Nat.lt_of_mul_lt_mul_left least)
    have clear : feed polynomial k 0#w digit = 0#w := BitVec.eq_of_toNat_eq nothing
    have zero : digit = 0#w := BitVec.eq_of_toNat_eq (by rw [shifted, nothing]; rfl)
    intro other member
    rcases List.mem_cons.mp member with rfl | later
    · exact zero
    · have onward : run polynomial k (feed polynomial k 0#w digit) digits = 0#w := cleared
      rw [clear] at onward
      exact hyp rest (by omega) onward other later

/-- Two runs that differ, and only in digits that are together no wider than the register,
    leave it in different states. -/
theorem run_ne_of_burst (top : polynomial.msb = true) {k : Nat} (x : BitVec w)
    {front a b back : List (BitVec w)} (same : a.length = b.length)
    (narrow : ∀ digit ∈ a ++ b, digit.toNat < 2 ^ k) (short : a.length * k ≤ w)
    (different : a ≠ b) :
    run polynomial k x (front ++ a ++ back) ≠ run polynomial k x (front ++ b ++ back) := by
  intro equal
  simp only [run, List.foldl_append] at equal
  have middle := eq_of_run_eq top equal
  generalize front.foldl (feed polynomial k) x = y at middle
  have cleared : run polynomial k 0#w (List.zipWith (· ^^^ ·) a b) = 0#w := by
    have split := run_xor polynomial k y y same
    rw [BitVec.xor_self] at split
    rw [split]
    exact BitVec.xor_eq_zero_iff.mpr middle
  have zero := eq_zero_of_run_eq_zero top ?_ ?_ cleared
  · apply different
    apply List.ext_getElem same
    intro i inside inside'
    have member : a[i] ^^^ b[i] ∈ List.zipWith (· ^^^ ·) a b := by
      rw [List.mem_iff_getElem]
      exact ⟨i, by simp [inside, inside'], by simp⟩
    exact BitVec.xor_eq_zero_iff.mp (zero _ member)
  · intro digit member
    obtain ⟨i, inside, rfl⟩ := List.mem_iff_getElem.mp member
    simp only [List.length_zipWith] at inside
    rw [List.getElem_zipWith, BitVec.toNat_xor]
    apply Nat.xor_lt_two_pow
    · exact narrow _ (List.mem_append_left _ (List.getElem_mem _))
    · exact narrow _ (List.mem_append_right _ (List.getElem_mem _))
  · simpa [same] using short

end Detection

end ShiftRegister
