import Mathlib.Tactic.Ring

/- Fixed-width big-endian numerals over bytes. A writer keeps the low `8 * width`
   bits of its value, as a shift-and-truncate loop does; a reader never truncates. -/
namespace BigEndian

def write : Nat → Nat → List UInt8
  | 0, _ => []
  | width + 1, value => UInt8.ofNat (value / 256 ^ width) :: write width value

def read (bytes : List UInt8) : Nat :=
  bytes.foldl (fun value byte => value * 256 + byte.toNat) 0

@[simp] theorem write_length (width value : Nat) : (write width value).length = width := by
  induction width with
  | zero => rfl
  | succ width ih => simp [write, ih]

theorem fold_write (width value start : Nat) :
    (write width value).foldl (fun value byte => value * 256 + byte.toNat) start =
      start * 256 ^ width + value % 256 ^ width := by
  induction width generalizing start with
  | zero => simp [write, Nat.mod_one]
  | succ width ih =>
    have digits : value % 256 ^ (width + 1) =
        value % 256 ^ width + 256 ^ width * (value / 256 ^ width % 256) := by
      rw [pow_succ, Nat.mod_mul]
    have byte : (UInt8.ofNat (value / 256 ^ width)).toNat = value / 256 ^ width % 256 := by simp
    simp only [write, List.foldl_cons, ih, byte, digits]
    ring

theorem read_write (width value : Nat) : read (write width value) = value % 256 ^ width := by
  simp [read, fold_write]

theorem read_write_of_lt {width value : Nat} (bound : value < 256 ^ width) :
    read (write width value) = value := by
  rw [read_write, Nat.mod_eq_of_lt bound]

/-- A field read back from the middle of a longer layout. -/
theorem read_at (offset width : Nat) {value : Nat} (front rest : List UInt8)
    (place : front.length = offset) (bound : value < 256 ^ width) :
    read (((front ++ (write width value ++ rest)).drop offset).take width) = value := by
  rw [← place, List.drop_left]
  have whole := @List.take_left _ (write width value) rest
  rw [write_length] at whole
  rw [whole, read_write_of_lt bound]

/-- A layout is a list of parts; each part stands behind all the earlier ones. -/
theorem part_at (parts : List (List UInt8)) (n : Nat) {offset : Nat} {part : List UInt8}
    (found : parts[n]? = some part) (place : (parts.take n).flatten.length = offset) :
    (parts.flatten.drop offset).take part.length = part := by
  obtain ⟨inside, same⟩ := List.getElem?_eq_some_iff.mp found
  have split : parts.flatten = (parts.take n).flatten ++ (part ++ (parts.drop (n + 1)).flatten) := by
    rw [← same, ← List.flatten_cons, ← List.drop_eq_getElem_cons, ← List.flatten_append,
      List.take_append_drop]
  rw [split, ← place, List.drop_left, List.take_left]

theorem read_part {parts : List (List UInt8)} (n offset width : Nat) {value : Nat}
    (found : parts[n]? = some (write width value))
    (place : (parts.take n).flatten.length = offset) (bound : value < 256 ^ width) :
    read ((parts.flatten.drop offset).take width) = value := by
  have whole := part_at parts n found place
  rw [write_length] at whole
  rw [whole, read_write_of_lt bound]

/- Bytes as numerals -/

theorem fold_read (bytes : List UInt8) (start : Nat) :
    bytes.foldl (fun value byte => value * 256 + byte.toNat) start =
      start * 256 ^ bytes.length + read bytes := by
  induction bytes generalizing start with
  | nil => simp [read]
  | cons byte bytes hyp =>
    simp only [read, List.foldl_cons, List.length_cons, hyp (start * 256 + byte.toNat),
      hyp (0 * 256 + byte.toNat)]
    ring

theorem read_cons (byte : UInt8) (bytes : List UInt8) :
    read (byte :: bytes) = byte.toNat * 256 ^ bytes.length + read bytes := by
  have folded := fold_read bytes byte.toNat
  simpa [read] using folded

theorem read_lt (bytes : List UInt8) : read bytes < 256 ^ bytes.length := by
  induction bytes with
  | nil => simp [read]
  | cons byte bytes hyp =>
    have digit := UInt8.toNat_lt byte
    have room := Nat.mul_le_mul_right (256 ^ bytes.length) (show byte.toNat + 1 ≤ 256 by omega)
    rw [Nat.add_mul] at room
    rw [read_cons, List.length_cons, Nat.pow_succ, Nat.mul_comm (256 ^ bytes.length)]
    omega

/-- A writer does not see digits beyond its width. -/
theorem write_add (width high value : Nat) :
    write width (high * 256 ^ width + value) = write width value := by
  induction width generalizing high with
  | zero => rfl
  | succ width hyp =>
    have shifted : high * 256 ^ (width + 1) + value = high * 256 * 256 ^ width + value := by ring
    have digit : (high * 256 * 256 ^ width + value) / 256 ^ width =
        high * 256 + value / 256 ^ width := by
      rw [Nat.add_comm, Nat.add_mul_div_right _ _ (Nat.pow_pos (by decide)), Nat.add_comm]
    have byte : UInt8.ofNat (high * 256 + value / 256 ^ width) =
        UInt8.ofNat (value / 256 ^ width) := by
      apply UInt8.toNat_inj.mp
      simp
    rw [write, write, shifted, digit, byte, hyp]

/-- Bytes are the numeral they are read as. -/
theorem write_read (bytes : List UInt8) : write bytes.length (read bytes) = bytes := by
  induction bytes with
  | nil => rfl
  | cons byte bytes hyp =>
    have low := read_lt bytes
    have digit : (byte.toNat * 256 ^ bytes.length + read bytes) / 256 ^ bytes.length =
        byte.toNat := by
      rw [Nat.add_comm, Nat.add_mul_div_right _ _ (Nat.pow_pos (by decide)), Nat.div_eq_of_lt low,
        zero_add]
    rw [List.length_cons, write, read_cons, digit, write_add, hyp]
    simp

end BigEndian
