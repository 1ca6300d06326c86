import EspNowNet.Library.BigEndian

/- The loops that write a machine word byte by byte and read it back, with the most or the least
   significant byte first. All of them are numerals of the bytes. -/
namespace ShiftLoops
variable {w : Nat}

def byteOf (value : BitVec w) : UInt8 := .ofBitVec (value.setWidth 8)

/-- `out[index] = uint8_t(value >> (8 * (width - 1) - 8 * index))` -/
def putBig (width : Nat) (value : BitVec w) : List UInt8 :=
  (List.range width).map fun index => byteOf (value >>> (8 * (width - 1) - 8 * index))

/-- `value = (value << 8) | in[index]` -/
def getBig (w : Nat) (bytes : List UInt8) : BitVec w :=
  bytes.foldl (fun value byte => value <<< 8 ||| byte.toBitVec.setWidth w) 0

/-- `out[index] = uint8_t(value >> (8 * index))` -/
def putLittle (width : Nat) (value : BitVec w) : List UInt8 :=
  (List.range width).map fun index => byteOf (value >>> (8 * index))

/-- `value |= in[index] << (8 * index)` -/
def getLittle (w width : Nat) (bytes : List UInt8) : BitVec w :=
  (List.range width).foldl
    (fun value index => value ||| (bytes.getD index 0).toBitVec.setWidth w <<< (8 * index)) 0

/- Writing -/

theorem byteOf_shift (value : BitVec w) (place : Nat) :
    byteOf (value >>> (8 * place)) = UInt8.ofNat (value.toNat / 256 ^ place) := by
  apply UInt8.toNat_inj.mp
  have shifted : value.toNat >>> (8 * place) = value.toNat / 256 ^ place := by
    rw [Nat.shiftRight_eq_div_pow, Nat.pow_mul]
  simp [byteOf, shifted]

theorem putBig_eq (width : Nat) (value : BitVec w) :
    putBig width value = BigEndian.write width value.toNat := by
  induction width with
  | zero => rfl
  | succ width hyp =>
    have later : (List.range width).map (fun index =>
        byteOf (value >>> (8 * (width + 1 - 1) - 8 * (index + 1)))) = putBig width value := by
      apply List.map_congr_left
      intro index inside
      have small := List.mem_range.mp inside
      rw [show 8 * (width + 1 - 1) - 8 * (index + 1) = 8 * (width - 1) - 8 * index by omega]
    rw [BigEndian.write, ← hyp, ← later, ← byteOf_shift, putBig, List.range_succ_eq_map,
      List.map_cons, List.map_map]
    rfl

theorem putLittle_eq (width : Nat) (value : BitVec w) :
    putLittle width value = (BigEndian.write width value.toNat).reverse := by
  induction width with
  | zero => rfl
  | succ width hyp =>
    have rest : putLittle (width + 1) value = putLittle width value ++
        [byteOf (value >>> (8 * width))] := by
      rw [putLittle, List.range_succ, List.map_append, List.map_singleton]
      rfl
    rw [rest, hyp, byteOf_shift, BigEndian.write, List.reverse_cons]

/- Reading -/

/-- A byte joined below or above a numeral that leaves it room. -/
theorem or_shift {high low place : Nat} (room : low < 2 ^ place) :
    high <<< place ||| low = high * 2 ^ place + low := by
  rw [← Nat.shiftLeft_add_eq_or_of_lt room, Nat.shiftLeft_eq]

theorem bytes_fit {count : Nat} (fits : 8 * count ≤ w) : 256 ^ count ≤ 2 ^ w := by
  rw [show (256 : Nat) = 2 ^ 8 from rfl, ← Nat.pow_mul]
  exact Nat.pow_le_pow_right (by decide) fits

theorem byte_fits (count : Nat) (byte : UInt8) (fits : 8 * (count + 1) ≤ w) :
    byte.toNat * 256 ^ count < 2 ^ w := by
  have digit := byte.toNat_lt
  have room := bytes_fit fits
  have scaled := Nat.mul_lt_mul_of_pos_right digit (Nat.pow_pos (n := count) (show 0 < 256 by decide))
  rw [Nat.pow_succ, Nat.mul_comm] at room
  omega

theorem byte_toNat (byte : UInt8) (fits : 8 ≤ w) :
    (byte.toBitVec.setWidth w).toNat = byte.toNat := by
  have small := byte_fits 0 byte fits
  rw [Nat.pow_zero, Nat.mul_one] at small
  rw [BitVec.toNat_setWidth]
  exact Nat.mod_eq_of_lt small

theorem getBig_step {value : BitVec w} {count : Nat} (byte : UInt8)
    (room : value.toNat < 256 ^ count) (fits : 8 * (count + 1) ≤ w) :
    (value <<< 8 ||| byte.toBitVec.setWidth w).toNat = value.toNat * 256 + byte.toNat := by
  have high : value.toNat <<< 8 < 2 ^ w := by
    have whole := bytes_fit fits
    rw [Nat.pow_succ] at whole
    rw [Nat.shiftLeft_eq]
    omega
  rw [BitVec.toNat_or, BitVec.toNat_shiftLeft, Nat.mod_eq_of_lt high, byte_toNat byte (by omega),
    or_shift byte.toNat_lt]
  rfl

theorem getBig_fold (value : BitVec w) (count : Nat) (bytes : List UInt8)
    (room : value.toNat < 256 ^ count) (fits : 8 * (count + bytes.length) ≤ w) :
    (bytes.foldl (fun (value : BitVec w) byte =>
        value <<< 8 ||| byte.toBitVec.setWidth w) value).toNat =
      bytes.foldl (fun value byte => value * 256 + byte.toNat) value.toNat := by
  induction bytes generalizing value count with
  | nil => rfl
  | cons byte bytes hyp =>
    rw [List.length_cons] at fits
    have step := getBig_step byte room (by omega)
    have digit := byte.toNat_lt
    rw [List.foldl_cons, List.foldl_cons, ← step]
    apply hyp _ (count + 1)
    · rw [step, Nat.pow_succ]
      omega
    · omega

theorem getBig_toNat {bytes : List UInt8} (fits : 8 * bytes.length ≤ w) :
    (getBig w bytes).toNat = BigEndian.read bytes := by
  have fold := getBig_fold (0 : BitVec w) 0 bytes (by simp) (by omega)
  exact fold

theorem getLittle_step {value : BitVec w} {count : Nat} (byte : UInt8)
    (room : value.toNat < 256 ^ count) (fits : 8 * (count + 1) ≤ w) :
    (value ||| byte.toBitVec.setWidth w <<< (8 * count)).toNat =
      byte.toNat * 256 ^ count + value.toNat := by
  have power : 2 ^ (8 * count) = 256 ^ count := by rw [Nat.pow_mul]
  have high : byte.toNat <<< (8 * count) < 2 ^ w := by
    rw [Nat.shiftLeft_eq, power]
    exact byte_fits count byte fits
  rw [BitVec.toNat_or, BitVec.toNat_shiftLeft, byte_toNat byte (by omega), Nat.mod_eq_of_lt high,
    Nat.or_comm, or_shift (by rw [power]; exact room), power]

theorem getLittle_toNat {width : Nat} {bytes : List UInt8} (long : width ≤ bytes.length)
    (fits : 8 * width ≤ w) :
    (getLittle w width bytes).toNat = BigEndian.read (bytes.take width).reverse := by
  induction width with
  | zero => simp [getLittle, BigEndian.read]
  | succ width hyp =>
    have lower := hyp (by omega) (by omega)
    have room := BigEndian.read_lt (bytes.take width).reverse
    rw [List.length_reverse, List.length_take, Nat.min_eq_left (by omega), ← lower] at room
    have step := getLittle_step (bytes.getD width 0) room fits
    have place : bytes.getD width 0 = bytes[width] := by
      rw [List.getD_eq_getElem?_getD, List.getElem?_eq_getElem (by omega), Option.getD_some]
    rw [getLittle, List.range_succ, List.foldl_append, List.foldl_cons, List.foldl_nil]
    refine step.trans ?_
    rw [List.take_succ_eq_append_getElem (by omega), List.reverse_append, List.reverse_singleton,
      List.singleton_append, BigEndian.read_cons, List.length_reverse, List.length_take,
      Nat.min_eq_left (by omega), lower, place]

end ShiftLoops
