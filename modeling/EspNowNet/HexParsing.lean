import EspNowNet.FrameSafety
import EspNowNet.PeerConfiguration

/- The parsers of keys and addresses, with every access to the text and to the output checked,
   and what the texts are that they accept. -/
namespace EspNowNet

/-- A C string; its memory ends with the NUL. -/
structure CText where
  chars : List UInt8
  noNul : 0 ∉ chars

def CText.memory (text : CText) : List UInt8 := text.chars ++ [0]

/- The texts and what they denote -/

/-- Hexadecimal digits, of either case. -/
inductive HexDigit : UInt8 → Nat → Prop
  | decimal (d : Nat) (small : d < 10) : HexDigit (UInt8.ofNat (48 + d)) d
  | lower (d : Nat) (small : d < 6) : HexDigit (UInt8.ofNat (97 + d)) (10 + d)
  | upper (d : Nat) (small : d < 6) : HexDigit (UInt8.ofNat (65 + d)) (10 + d)

theorem HexDigit.lt {c : UInt8} {d : Nat} (digit : HexDigit c d) : d < 16 := by
  cases digit with
  | decimal _ small => omega
  | lower _ small => omega
  | upper _ small => omega

/-- The two digits at a place of a text denote a byte, the high one first. -/
def DigitPair (text : List UInt8) (place : Nat) (value : UInt8) : Prop :=
  ∃ high low, HexDigit (text.getD place 0) high ∧ HexDigit (text.getD (place + 1) 0) low ∧
    value.toNat = 16 * high + low

structure IsKey (text : List UInt8) : Prop where
  length : text.length = 32
  digits : ∀ c ∈ text, ∃ d, HexDigit c d

/-- Six pairs of digits with colons between them. -/
structure IsAddress (text : List UInt8) : Prop where
  length : text.length = 17
  pairs : ∀ i, i < 6 → ∃ value, DigitPair text (3 * i) value
  colons : ∀ i, i < 5 → text.getD (3 * i + 2) 0 = 58

namespace EspIdfEspNowEncryptedRadio

/- The code, access by access; an option is empty where an access is bad -/

def strlen (memory : List UInt8) : Option Nat := memory.findIdx? (· == 0)

def writeByte {size : Nat} (out : Vector UInt8 size) (index : Nat) (value : UInt8) :
    Option (Vector UInt8 size) :=
  if inside : index < size then some (out.set index value inside) else none

/-- The loop of both parsers: a byte is made for each index and written, up to the first index
    that has none. -/
def writeEach {size : Nat} (byteAt : Nat → Option (Option UInt8)) :
    List Nat → Vector UInt8 size → Option (Bool × Vector UInt8 size)
  | [], out => some (true, out)
  | index :: later, out => do
    let some value ← byteAt index | return (false, out)
    writeEach byteAt later (← writeByte out index value)

def keyByteChecked (hex : List UInt8) (index : Nat) : Option (Option UInt8) := do
  let high := nibble (← readByte hex (index * 2))
  let low := nibble (← readByte hex (index * 2 + 1))
  return do
    return (← high) <<< 4 ||| (← low)

/-- The text is `none` for a null pointer. The output is an array of the caller. -/
def parseKeyChecked (hex : Option (List UInt8)) (out : Vector UInt8 16) :
    Option (Bool × Vector UInt8 16) := do
  let some hex := hex | return (false, out)
  if (← strlen hex) ≠ 32 then return (false, out)
  writeEach (keyByteChecked hex) (List.range 16) out

/-- A pair of characters, followed by thirty zeros. -/
def expand (first second : UInt8) : Option (Vector UInt8 33) := do
  let expanded ← writeByte (.replicate 33 0) 0 first
  let expanded ← writeByte expanded 1 second
  let (_, expanded) ← writeEach (fun _ => some (some 48)) (List.range' 2 30) expanded
  return expanded

/-- The pair of an address is parsed as the first byte of a key. -/
def pairByteChecked (first second : UInt8) : Option (Option UInt8) := do
  let expanded ← expand first second
  let (parsed, decoded) ← parseKeyChecked (some expanded.toList) (.replicate 16 0)
  if parsed then return some (← readByte decoded.toList 0)
  return none

/-- The first pair has no colon before it, and none is read. -/
def separated (value : List UInt8) (index : Nat) : Option Bool :=
  if index = 0 then some true else (readByte value (index * 3 - 1)).map (· == 58)

def addressByteChecked (value : List UInt8) (index : Nat) : Option (Option UInt8) := do
  if (← separated value index) = false then return none
  pairByteChecked (← readByte value (index * 3)) (← readByte value (index * 3 + 1))

def parseAddressChecked (value : Option (List UInt8)) (out : Vector UInt8 6) :
    Option (Bool × Vector UInt8 6) := do
  let some value := value | return (false, out)
  if (← strlen value) ≠ 17 then return (false, out)
  writeEach (addressByteChecked value) (List.range 6) out

/- Accesses -/

theorem strlen_memory (text : CText) : strlen text.memory = some text.chars.length := by
  unfold strlen CText.memory
  rw [List.findIdx?_append]
  have absent : text.chars.findIdx? (· == 0) = none := by
    rw [List.findIdx?_eq_none_iff]
    intro c member
    exact beq_eq_false_iff_ne.mpr fun zero => text.noNul (zero ▸ member)
  simp [absent]

theorem readByte_memory {text : CText} {index : Nat} (inside : index < text.chars.length) :
    readByte text.memory index = some (text.chars.getD index 0) := by
  rw [readByte, CText.memory, List.getElem?_append_left inside, List.getD_eq_getElem _ _ inside,
    List.getElem?_eq_getElem inside]

/-- The bytes for all indices of an output, if there is one for each. -/
def gathered (size : Nat) (byte : Nat → Option UInt8) : Option (Vector UInt8 size) :=
  if (List.range size).all fun index => (byte index).isSome then
    some (.ofFn fun index => (byte index).getD 0)
  else none

theorem gathered_iff {size : Nat} {byte : Nat → Option UInt8} {values : Vector UInt8 size} :
    gathered size byte = some values ↔
      ∀ (index : Nat) (bound : index < size), byte index = some values[index] := by
  unfold gathered
  constructor
  · intro all index bound
    split at all
    · rename_i each
      obtain rfl := Option.some.inj all
      obtain ⟨value, made⟩ := Option.isSome_iff_exists.mp
        (List.all_eq_true.mp each index (List.mem_range.mpr bound))
      simp [made]
    · cases all
  · intro each
    have all : ((List.range size).all fun index => (byte index).isSome) = true := by
      apply List.all_eq_true.mpr
      intro index member
      rw [each index (List.mem_range.mp member)]
      rfl
    rw [if_pos all]
    congr 1
    ext index bound
    simp [each index bound]

/-- If no byte reads outside and the indices are inside the output, the loop runs to its end or
    to the first byte that is missing. -/
theorem writeEach_safe {size : Nat} {byteAt : Nat → Option (Option UInt8)}
    {byte : Nat → Option UInt8} {indices : List Nat} (out : Vector UInt8 size)
    (safe : ∀ index ∈ indices, byteAt index = some (byte index))
    (inside : ∀ index ∈ indices, index < size) (distinct : indices.Nodup) :
    ∃ out', writeEach byteAt indices out =
        some (indices.all fun index => (byte index).isSome, out') ∧
      ((indices.all fun index => (byte index).isSome) = true →
        ∀ (index : Nat) (bound : index < size),
          (index ∈ indices → byte index = some out'[index]) ∧
          (index ∉ indices → out'[index] = out[index])) := by
  induction indices generalizing out with
  | nil =>
    refine ⟨out, rfl, ?_⟩
    intro _ index _
    exact ⟨fun member => absurd member List.not_mem_nil, fun _ => rfl⟩
  | cons first later hyp =>
    have own := safe first List.mem_cons_self
    have bound := inside first List.mem_cons_self
    obtain ⟨fresh, others⟩ := List.nodup_cons.mp distinct
    cases made : byte first with
    | none =>
      refine ⟨out, ?_, ?_⟩
      · simp [writeEach, own, made]
      · intro all
        simp [made] at all
    | some value =>
      obtain ⟨out', run, values⟩ := hyp (out.set first value bound)
        (fun index member => safe index (List.mem_cons_of_mem _ member))
        (fun index member => inside index (List.mem_cons_of_mem _ member)) others
      refine ⟨out', ?_, ?_⟩
      · simp [writeEach, own, made, writeByte, bound, run]
      · intro all index place
        have rest : (later.all fun index => (byte index).isSome) = true := by
          rw [List.all_cons, Bool.and_eq_true] at all
          exact all.2
        obtain ⟨written, kept⟩ := values rest index place
        constructor
        · intro member
          rcases List.mem_cons.mp member with rfl | member
          · rw [made, kept fresh, Vector.getElem_set_self]
          · exact written member
        · intro absent
          obtain ⟨apart, missing⟩ := not_or.mp (mt List.mem_cons.mpr absent)
          rw [kept missing, Vector.getElem_set_ne _ _ (Ne.symm apart)]

theorem writeEach_gathered {size : Nat} {byteAt : Nat → Option (Option UInt8)}
    {byte : Nat → Option UInt8} (out : Vector UInt8 size)
    (safe : ∀ index, index < size → byteAt index = some (byte index)) :
    ∃ out', writeEach byteAt (List.range size) out = some ((gathered size byte).isSome, out') ∧
      ∀ values, gathered size byte = some values → out' = values := by
  obtain ⟨out', run, written⟩ := writeEach_safe out
    (fun index member => safe index (List.mem_range.mp member))
    (fun index member => List.mem_range.mp member) List.nodup_range
  refine ⟨out', ?_, ?_⟩
  · rw [run]
    unfold gathered
    split <;> simp [*]
  · intro values all
    have each := gathered_iff.mp all
    have made : ((List.range size).all fun index => (byte index).isSome) = true := by
      apply List.all_eq_true.mpr
      intro index member
      rw [each index (List.mem_range.mp member)]
      rfl
    ext index bound
    have own := (written made index bound).1 (List.mem_range.mpr bound)
    rw [each index bound] at own
    rw [Option.some.inj own]

/- Keys -/

theorem parseKey_eq (text : CText) : parseKey text.chars =
    if text.chars.length ≠ 32 then none else gathered 16 (keyByte text.chars) := by
  rw [parseKey, cString_eq_self text.noNul]
  rfl

theorem keyByteChecked_memory {text : CText} {index : Nat}
    (inside : index * 2 + 1 < text.chars.length) :
    keyByteChecked text.memory index = some (keyByte text.chars index) := by
  have first : index * 2 < text.chars.length := by omega
  rw [keyByteChecked, readByte_memory first, readByte_memory inside]
  rfl

/-- The checked parser does what the plain one does, and no access is bad. -/
theorem parseKeyChecked_memory (text : CText) (out : Vector UInt8 16) :
    ∃ out', parseKeyChecked (some text.memory) out = some ((parseKey text.chars).isSome, out') ∧
      ∀ key, parseKey text.chars = some key → out' = key := by
  have started : parseKeyChecked (some text.memory) out =
      if text.chars.length ≠ 32 then some (false, out)
      else writeEach (keyByteChecked text.memory) (List.range 16) out := by
    simp only [parseKeyChecked, strlen_memory]
    rfl
  rw [started, parseKey_eq]
  split
  · exact ⟨out, rfl, fun key parsed => by cases parsed⟩
  · rename_i long
    apply writeEach_gathered
    intro index bound
    exact keyByteChecked_memory (by omega)

/-- A character of a range is its first one, plus a digit. -/
theorem range_digit {c low : UInt8} (count : Nat) (above : low ≤ c)
    (below : c.toNat < low.toNat + count) :
    (c - low).toNat < count ∧ UInt8.ofNat (low.toNat + (c - low).toNat) = c := by
  have difference := UInt8.toNat_sub_of_le _ _ above
  have order := UInt8.le_iff_toNat_le.mp above
  constructor
  · omega
  · rw [difference, Nat.add_sub_cancel' order, UInt8.ofNat_toNat]

theorem letter_value {c low : UInt8} (small : (c - low).toNat < 6) :
    (c - low + 10).toNat = 10 + (c - low).toNat := by
  have ten : (10 : UInt8).toNat = 10 := rfl
  rw [UInt8.toNat_add, ten]
  omega

theorem nibble_iff {c value : UInt8} : nibble c = some value ↔ HexDigit c value.toNat := by
  constructor
  · intro run
    unfold nibble at run
    split at run
    · rename_i range
      obtain rfl := Option.some.inj run
      have below := UInt8.le_iff_toNat_le.mp range.2
      obtain ⟨small, same⟩ := range_digit 10 range.1 (Nat.lt_succ_of_le below)
      have digit := HexDigit.decimal _ small
      rwa [show UInt8.ofNat (48 + (c - 48).toNat) = c from same] at digit
    split at run
    · rename_i range
      obtain rfl := Option.some.inj run
      have below := UInt8.le_iff_toNat_le.mp range.2
      obtain ⟨small, same⟩ := range_digit 6 range.1 (Nat.lt_succ_of_le below)
      have digit := HexDigit.lower _ small
      rw [letter_value small]
      rwa [show UInt8.ofNat (97 + (c - 97).toNat) = c from same] at digit
    split at run
    · rename_i range
      obtain rfl := Option.some.inj run
      have below := UInt8.le_iff_toNat_le.mp range.2
      obtain ⟨small, same⟩ := range_digit 6 range.1 (Nat.lt_succ_of_le below)
      have digit := HexDigit.upper _ small
      rw [letter_value small]
      rwa [show UInt8.ofNat (65 + (c - 65).toNat) = c from same] at digit
    · cases run
  · intro digit
    have decimals : ∀ d < 10, nibble (UInt8.ofNat (48 + d)) = some (UInt8.ofNat d) := by decide
    have lowers : ∀ d < 6, nibble (UInt8.ofNat (97 + d)) = some (UInt8.ofNat (10 + d)) := by
      decide
    have uppers : ∀ d < 6, nibble (UInt8.ofNat (65 + d)) = some (UInt8.ofNat (10 + d)) := by
      decide
    rw [← UInt8.ofNat_toNat (x := value)]
    generalize value.toNat = d at digit
    cases digit with
    | decimal _ small => exact decimals _ small
    | lower d small => exact lowers d small
    | upper d small => exact uppers d small

theorem keyByte_iff {hex : List UInt8} {index : Nat} {value : UInt8} :
    keyByte hex index = some value ↔ DigitPair hex (2 * index) value := by
  rw [Nat.mul_comm 2 index]
  constructor
  · intro run
    obtain ⟨high, first, run⟩ := Option.bind_eq_some_iff.mp run
    obtain ⟨low, second, run⟩ := Option.bind_eq_some_iff.mp run
    obtain rfl := Option.some.inj run
    have upper := nibble_iff.mp first
    have lower := nibble_iff.mp second
    refine ⟨high.toNat, low.toNat, upper, lower, ?_⟩
    have joined := nibbles_join _ upper.lt _ lower.lt
    rw [UInt8.ofNat_toNat, UInt8.ofNat_toNat] at joined
    have high16 := upper.lt
    have low16 := lower.lt
    rw [joined]
    exact UInt8.toNat_ofNat_of_lt' (show 16 * high.toNat + low.toNat < 256 by omega)
  · rintro ⟨high, low, upper, lower, same⟩
    have high16 := upper.lt
    have low16 := lower.lt
    have digit {c : UInt8} {d : Nat} (digit : HexDigit c d) : nibble c = some (UInt8.ofNat d) := by
      have small : d < 256 := digit.lt.trans (by decide)
      apply nibble_iff.mpr
      rwa [UInt8.toNat_ofNat_of_lt' small]
    unfold keyByte
    rw [digit upper, digit lower]
    have joined := nibbles_join _ high16 _ low16
    rw [← same, UInt8.ofNat_toNat] at joined
    exact congrArg some joined

theorem parseKey_iff {text : CText} {key : Vector UInt8 16} :
    parseKey text.chars = some key ↔ text.chars.length = 32 ∧
      ∀ (index : Nat) (bound : index < 16), DigitPair text.chars (2 * index) key[index] := by
  rw [parseKey_eq]
  split
  · rename_i short
    constructor
    · intro parsed
      cases parsed
    · rintro ⟨long, _⟩
      exact absurd long short
  · rename_i long
    rw [gathered_iff]
    simp only [keyByte_iff]
    exact (and_iff_right (Decidable.not_not.mp long)).symm

theorem parseKey_isSome {text : CText} :
    (parseKey text.chars).isSome = true ↔ IsKey text.chars := by
  rw [Option.isSome_iff_exists]
  constructor
  · rintro ⟨key, parsed⟩
    obtain ⟨long, pairs⟩ := parseKey_iff.mp parsed
    refine ⟨long, ?_⟩
    intro c member
    obtain ⟨place, inside, rfl⟩ := List.getElem_of_mem member
    obtain ⟨high, low, upper, lower, _⟩ := pairs (place / 2) (by omega)
    rw [← List.getD_eq_getElem _ 0 inside]
    rcases Nat.mod_two_eq_zero_or_one place with even | odd
    · rw [show 2 * (place / 2) = place by omega] at upper
      exact ⟨high, upper⟩
    · rw [show 2 * (place / 2) + 1 = place by omega] at lower
      exact ⟨low, lower⟩
  · intro isKey
    have digit (place : Nat) (inside : place < 32) : ∃ d, HexDigit (text.chars.getD place 0) d := by
      have bound : place < text.chars.length := isKey.length.symm ▸ inside
      rw [List.getD_eq_getElem _ _ bound]
      exact isKey.digits _ (List.getElem_mem bound)
    have byte (index : Nat) (bound : index < 16) :
        ∃ value, keyByte text.chars index = some value := by
      obtain ⟨high, upper⟩ := digit (2 * index) (by omega)
      obtain ⟨low, lower⟩ := digit (2 * index + 1) (by omega)
      refine ⟨UInt8.ofNat (16 * high + low), keyByte_iff.mpr ⟨high, low, upper, lower, ?_⟩⟩
      have high16 := upper.lt
      have low16 := lower.lt
      exact UInt8.toNat_ofNat_of_lt' (show 16 * high + low < 256 by omega)
    refine ⟨.ofFn fun index => (keyByte text.chars index).getD 0, ?_⟩
    rw [parseKey_eq, if_neg (not_not.mpr isKey.length), gathered_iff]
    intro index bound
    obtain ⟨value, made⟩ := byte index bound
    simp [made]

/- Addresses -/

/-- The two characters stand before thirty zeros and the NUL. -/
theorem expand_eq (first second : UInt8) : ∃ expanded, expand first second = some expanded ∧
    expanded.toList = [first, second] ++ List.replicate 30 48 ++ [0] := by
  let start : Vector UInt8 33 := ((Vector.replicate 33 0).set 0 first).set 1 second
  have filled := @writeEach_safe 33 (fun _ => some (some 48)) (fun _ => some 48)
    (List.range' 2 30) start (by simp) (by simp; omega) List.nodup_range'
  obtain ⟨expanded, run, values⟩ := filled
  have values := values (by simp)
  refine ⟨expanded, ?_, ?_⟩
  · unfold expand
    rw [writeByte, dif_pos (by decide), Option.bind_eq_bind, Option.bind_some, writeByte,
      dif_pos (by decide), Option.bind_eq_bind, Option.bind_some]
    change (writeEach (fun _ => some (some 48)) (List.range' 2 30) start >>= _) = _
    rw [run]
    rfl
  · apply List.ext_getElem
    · simp
    · intro index inside _
      have bound : index < 33 := by simpa using inside
      obtain ⟨filled, kept⟩ := values index bound
      rw [Vector.getElem_toList]
      have place : index = 0 ∨ index = 1 ∨ (2 ≤ index ∧ index < 32) ∨ index = 32 := by omega
      rcases place with rfl | rfl | middle | rfl
      · rw [kept (by simp)]
        rfl
      · rw [kept (by simp)]
        rfl
      · have zero : expanded[index] = 48 :=
          (Option.some.inj (filled (by simp; omega))).symm
        rw [zero, List.getElem_append_left (by simp; omega),
          List.getElem_append_right (by simpa using middle.1), List.getElem_replicate]
      · rw [kept (by simp)]
        rfl

/-- What one round of the loop makes of an address: nothing without the colon before the pair. -/
def addressPart (value : List UInt8) (index : Nat) : Option UInt8 :=
  if index == 0 || value.getD (index * 3 - 1) 0 == 58 then addressByte value index else none

theorem parseAddress_eq (text : CText) : parseAddress text.chars =
    if text.chars.length ≠ 17 then none else gathered 6 (addressPart text.chars) := by
  rw [parseAddress, cString_eq_self text.noNul]
  have each (index : Nat) : ((index == 0 || text.chars.getD (index * 3 - 1) 0 == 58) &&
      (addressByte text.chars index).isSome) = (addressPart text.chars index).isSome := by
    unfold addressPart
    cases index == 0 || text.chars.getD (index * 3 - 1) 0 == 58 with
    | true => exact Bool.true_and _
    | false => rfl
  simp only [each]
  unfold gathered
  split
  · rfl
  split
  · rename_i all
    congr 1
    ext index bound
    have made := List.all_eq_true.mp all index (List.mem_range.mpr bound)
    have own : addressPart text.chars index = addressByte text.chars index := by
      unfold addressPart at made ⊢
      split at made
      · rename_i colon
        rw [if_pos colon]
      · cases made
    simp [own]
  · rfl

/-- A pair of characters, as the text of a key. -/
def pairText (first second : UInt8) (high : first ≠ 0) (low : second ≠ 0) : CText where
  chars := [first, second] ++ List.replicate 30 48
  noNul := by simp [high.symm, low.symm]

theorem pairByteChecked_eq {value : List UInt8} {index : Nat} (high : value.getD (index * 3) 0 ≠ 0)
    (low : value.getD (index * 3 + 1) 0 ≠ 0) :
    pairByteChecked (value.getD (index * 3) 0) (value.getD (index * 3 + 1) 0) =
      some (addressByte value index) := by
  unfold addressByte
  generalize value.getD (index * 3) 0 = first at *
  generalize value.getD (index * 3 + 1) 0 = second at *
  obtain ⟨expanded, run, contents⟩ := expand_eq first second
  obtain ⟨decoded, parsed, same⟩ :=
    parseKeyChecked_memory (pairText first second high low) (.replicate 16 0)
  have memory : expanded.toList = (pairText first second high low).memory := contents
  have chars : (pairText first second high low).chars =
      [first, second] ++ List.replicate 30 48 := rfl
  rw [pairByteChecked, run, Option.bind_eq_bind, Option.bind_some, memory, parsed,
    Option.bind_eq_bind, Option.bind_some]
  rw [chars] at same ⊢
  cases key : parseKey ([first, second] ++ List.replicate 30 48) with
  | none => rfl
  | some key' =>
    rw [same key' key]
    simp [readByte]

theorem char_ne_zero {text : CText} {place : Nat} (inside : place < text.chars.length) :
    text.chars.getD place 0 ≠ 0 := by
  rw [List.getD_eq_getElem _ _ inside]
  exact fun zero => text.noNul (zero ▸ List.getElem_mem inside)

theorem addressByteChecked_memory {text : CText} (long : text.chars.length = 17) {index : Nat}
    (bound : index < 6) :
    addressByteChecked text.memory index = some (addressPart text.chars index) := by
  have first : index * 3 < text.chars.length := by omega
  have second : index * 3 + 1 < text.chars.length := by omega
  have colon : separated text.memory index =
      some (index == 0 || text.chars.getD (index * 3 - 1) 0 == 58) := by
    unfold separated
    split
    · simp [*]
    · rename_i later
      rw [readByte_memory (by omega)]
      simp [later]
  rw [addressByteChecked, colon, Option.bind_eq_bind, Option.bind_some]
  unfold addressPart
  cases index == 0 || text.chars.getD (index * 3 - 1) 0 == 58 with
  | false => rfl
  | true =>
    rw [readByte_memory first, readByte_memory second]
    simp only [Bool.true_eq_false, ↓reduceIte, Option.bind_eq_bind, Option.bind_some]
    rw [pairByteChecked_eq (char_ne_zero first) (char_ne_zero second)]

theorem parseAddressChecked_memory (text : CText) (out : Vector UInt8 6) :
    ∃ out', parseAddressChecked (some text.memory) out =
        some ((parseAddress text.chars).isSome, out') ∧
      ∀ address, parseAddress text.chars = some address → out' = address := by
  have started : parseAddressChecked (some text.memory) out =
      if text.chars.length ≠ 17 then some (false, out)
      else writeEach (addressByteChecked text.memory) (List.range 6) out := by
    simp only [parseAddressChecked, strlen_memory]
    rfl
  rw [started, parseAddress_eq]
  split
  · exact ⟨out, rfl, fun address parsed => by cases parsed⟩
  · rename_i long
    apply writeEach_gathered
    intro index bound
    exact addressByteChecked_memory (Decidable.not_not.mp long) bound

/-- Behind the pair every digit is zero. -/
theorem pairText_zeros {first second : UInt8} {high : first ≠ 0} {low : second ≠ 0} {index : Nat}
    (later : index ≠ 0) (bound : index < 16) :
    DigitPair (pairText first second high low).chars (2 * index) 0 := by
  have zero (place : Nat) (behind : 2 ≤ place) (inside : place < 32) :
      HexDigit ((pairText first second high low).chars.getD place 0) 0 := by
    have same : (pairText first second high low).chars.getD place 0 = 48 := by
      rw [pairText, List.getD_append_right _ _ _ _ (by simpa using behind),
        List.getD_eq_getElem _ _ (by simp; omega), List.getElem_replicate]
    rw [same]
    exact .decimal 0 (by decide)
  exact ⟨0, 0, zero _ (by omega) (by omega), zero _ (by omega) (by omega), rfl⟩

theorem addressByte_iff {text : CText} {index : Nat} {value : UInt8}
    (inside : index * 3 + 1 < text.chars.length) :
    addressByte text.chars index = some value ↔ DigitPair text.chars (3 * index) value := by
  have first : index * 3 < text.chars.length := by omega
  let pair := pairText _ _ (char_ne_zero first) (char_ne_zero inside)
  have own (value : UInt8) :
      DigitPair pair.chars (2 * 0) value ↔ DigitPair text.chars (3 * index) value := by
    rw [Nat.mul_comm 3 index]
    exact Iff.rfl
  have parsed : addressByte text.chars index =
      (parseKey pair.chars).map fun decoded => decoded[0] := rfl
  rw [parsed]
  constructor
  · intro made
    obtain ⟨key, accepted, rfl⟩ := Option.map_eq_some_iff.mp made
    exact (own _).mp ((parseKey_iff.mp accepted).2 0 (by decide))
  · intro digits
    let key : Vector UInt8 16 := .ofFn fun place => if place.val = 0 then value else 0
    have made : parseKey pair.chars = some key := by
      rw [parseKey_iff]
      refine ⟨rfl, ?_⟩
      intro place bound
      by_cases head : place = 0
      · subst head
        have same : key[0] = value := by simp [key]
        rw [same]
        exact (own value).mpr digits
      · have same : key[place] = 0 := by simp [key, head]
        rw [same]
        exact pairText_zeros head bound
    rw [made]
    simp [key]

theorem parseAddress_iff {text : CText} {address : Vector UInt8 6} :
    parseAddress text.chars = some address ↔ text.chars.length = 17 ∧
      (∀ i, i < 5 → text.chars.getD (3 * i + 2) 0 = 58) ∧
      ∀ (index : Nat) (bound : index < 6), DigitPair text.chars (3 * index) address[index] := by
  rw [parseAddress_eq]
  split
  · rename_i short
    constructor
    · intro parsed
      cases parsed
    · rintro ⟨long, _⟩
      exact absurd long short
  · rename_i other
    have long : text.chars.length = 17 := Decidable.not_not.mp other
    have part {index : Nat} (bound : index < 6) (value : UInt8) :
        addressPart text.chars index = some value ↔
          (index = 0 ∨ text.chars.getD (index * 3 - 1) 0 = 58) ∧
            DigitPair text.chars (3 * index) value := by
      rw [← addressByte_iff (by omega), addressPart]
      simp
    rw [gathered_iff]
    constructor
    · intro each
      refine ⟨long, ?_, ?_⟩
      · intro i small
        have before := @part (i + 1) (by omega)
        have colon := ((before _).mp (each (i + 1) (by omega))).1
        rw [show (i + 1) * 3 - 1 = 3 * i + 2 by omega] at colon
        exact colon.resolve_left (Nat.succ_ne_zero i)
      · intro index bound
        exact ((part bound _).mp (each index bound)).2
    · rintro ⟨_, colons, pairs⟩ index bound
      refine (part bound _).mpr ⟨?_, pairs index bound⟩
      by_cases first : index = 0
      · exact Or.inl first
      · right
        have colon := colons (index - 1) (by omega)
        rwa [show 3 * (index - 1) + 2 = index * 3 - 1 by omega] at colon

theorem parseAddress_isSome {text : CText} :
    (parseAddress text.chars).isSome = true ↔ IsAddress text.chars := by
  rw [Option.isSome_iff_exists]
  constructor
  · rintro ⟨address, parsed⟩
    obtain ⟨long, colons, pairs⟩ := parseAddress_iff.mp parsed
    exact ⟨long, fun i bound => ⟨_, pairs i bound⟩, colons⟩
  · intro isAddress
    choose! value pairs using isAddress.pairs
    refine ⟨.ofFn fun index => value index, parseAddress_iff.mpr ⟨isAddress.length,
      isAddress.colons, ?_⟩⟩
    intro index bound
    simpa using pairs index bound

end EspIdfEspNowEncryptedRadio

open EspIdfEspNowEncryptedRadio in
/-- Both parsers stay inside the text and the output. They accept the keys and the addresses, and
    no other text, and write the bytes these denote. -/
theorem parsers_exact (text : CText) (key : Vector UInt8 16) (address : Vector UInt8 6) :
    (∃ accepted key', parseKeyChecked (some text.memory) key = some (accepted, key') ∧
      (accepted = true ↔ IsKey text.chars) ∧
      (accepted = true →
        ∀ (i : Nat) (bound : i < 16), DigitPair text.chars (2 * i) key'[i])) ∧
    ∃ accepted address',
      parseAddressChecked (some text.memory) address = some (accepted, address') ∧
      (accepted = true ↔ IsAddress text.chars) ∧
      (accepted = true →
        ∀ (i : Nat) (bound : i < 6), DigitPair text.chars (3 * i) address'[i]) := by
  constructor
  · obtain ⟨key', run, same⟩ := parseKeyChecked_memory text key
    refine ⟨_, key', run, parseKey_isSome, ?_⟩
    intro accepted
    obtain ⟨value, parsed⟩ := Option.isSome_iff_exists.mp accepted
    rw [same value parsed]
    exact (parseKey_iff.mp parsed).2
  · obtain ⟨address', run, same⟩ := parseAddressChecked_memory text address
    refine ⟨_, address', run, parseAddress_isSome, ?_⟩
    intro accepted
    obtain ⟨value, parsed⟩ := Option.isSome_iff_exists.mp accepted
    rw [same value parsed]
    exact (parseAddress_iff.mp parsed).2.2

end EspNowNet
