import EspNowNet.Component
import EspNowNet.PeerValidation
import Mathlib.Data.List.GetD
import Mathlib.Data.List.Nodup

/- The calls the generated code makes for the peers of a configuration. Their results are
   ignored there, so what Python accepts and these calls refuse is lost without a message. -/
namespace EspNowNet
open PeerValidation

/-- A text as the literal of the generated code, and what the callee sees of it. -/
def utf8 (text : Text) : List UInt8 := text.flatMap String.utf8EncodeChar

def literal (text : Text) : List UInt8 := cString (utf8 text)

namespace EspIdfEspNowEncryptedRadio

def nibble (value : UInt8) : Option UInt8 :=
  if 48 ≤ value ∧ value ≤ 57 then some (value - 48)
  else if 97 ≤ value ∧ value ≤ 102 then some (value - 97 + 10)
  else if 65 ≤ value ∧ value ≤ 70 then some (value - 65 + 10)
  else none

def keyByte (hex : List UInt8) (index : Nat) : Option UInt8 := do
  let high ← nibble (hex.getD (index * 2) 0)
  let low ← nibble (hex.getD (index * 2 + 1) 0)
  return high <<< 4 ||| low

/-- A key is parsed byte by byte, unless its length is wrong. -/
def parseKey (hex : List UInt8) : Option (Vector UInt8 16) :=
  if (cString hex).length ≠ 32 then none
  else if (List.range 16).all fun index => (keyByte hex index).isSome then
    some (.ofFn fun index => (keyByte hex index).getD 0)
  else none

/-- Each pair of an address is parsed as the first byte of a key that goes on with zeros. -/
def addressByte (value : List UInt8) (index : Nat) : Option UInt8 :=
  (parseKey ([value.getD (index * 3) 0, value.getD (index * 3 + 1) 0] ++
    List.replicate 30 48)).map fun decoded => decoded[0]

def parseAddress (value : List UInt8) : Option (Vector UInt8 6) :=
  if (cString value).length ≠ 17 then none
  else if (List.range 6).all fun index =>
      (index == 0 || value.getD (index * 3 - 1) 0 == 58) && (addressByte value index).isSome then
    some (.ofFn fun index => (addressByte value index).getD 0)
  else none

def maxPeers : Nat := PeerRegistry.capacity

def addPeer (r : EspIdfEspNowEncryptedRadio) (destinationId address lmkHex : List UInt8) :
    Bool × EspIdfEspNowEncryptedRadio :=
  if ¬ r.configured ∨ r.initialized ∨ r.peers.size ≥ maxPeers ∨ cString destinationId = [] ∨
      (r.peers.peer (r.peers.indexForId destinationId)).isSome then (false, r)
  else
    match BoundedText.assign destinationId, parseAddress address, parseKey lmkHex with
    | (true, id), some address, some lmk =>
      if r.peers.indexForAddress address ≠ invalidPeerIndex then (false, r)
      else
        let (added, peers) := r.peers.add { id, address, lmk }
        (added, { r with peers })
    | _, _, _ => (false, r)

end EspIdfEspNowEncryptedRadio

/-- A source is stored as the literal itself. -/
def PeerApplicationIdentity.set (identities : PeerApplicationIdentity) (peer : PeerIndex)
    (sourceId : List UInt8) : Bool × PeerApplicationIdentity :=
  if peer ≥ 16 ∨ cString sourceId = [] ∨ (identities.expected peer).isSome then (false, identities)
  else if (cString sourceId).length > 63 then (false, identities)
  else (true, { expected := Function.update identities.expected peer (some sourceId) })

/-- What the generated calls set up. -/
structure PeerSetup where
  radio : EspIdfEspNowEncryptedRadio := {}
  pmk : Vector UInt8 16 := .replicate 16 0
  peerApplicationIdentity : PeerApplicationIdentity := {}

namespace PeerSetup

def configure (s : PeerSetup) (channel : UInt8) (pmkHex : List UInt8) : Bool × PeerSetup :=
  if s.radio.configured ∨ channel = 0 ∨ channel > 14 then (false, s)
  else
    match EspIdfEspNowEncryptedRadio.parseKey pmkHex with
    | none => (false, s)
    | some pmk =>
      (true, { s with pmk, radio := { s.radio with expectedChannel := channel, configured := true } })

def addPeer (s : PeerSetup) (peer : PeerConfig) : Bool × PeerSetup :=
  let (added, radio) := s.radio.addPeer (utf8 peer.id) (utf8 peer.address) (utf8 peer.lmk)
  (added, { s with radio })

def setExpectedApplicationSource (s : PeerSetup) (peerId sourceId : List UInt8) :
    Bool × PeerSetup :=
  let (set, peerApplicationIdentity) :=
    s.peerApplicationIdentity.set (s.radio.peers.indexForId peerId) sourceId
  (set, { s with peerApplicationIdentity })

def addPeers : List PeerConfig → PeerSetup → List Bool × PeerSetup
  | [], s => ([], s)
  | peer :: later, s =>
    let (added, s) := s.addPeer peer
    let (results, s) := addPeers later s
    (added :: results, s)

def setSources : List PeerConfig → PeerSetup → List Bool × PeerSetup
  | [], s => ([], s)
  | peer :: later, s =>
    match peer.applicationSourceId with
    | none => setSources later s
    | some source =>
      let (set, s) := s.setExpectedApplicationSource (utf8 peer.id) (utf8 source)
      let (results, s) := setSources later s
      (set :: results, s)

/-- The calls of the generated code, in their order, with their results. -/
def generated (config : ProtocolConfig) : List Bool × PeerSetup :=
  let (configured, s) := ({} : PeerSetup).configure (UInt8.ofNat config.channel.toNat) (utf8 config.pmk)
  let (added, s) := addPeers config.peers s
  let (set, s) := setSources config.peers s
  (configured :: added ++ set, s)

end PeerSetup

/- What the texts mean -/

def digitValue (c : Char) : Nat := hexDigits.idxOf c

/-- The value of the two digits that stand at a place of a text. -/
def hexPair (value : Text) (place : Nat) : UInt8 :=
  UInt8.ofNat (16 * digitValue (value.getD place '0') + digitValue (value.getD (place + 1) '0'))

def keyValue (value : Text) : Vector UInt8 16 := .ofFn fun i => hexPair value (2 * i)

def addressValue (value : Text) : Vector UInt8 6 := .ofFn fun i => hexPair value (3 * i)

/-- Every call succeeds; keys and addresses have the values they are written as, and each peer
    is found at its place. -/
structure SetUp (config : ProtocolConfig) (run : List Bool × PeerSetup) : Prop where
  calls : ∀ result ∈ run.1, result = true
  pmk : run.2.pmk = keyValue config.pmk
  peers : ∀ i peer, config.peers[i]? = some peer → ∃ stored,
    run.2.radio.peers.peers[i]? = some stored ∧ stored.address = addressValue peer.address ∧
      stored.lmk = keyValue peer.lmk ∧
      run.2.radio.peers.indexForId (utf8 peer.id) = UInt8.ofNat i

/-- As literals of the generated code, ids and sources are neither empty nor too long, and the
    ids are told apart. -/
structure LiteralsFit (config : ProtocolConfig) : Prop where
  ids : ∀ peer ∈ config.peers, 0 < (literal peer.id).length ∧ (literal peer.id).length ≤ 63
  distinct : (config.peers.map fun peer => literal peer.id).Nodup
  sources : ∀ peer ∈ config.peers, ∀ source ∈ peer.applicationSourceId,
    0 < (literal source).length ∧ (literal source).length ≤ 63

/- Parsing what the schema accepts -/

def plainDigits : Text := ':' :: hexDigits

theorem getD_mem {value : Text} {place : Nat} (inside : place < value.length) :
    value.getD place '0' ∈ value := by
  rw [List.getD_eq_getElem _ _ inside]
  exact List.getElem_mem inside

theorem PeerValidation.KeyText.plain {value : Text} (text : KeyText value) :
    ∀ c ∈ value, c ∈ plainDigits :=
  fun c member => List.mem_cons_of_mem _ (text.digits c member)

theorem PeerValidation.AddressText.plain {value : Text} (text : AddressText value) :
    ∀ c ∈ value, c ∈ plainDigits := by
  intro c member
  obtain ⟨place, inside, rfl⟩ := List.getElem_of_mem member
  rw [← List.getD_eq_getElem _ '0' inside]
  have seventeen := text.length
  have cases : place % 3 = 0 ∨ place % 3 = 1 ∨ place % 3 = 2 := by omega
  rcases cases with first | second | colon
  · have pair := (text.digits (place / 3) (by omega)).1
    rw [show 3 * (place / 3) = place by omega] at pair
    exact List.mem_cons_of_mem _ pair
  · have pair := (text.digits (place / 3) (by omega)).2
    rw [show 3 * (place / 3) + 1 = place by omega] at pair
    exact List.mem_cons_of_mem _ pair
  · have between := text.colons (place / 3) (by omega)
    rw [show 3 * (place / 3) + 2 = place by omega] at between
    rw [between]
    exact List.mem_cons_self

/-- Digits and colons are single bytes in the generated literal. -/
theorem utf8_plain {value : Text} (plain : ∀ c ∈ value, c ∈ plainDigits) :
    utf8 value = value.map Char.toUInt8 := by
  have single : plainDigits.all (fun c => String.utf8EncodeChar c == [c.toUInt8]) = true := by
    decide
  induction value with
  | nil => rfl
  | cons first rest hyp =>
    have later := hyp fun c member => plain c (List.mem_cons_of_mem _ member)
    have alone := eq_of_beq (List.all_eq_true.mp single first (plain first List.mem_cons_self))
    rw [utf8, List.flatMap_cons, alone, List.map_cons, ← later]
    rfl

theorem literal_plain {value : Text} (plain : ∀ c ∈ value, c ∈ plainDigits) :
    literal value = value.map Char.toUInt8 := by
  have visible : plainDigits.all (fun c => c.toUInt8 != 0) = true := by decide
  rw [literal, utf8_plain plain, cString_eq_self]
  intro member
  obtain ⟨c, present, zero⟩ := List.mem_map.mp member
  exact bne_iff_ne.mp (List.all_eq_true.mp visible c (plain c present)) zero

theorem utf8_getD {value : Text} {place : Nat} (plain : ∀ c ∈ value, c ∈ plainDigits)
    (inside : place < value.length) :
    (utf8 value).getD place 0 = (value.getD place '0').toUInt8 := by
  rw [utf8_plain plain, List.getD_eq_getElem _ _ (by simpa using inside), List.getElem_map,
    List.getD_eq_getElem _ _ inside]

namespace EspIdfEspNowEncryptedRadio

theorem digitValue_lt {c : Char} (digit : c ∈ hexDigits) : digitValue c < 16 :=
  List.idxOf_lt_length_of_mem digit

theorem nibble_digit {c : Char} (digit : c ∈ hexDigits) :
    nibble c.toUInt8 = some (UInt8.ofNat (digitValue c)) := by
  have each : hexDigits.all
      (fun c => nibble c.toUInt8 == some (UInt8.ofNat (digitValue c))) = true := by decide
  exact eq_of_beq (List.all_eq_true.mp each c digit)

theorem nibbles_join : ∀ high < 16, ∀ low < 16,
    UInt8.ofNat high <<< 4 ||| UInt8.ofNat low = UInt8.ofNat (16 * high + low) := by
  decide +kernel

theorem keyByte_digits {value : Text} (text : KeyText value) {index : Nat} (inside : index < 16) :
    keyByte (utf8 value) index = some (hexPair value (2 * index)) := by
  have long := text.length
  have high := text.digits _ (getD_mem (show index * 2 < value.length by omega))
  have low := text.digits _ (getD_mem (show index * 2 + 1 < value.length by omega))
  unfold keyByte
  rw [utf8_getD text.plain (by omega), utf8_getD text.plain (by omega), nibble_digit high,
    nibble_digit low]
  have join := nibbles_join _ (digitValue_lt high) _ (digitValue_lt low)
  rw [Nat.mul_comm index 2] at join ⊢
  exact congrArg some join

theorem parseKey_digits {value : Text} (text : KeyText value) :
    parseKey (utf8 value) = some (keyValue value) := by
  have long : (cString (utf8 value)).length = 32 := by
    have same := congrArg List.length (literal_plain text.plain)
    rw [List.length_map, text.length] at same
    exact same
  have bytes : (List.range 16).all fun index => (keyByte (utf8 value) index).isSome := by
    apply List.all_eq_true.mpr
    intro index inside
    rw [keyByte_digits text (List.mem_range.mp inside)]
    rfl
  unfold parseKey
  rw [if_neg (by simp [long]), if_pos bytes]
  apply congrArg some
  ext index inside
  simp [keyValue, keyByte_digits text inside]

theorem addressByte_digits {value : Text} (text : AddressText value) {index : Nat}
    (inside : index < 6) : addressByte (utf8 value) index = some (hexPair value (3 * index)) := by
  have long := text.length
  obtain ⟨high, low⟩ := text.digits index inside
  have padded : KeyText (value.getD (3 * index) '0' :: value.getD (3 * index + 1) '0' ::
      List.replicate 30 '0') := by
    constructor
    · simp
    · intro c member
      rcases List.mem_cons.mp member with rfl | member
      · exact high
      · rcases List.mem_cons.mp member with rfl | member
        · exact low
        · rw [List.eq_of_mem_replicate member]
          decide
  have same : [(utf8 value).getD (index * 3) 0, (utf8 value).getD (index * 3 + 1) 0] ++
      List.replicate 30 48 = utf8 (value.getD (3 * index) '0' ::
        value.getD (3 * index + 1) '0' :: List.replicate 30 '0') := by
    rw [utf8_plain padded.plain, utf8_getD text.plain (by omega), utf8_getD text.plain (by omega),
      Nat.mul_comm index 3]
    rfl
  unfold addressByte
  rw [same, parseKey_digits padded]
  simp [keyValue, hexPair]

theorem parseAddress_digits {value : Text} (text : AddressText value) :
    parseAddress (utf8 value) = some (addressValue value) := by
  have seventeen := text.length
  have long : (cString (utf8 value)).length = 17 := by
    have same := congrArg List.length (literal_plain text.plain)
    rw [List.length_map, text.length] at same
    exact same
  have bytes : (List.range 6).all fun index =>
      (index == 0 || (utf8 value).getD (index * 3 - 1) 0 == 58) &&
        (addressByte (utf8 value) index).isSome := by
    apply List.all_eq_true.mpr
    intro index member
    have inside := List.mem_range.mp member
    rw [addressByte_digits text inside, Option.isSome_some, Bool.and_true]
    by_cases first : index = 0
    · simp [first]
    · have colon := text.colons (index - 1) (by omega)
      rw [utf8_getD text.plain (by omega), show index * 3 - 1 = 3 * (index - 1) + 2 by omega, colon]
      exact Bool.or_true _
  unfold parseAddress
  rw [if_neg (by simp [long]), if_pos bytes]
  apply congrArg some
  ext index inside
  simp [addressValue, addressByte_digits text inside]

end EspIdfEspNowEncryptedRadio

/- Different addresses have different values -/

theorem digitValue_injective {a b : Char} (digit : a ∈ hexDigits)
    (same : digitValue a = digitValue b) : a = b :=
  (List.idxOf_inj digit).mp same

/-- Both digits are below sixteen, so their byte gives them back. -/
theorem hexPair_injective {a b a' b' : Char} (digits : a ∈ hexDigits ∧ b ∈ hexDigits)
    (digits' : a' ∈ hexDigits ∧ b' ∈ hexDigits)
    (same : UInt8.ofNat (16 * digitValue a + digitValue b) =
      UInt8.ofNat (16 * digitValue a' + digitValue b')) : a = a' ∧ b = b' := by
  have bound {c : Char} (digit : c ∈ hexDigits) := EspIdfEspNowEncryptedRadio.digitValue_lt digit
  have high := bound digits.1
  have low := bound digits.2
  have high' := bound digits'.1
  have low' := bound digits'.2
  have numbers := congrArg UInt8.toNat same
  have size : UInt8.size = 256 := rfl
  rw [UInt8.toNat_ofNat_of_lt' (by omega), UInt8.toNat_ofNat_of_lt' (by omega)] at numbers
  constructor
  · apply digitValue_injective digits.1
    omega
  · apply digitValue_injective digits.2
    omega

theorem addressValue_injective {a b : Text} (first : AddressText a) (second : AddressText b)
    (same : addressValue a = addressValue b) : a = b := by
  have pairs : ∀ i, i < 6 → a.getD (3 * i) '0' = b.getD (3 * i) '0' ∧
      a.getD (3 * i + 1) '0' = b.getD (3 * i + 1) '0' := by
    intro i inside
    have byte : hexPair a (3 * i) = hexPair b (3 * i) := by
      have component := congrArg (fun value : Vector UInt8 6 => value[i]) same
      simpa [addressValue] using component
    exact hexPair_injective (first.digits i inside) (second.digits i inside) byte
  have long := first.length
  have long' := second.length
  apply List.ext_getElem (by omega)
  intro place inside inside'
  rw [← List.getD_eq_getElem _ '0' inside, ← List.getD_eq_getElem _ '0' inside']
  have cases : place % 3 = 0 ∨ place % 3 = 1 ∨ place % 3 = 2 := by omega
  rcases cases with high | low | colon
  · have digit := (pairs (place / 3) (by omega)).1
    rwa [show 3 * (place / 3) = place by omega] at digit
  · have digit := (pairs (place / 3) (by omega)).2
    rwa [show 3 * (place / 3) + 1 = place by omega] at digit
  · have here := first.colons (place / 3) (by omega)
    have there := second.colons (place / 3) (by omega)
    rw [show 3 * (place / 3) + 2 = place by omega] at here there
    rw [here, there]

/- The calls, one after the other -/

/-- What a peer of the configuration is stored as. -/
def asStored (peer : PeerConfig) : List UInt8 × Vector UInt8 6 × Vector UInt8 16 :=
  (literal peer.id, addressValue peer.address, keyValue peer.lmk)

/-- The radio waits for its first poll and holds these peers, in this order. -/
structure Holds (r : EspIdfEspNowEncryptedRadio) (peers : List PeerConfig) : Prop where
  configured : r.configured = true
  waiting : r.initialized = false
  peers : r.peers.peers.map (fun peer => (peer.id.chars, peer.address, peer.lmk)) =
    peers.map asStored

def IdFits (id : Text) : Prop := 0 < (literal id).length ∧ (literal id).length ≤ 63

/-- What the schema promises about the peers that are still to be added to others. -/
structure Joining (held peers : List PeerConfig) : Prop where
  accepted : ∀ peer ∈ peers, PeerAccepted peer
  room : (held ++ peers).length ≤ 16
  addresses : ((held ++ peers).map fun peer => addressValue peer.address).Nodup

theorem Joining.next {held rest : List PeerConfig} {peer : PeerConfig}
    (joining : Joining held (peer :: rest)) : Joining (held ++ [peer]) rest := by
  have same : held ++ [peer] ++ rest = held ++ peer :: rest := by simp
  constructor
  · exact fun other member => joining.accepted other (List.mem_cons_of_mem _ member)
  · rw [same]
    exact joining.room
  · rw [same]
    exact joining.addresses

/-- An element between two parts of a list without duplicates is not in the first. -/
theorem notMem_of_nodup {A B : Type} {f : A → B} {before after : List A} {between : A}
    (distinct : ((before ++ between :: after).map f).Nodup) : f between ∉ before.map f := by
  rw [List.map_append, List.map_cons] at distinct
  intro member
  exact (List.nodup_append.mp distinct).2.2 _ member _ List.mem_cons_self rfl

namespace Holds
variable {r : EspIdfEspNowEncryptedRadio} {held : List PeerConfig} {peer : PeerConfig}

theorem length (holds : Holds r held) : r.peers.peers.length = held.length := by
  have same := congrArg List.length holds.peers
  simpa using same

/-- Each component of what is stored, for all peers at once. -/
theorem component {A : Type} (holds : Holds r held)
    (part : List UInt8 × Vector UInt8 6 × Vector UInt8 16 → A) :
    r.peers.peers.map (fun peer => part (peer.id.chars, peer.address, peer.lmk)) =
      held.map fun peer => part (asStored peer) := by
  have same := congrArg (List.map part) holds.peers
  simpa [List.map_map, Function.comp_def] using same

theorem ids (holds : Holds r held) :
    r.peers.peers.map (·.id.chars) = held.map fun peer => literal peer.id :=
  holds.component (·.1)

theorem addresses (holds : Holds r held) :
    r.peers.peers.map (·.address) = held.map fun peer => addressValue peer.address :=
  holds.component (·.2.1)

theorem found {index : Nat} (holds : Holds r held) (there : held[index]? = some peer) :
    ∃ identity, r.peers.peers[index]? = some identity ∧
      (identity.id.chars, identity.address, identity.lmk) = asStored peer := by
  have same := congrArg (fun list => list[index]?) holds.peers
  simp only [List.getElem?_map, there, Option.map_some] at same
  obtain ⟨identity, stored, meant⟩ := Option.map_eq_some_iff.mp same
  exact ⟨identity, stored, meant⟩

theorem indexForId {index : Nat} (holds : Holds r held) (there : held[index]? = some peer) :
    r.peers.indexForId (utf8 peer.id) = UInt8.ofNat index := by
  obtain ⟨identity, stored, meant⟩ := holds.found there
  exact PeerRegistry.indexForId_peer stored (congrArg (·.1) meant)

end Holds

namespace EspIdfEspNowEncryptedRadio
variable {r : EspIdfEspNowEncryptedRadio} {held rest : List PeerConfig} {peer : PeerConfig}

/-- The peer that `addPeer` makes once the id fits. -/
def identityOf (peer : PeerConfig) (fits : IdFits peer.id) : PeerIdentity where
  id := ⟨literal peer.id, fits.2, BoundedText.cString_noNul _⟩
  address := addressValue peer.address
  lmk := keyValue peer.lmk

theorem addPeer_fits (holds : Holds r held) (joining : Joining held (peer :: rest))
    (fits : IdFits peer.id) (fresh : literal peer.id ∉ held.map fun other => literal other.id) :
    (r.addPeer (utf8 peer.id) (utf8 peer.address) (utf8 peer.lmk)).1 = true ∧
      Holds (r.addPeer (utf8 peer.id) (utf8 peer.address) (utf8 peer.lmk)).2 (held ++ [peer]) := by
  have accepted := joining.accepted peer List.mem_cons_self
  have room : held.length < 16 := by
    have := joining.room
    simp at this
    omega
  have named : cString (utf8 peer.id) ≠ [] := List.ne_nil_of_length_pos fits.1
  have ids : ∀ other ∈ r.peers.peers, other.id.chars ≠ literal peer.id := by
    intro other member same
    apply fresh
    rw [← holds.ids, ← same]
    exact List.mem_map_of_mem member
  have addresses : ∀ other ∈ r.peers.peers, other.address ≠ addressValue peer.address := by
    intro other member same
    apply notMem_of_nodup joining.addresses
    rw [← holds.addresses, ← same]
    exact List.mem_map_of_mem member
  have unknown : ¬(r.peers.peer (r.peers.indexForId (utf8 peer.id))).isSome = true := by
    rw [PeerRegistry.findPeer_isSome]
    rintro ⟨other, member, same⟩
    exact ids other member same
  have assigned : BoundedText.assign (utf8 peer.id) = (true, (identityOf peer fits).id) :=
    dif_pos fits.2
  have free : r.peers.indexForAddress (addressValue peer.address) = invalidPeerIndex := by
    apply PeerRegistry.indexOf_invalid_iff.mpr
    intro other member
    simpa using addresses other member
  have run : r.addPeer (utf8 peer.id) (utf8 peer.address) (utf8 peer.lmk) =
      ((r.peers.add (identityOf peer fits)).1,
        { r with peers := (r.peers.add (identityOf peer fits)).2 }) := by
    unfold addPeer
    rw [if_neg (by simp [holds.configured, holds.waiting, named, unknown, PeerRegistry.size,
      holds.length, maxPeers, PeerRegistry.capacity, room]), assigned,
      parseAddress_digits accepted.address, parseKey_digits accepted.lmk]
    simp [free, identityOf]
  have added : (r.peers.add (identityOf peer fits)).1 = true :=
    PeerRegistry.add_iff.mpr ⟨named, by rw [holds.length]; exact room, ids, addresses⟩
  rw [run]
  constructor
  · exact added
  · constructor
    · exact holds.configured
    · exact holds.waiting
    · rw [PeerRegistry.add_peers added, List.map_append, List.map_append, holds.peers]
      rfl

theorem addPeer_true (holds : Holds r held)
    (added : (r.addPeer (utf8 peer.id) (utf8 peer.address) (utf8 peer.lmk)).1 = true) :
    IdFits peer.id ∧ literal peer.id ∉ held.map fun other => literal other.id := by
  unfold addPeer at added
  split at added
  · cases added
  · rename_i checked
    simp only [not_or, not_le] at checked
    obtain ⟨_, _, _, named, unknown⟩ := checked
    rw [PeerRegistry.findPeer_isSome] at unknown
    constructor
    · constructor
      · exact List.length_pos_iff.mpr named
      · by_contra long
        have refused : BoundedText.assign (utf8 peer.id) =
            (false, (BoundedText.clear : BoundedText 63)) := dif_neg long
        simp [refused] at added
    · rw [← holds.ids]
      intro member
      obtain ⟨other, there, same⟩ := List.mem_map.mp member
      exact unknown ⟨other, there, same⟩

end EspIdfEspNowEncryptedRadio

namespace PeerApplicationIdentity
variable {identities : PeerApplicationIdentity} {peer other : PeerIndex} {sourceId : List UInt8}

theorem set_iff (inside : peer.toNat < 16) (free : identities.expected peer = none) :
    (identities.set peer sourceId).1 = true ↔
      0 < (cString sourceId).length ∧ (cString sourceId).length ≤ 63 := by
  have small : ¬peer ≥ 16 := by
    rw [ge_iff_le, UInt8.le_iff_toNat_le]
    have : (16 : UInt8).toNat = 16 := rfl
    omega
  unfold set
  by_cases empty : cString sourceId = []
  · simp [empty]
  · have positive := List.length_pos_iff.mpr empty
    by_cases long : (cString sourceId).length > 63
    · simp [small, free, empty, long]
    · simp [small, free, empty, long, positive, Nat.not_lt.mp long]

theorem set_other (apart : other ≠ peer) :
    (identities.set peer sourceId).2.expected other = identities.expected other := by
  unfold set
  split
  · rfl
  · split
    · rfl
    · exact Function.update_of_ne apart _ _

end PeerApplicationIdentity

namespace PeerSetup
variable {s : PeerSetup} {held peers : List PeerConfig}

/-- The ids still to be added fit, and no two of all are equal. -/
structure IdsFit (held peers : List PeerConfig) : Prop where
  fits : ∀ peer ∈ peers, IdFits peer.id
  distinct : ((held ++ peers).map fun peer => literal peer.id).Nodup

theorem addPeers_ready (holds : Holds s.radio held) (joining : Joining held peers)
    (fit : IdsFit held peers) : (∀ result ∈ (addPeers peers s).1, result = true) ∧
      Holds (addPeers peers s).2.radio (held ++ peers) := by
  induction peers generalizing s held with
  | nil =>
    constructor
    · intro result member
      cases member
    · rwa [List.append_nil]
  | cons peer rest hyp =>
    have same : held ++ [peer] ++ rest = held ++ peer :: rest := by simp
    obtain ⟨added, next⟩ := EspIdfEspNowEncryptedRadio.addPeer_fits holds joining
      (fit.fits peer List.mem_cons_self) (notMem_of_nodup fit.distinct)
    have others : IdsFit (held ++ [peer]) rest := by
      constructor
      · exact fun other member => fit.fits other (List.mem_cons_of_mem _ member)
      · rw [same]
        exact fit.distinct
    obtain ⟨later, last⟩ := hyp (s := (s.addPeer peer).2) next joining.next others
    rw [same] at last
    constructor
    · intro result member
      rcases List.mem_cons.mp member with rfl | member
      · exact added
      · exact later result member
    · exact last

theorem idsFit_of_addPeers (holds : Holds s.radio held) (joining : Joining held peers)
    (run : ∀ result ∈ (addPeers peers s).1, result = true) : IdsFit held peers := by
  induction peers generalizing s held with
  | nil =>
    constructor
    · intro peer member
      cases member
    · rw [List.append_nil, ← holds.ids]
      have distinct := List.Nodup.map (f := BoundedText.chars)
        (fun _ _ => PeerRegistry.chars_injective) s.radio.peers.idsDistinct
      rwa [List.map_map] at distinct
  | cons peer rest hyp =>
    have same : held ++ [peer] ++ rest = held ++ peer :: rest := by simp
    obtain ⟨fits, fresh⟩ := EspIdfEspNowEncryptedRadio.addPeer_true holds
      (run (s.addPeer peer).1 List.mem_cons_self)
    have next := (EspIdfEspNowEncryptedRadio.addPeer_fits holds joining fits fresh).2
    have later := hyp (s := (s.addPeer peer).2) next joining.next
      fun result member => run result (List.mem_cons_of_mem _ member)
    constructor
    · intro other member
      rcases List.mem_cons.mp member with rfl | member
      · exact fits
      · exact later.fits other member
    · rw [← same]
      exact later.distinct

theorem addPeers_frame : (addPeers peers s).2.pmk = s.pmk ∧
    (addPeers peers s).2.peerApplicationIdentity = s.peerApplicationIdentity := by
  induction peers generalizing s with
  | nil => exact ⟨rfl, rfl⟩
  | cons peer rest hyp => exact hyp (s := (s.addPeer peer).2)

theorem setSources_frame : (setSources peers s).2.pmk = s.pmk ∧
    (setSources peers s).2.radio = s.radio := by
  induction peers generalizing s with
  | nil => exact ⟨rfl, rfl⟩
  | cons peer rest hyp =>
    unfold setSources
    cases peer.applicationSourceId with
    | none => exact hyp
    | some source => exact hyp (s := (s.setExpectedApplicationSource (utf8 peer.id) (utf8 source)).2)

/-- Sources are set in the order of the peers, so none is set twice. -/
theorem setSources_iff (holds : Holds s.radio (held ++ peers))
    (unset : ∀ index : PeerIndex, held.length ≤ index.toNat →
      s.peerApplicationIdentity.expected index = none) :
    (∀ result ∈ (setSources peers s).1, result = true) ↔
      ∀ peer ∈ peers, ∀ source ∈ peer.applicationSourceId, IdFits source := by
  induction peers generalizing s held with
  | nil => simp [setSources]
  | cons peer rest hyp =>
    have same : held ++ [peer] ++ rest = held ++ peer :: rest := by simp
    have room : held.length < 16 := by
      have fits := s.radio.peers.fits
      rw [holds.length] at fits
      simp at fits
      omega
    have index : s.radio.peers.indexForId (utf8 peer.id) = UInt8.ofNat held.length :=
      holds.indexForId (by simp)
    have number : (UInt8.ofNat held.length).toNat = held.length :=
      UInt8.toNat_ofNat_of_lt' (by have size : UInt8.size = 256 := rfl; omega)
    unfold setSources
    cases given : peer.applicationSourceId with
    | none =>
      have later := @hyp s (held ++ [peer]) (by rwa [same]) fun index above =>
        unset index (by simp at above; omega)
      simp only [later, List.forall_mem_cons, given]
      simp
    | some source =>
      have set : (s.setExpectedApplicationSource (utf8 peer.id) (utf8 source)).1 = true ↔
          IdFits source := by
        rw [setExpectedApplicationSource, index]
        exact PeerApplicationIdentity.set_iff (by omega) (unset _ (by omega))
      have kept : ∀ index : PeerIndex, (held ++ [peer]).length ≤ index.toNat →
          (s.setExpectedApplicationSource (utf8 peer.id)
            (utf8 source)).2.peerApplicationIdentity.expected index = none := by
        intro later above
        have apart : later ≠ UInt8.ofNat held.length := by
          rintro rfl
          rw [number] at above
          simp at above
        rw [setExpectedApplicationSource, index]
        exact (PeerApplicationIdentity.set_other apart).trans
          (unset later (by simp at above; omega))
      have later := @hyp (s.setExpectedApplicationSource (utf8 peer.id) (utf8 source)).2
        (held ++ [peer]) (by rw [same]; exact holds) kept
      simp only [List.forall_mem_cons, set, later, given]
      simp

end PeerSetup

theorem configure_accepted {config : ProtocolConfig} (accepted : ConfigAccepted config) :
    ({} : PeerSetup).configure (UInt8.ofNat config.channel.toNat) (utf8 config.pmk) =
      (true, {
        pmk := keyValue config.pmk
        radio := {
          expectedChannel := UInt8.ofNat config.channel.toNat
          configured := true } }) := by
  obtain ⟨low, high⟩ := accepted.channel
  have number : (UInt8.ofNat config.channel.toNat).toNat = config.channel.toNat :=
    UInt8.toNat_ofNat_of_lt' (by have size : UInt8.size = 256 := rfl; omega)
  have positive : UInt8.ofNat config.channel.toNat ≠ 0 := by
    intro zero
    rw [zero] at number
    have : (0 : UInt8).toNat = 0 := rfl
    omega
  have small : ¬UInt8.ofNat config.channel.toNat > 14 := by
    rw [gt_iff_lt, UInt8.lt_iff_toNat_lt, number]
    have : (14 : UInt8).toNat = 14 := rfl
    omega
  unfold PeerSetup.configure
  rw [if_neg (by simp [positive, small]),
    EspIdfEspNowEncryptedRadio.parseKey_digits accepted.pmk]

theorem joining_of_accepted {config : ProtocolConfig} (accepted : ConfigAccepted config) :
    Joining [] config.peers := by
  constructor
  · exact accepted.peers
  · exact accepted.count
  · have distinct := accepted.addresses
    rw [List.nil_append]
    unfold List.Nodup at distinct ⊢
    rw [List.pairwise_map] at distinct ⊢
    apply distinct.imp_of_mem
    intro a b first second apart same
    exact apart (addressValue_injective (accepted.peers a first).address
      (accepted.peers b second).address same)

/-- The generated calls do what the configuration says if and only if its texts fit as literals;
    the schema bounds them in characters, and does not see a NUL. -/
theorem set_up_iff_literals_fit {special : Char → Text} {raw config : ProtocolConfig}
    (schema : configSchema special raw = .ok config) :
    SetUp config (PeerSetup.generated config) ↔ LiteralsFit config := by
  have accepted := configAccepted_of_schema schema
  have joining := joining_of_accepted accepted
  have configured := configure_accepted accepted
  set s : PeerSetup := (({} : PeerSetup).configure (UInt8.ofNat config.channel.toNat)
    (utf8 config.pmk)).2 with start
  have empty : Holds s.radio [] := by
    rw [start, configured]
    exact ⟨rfl, rfl, rfl⟩
  have run : PeerSetup.generated config =
      (true :: (PeerSetup.addPeers config.peers s).1 ++
        (PeerSetup.setSources config.peers (PeerSetup.addPeers config.peers s).2).1,
      (PeerSetup.setSources config.peers (PeerSetup.addPeers config.peers s).2).2) := by
    rw [PeerSetup.generated, start, configured]
  have unset (index : PeerIndex) :
      (PeerSetup.addPeers config.peers s).2.peerApplicationIdentity.expected index = none := by
    rw [PeerSetup.addPeers_frame.2, start, configured]
  constructor
  · intro setUp
    have calls := setUp.calls
    rw [run] at calls
    have added : ∀ result ∈ (PeerSetup.addPeers config.peers s).1, result = true :=
      fun result member => calls result (List.mem_append_left _ (List.mem_cons_of_mem _ member))
    have fit := PeerSetup.idsFit_of_addPeers empty joining added
    have holds := (PeerSetup.addPeers_ready empty joining fit).2
    constructor
    · exact fit.fits
    · exact fit.distinct
    · exact (PeerSetup.setSources_iff holds fun index _ => unset index).mp
        fun result member => calls result (List.mem_append_right _ member)
  · intro literals
    have fit : PeerSetup.IdsFit [] config.peers := ⟨literals.ids, literals.distinct⟩
    obtain ⟨added, holds⟩ := PeerSetup.addPeers_ready empty joining fit
    have sources := (PeerSetup.setSources_iff holds fun index _ => unset index).mpr
      literals.sources
    rw [run]
    constructor
    · intro result member
      rcases List.mem_append.mp member with early | set
      · rcases List.mem_cons.mp early with rfl | early
        · rfl
        · exact added result early
      · exact sources result set
    · rw [PeerSetup.setSources_frame.1, PeerSetup.addPeers_frame.1, start, configured]
    · intro i peer there
      obtain ⟨identity, stored, meant⟩ := holds.found there
      rw [PeerSetup.setSources_frame.2]
      refine ⟨identity, stored, congrArg (·.2.1) meant, congrArg (·.2.2) meant, ?_⟩
      exact holds.indexForId there

/-- Two peers, the first with a source. -/
def pairConfig (id : Text) : ProtocolConfig where
  channel := 1
  pmk := "00112233445566778899AABBCCDDEEFF".toList
  peers := [
    { id
      address := "AA:BB:CC:DD:EE:01".toList
      lmk := "FFEEDDCCBBAA99887766554433221100".toList
      applicationSourceId := some "panel".toList },
    { id := "bridge".toList
      address := "AA:BB:CC:DD:EE:02".toList
      lmk := "000102030405060708090A0B0C0D0E0F".toList }]

theorem set_up_iff_literals_fit_pair :
    SetUp (pairConfig "office".toList) (PeerSetup.generated (pairConfig "office".toList)) ↔
      LiteralsFit (pairConfig "office".toList) :=
  have schema : configSchema (fun _ => []) (pairConfig "office".toList) =
      .ok (pairConfig "office".toList) := by decide +kernel
  set_up_iff_literals_fit schema

/-- Sixty-three characters are accepted as an id, here of two bytes each. -/
theorem accepted_id_is_refused :
    configSchema (fun _ => []) (pairConfig (List.replicate 63 'é')) =
        .ok (pairConfig (List.replicate 63 'é')) ∧
      ¬SetUp (pairConfig (List.replicate 63 'é'))
        (PeerSetup.generated (pairConfig (List.replicate 63 'é'))) := by
  have results : (PeerSetup.generated (pairConfig (List.replicate 63 'é'))).1 =
      [true, false, true, false] := by
    decide +kernel
  constructor
  · decide +kernel
  · intro setUp
    have refused := setUp.calls false (by rw [results]; decide)
    cases refused

end EspNowNet
