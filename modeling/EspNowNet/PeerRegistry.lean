import EspNowNet.BoundedValue

/- The static list of configured peers. A registry carries the facts its `add` checks, so
   an index, an id and an address always denote the same peer. -/
namespace EspNowNet

structure PeerIdentity where
  id : BoundedText 63
  address : Vector UInt8 6
  lmk : Vector UInt8 16
  deriving DecidableEq

structure PeerRegistry where
  peers : List PeerIdentity
  fits : peers.length ≤ 16
  named : ∀ peer ∈ peers, peer.id.isEmpty = false
  idsDistinct : (peers.map (·.id)).Nodup
  addressesDistinct : (peers.map (·.address)).Nodup

namespace PeerRegistry

def capacity : Nat := 16

def empty : PeerRegistry := ⟨[], by decide, by simp, by simp, by simp⟩

def size (r : PeerRegistry) : Nat := r.peers.length

def peer (r : PeerRegistry) (index : PeerIndex) : Option PeerIdentity := r.peers[index.toNat]?

/-- The first peer with the property, as an index of the protocol. -/
def indexOf (r : PeerRegistry) (wanted : PeerIdentity → Bool) : PeerIndex :=
  match r.peers.findIdx? wanted with
  | some index => UInt8.ofNat index
  | none => invalidPeerIndex

def indexForId (r : PeerRegistry) (id : List UInt8) : PeerIndex :=
  r.indexOf (·.id.chars = cString id)

def indexForAddress (r : PeerRegistry) (address : Vector UInt8 6) : PeerIndex :=
  r.indexOf (·.address = address)

theorem indexOf_eq_invalid {r : PeerRegistry} {wanted : PeerIdentity → Bool}
    (absent : r.indexOf wanted = invalidPeerIndex) : ∀ peer ∈ r.peers, wanted peer = false := by
  unfold indexOf at absent
  split at absent
  · -- a found index is below sixteen, so it is not the invalid one
    rename_i index found
    obtain ⟨inside, _⟩ := List.findIdx?_eq_some_iff_getElem.mp found
    have small : index < 256 := by have := r.fits; omega
    have number := congrArg UInt8.toNat absent
    rw [UInt8.toNat_ofNat_of_lt' small] at number
    have : index = 255 := number
    have := r.fits
    omega
  · rename_i missing
    exact List.findIdx?_eq_none_iff.mp missing

theorem chars_injective {capacity : Nat} {a b : BoundedText capacity} (same : a.chars = b.chars) :
    a = b := by
  cases a
  cases b
  simpa using same

def add (r : PeerRegistry) (peer : PeerIdentity) : Bool × PeerRegistry :=
  if rejected : peer.id.isEmpty ∨ r.size ≥ capacity ∨
      r.indexForId peer.id.chars ≠ invalidPeerIndex ∨
      r.indexForAddress peer.address ≠ invalidPeerIndex then (false, r)
  else
    have accepted : peer.id.isEmpty = false ∧ r.size < capacity ∧
        r.indexForId peer.id.chars = invalidPeerIndex ∧
        r.indexForAddress peer.address = invalidPeerIndex := by
      simpa only [not_or, Bool.not_eq_true, not_le, ne_eq, Decidable.not_not] using rejected
    (true, {
      peers := r.peers ++ [peer]
      fits := by
        have := accepted.2.1
        simp only [size, capacity] at this
        simp
        omega
      named := by
        intro other member
        rcases List.mem_append.mp member with old | new
        · exact r.named other old
        · exact List.mem_singleton.mp new ▸ accepted.1
      idsDistinct := by
        have absent := indexOf_eq_invalid accepted.2.2.1
        rw [List.map_append, List.map_singleton]
        refine List.nodup_append.mpr ⟨r.idsDistinct, by simp, ?_⟩
        intro id member own new same
        obtain ⟨other, present, rfl⟩ := List.mem_map.mp member
        simpa [cString_eq_self peer.id.noNul, same, List.mem_singleton.mp new] using absent other present
      addressesDistinct := by
        have absent := indexOf_eq_invalid accepted.2.2.2
        rw [List.map_append, List.map_singleton]
        refine List.nodup_append.mpr ⟨r.addressesDistinct, by simp, ?_⟩
        intro address member own new same
        obtain ⟨other, present, rfl⟩ := List.mem_map.mp member
        simpa [same, List.mem_singleton.mp new] using absent other present })

/-- Only a missing peer has the invalid index, as at most sixteen are stored. -/
theorem indexOf_invalid_iff {r : PeerRegistry} {wanted : PeerIdentity → Bool} :
    r.indexOf wanted = invalidPeerIndex ↔ ∀ peer ∈ r.peers, wanted peer = false := by
  constructor
  · exact indexOf_eq_invalid
  · intro absent
    rw [indexOf, List.findIdx?_eq_none_iff.mpr absent]

theorem indexOf_eq {r : PeerRegistry} {wanted : PeerIdentity → Bool} {index : Nat}
    {peer : PeerIdentity} (stored : r.peers[index]? = some peer) (own : wanted peer = true)
    (first : ∀ earlier other, earlier < index → r.peers[earlier]? = some other →
      wanted other = false) : r.indexOf wanted = UInt8.ofNat index := by
  obtain ⟨inside, same⟩ := List.getElem?_eq_some_iff.mp stored
  have found : r.peers.findIdx? wanted = some index := by
    apply List.findIdx?_eq_some_iff_getElem.mpr
    refine ⟨inside, by rw [same]; exact own, ?_⟩
    intro earlier before
    have missed := first earlier _ before (List.getElem?_eq_getElem (by omega))
    simp [missed]
  rw [indexOf, found]

theorem indexForId_peer {r : PeerRegistry} {index : Nat} {peer : PeerIdentity} {id : List UInt8}
    (stored : r.peers[index]? = some peer) (same : peer.id.chars = cString id) :
    r.indexForId id = UInt8.ofNat index := by
  apply indexOf_eq stored (by simp [same])
  intro earlier other before there
  obtain ⟨inside, found⟩ := List.getElem?_eq_some_iff.mp stored
  obtain ⟨inside', found'⟩ := List.getElem?_eq_some_iff.mp there
  have apart := List.pairwise_iff_getElem.mp r.idsDistinct earlier index (by simpa using inside')
    (by simpa using inside) before
  rw [decide_eq_false_iff_not]
  intro equal
  apply apart
  rw [List.getElem_map, List.getElem_map, found', found]
  exact chars_injective (equal.trans same.symm)

theorem peer_invalid {r : PeerRegistry} : r.peer invalidPeerIndex = none := by
  apply List.getElem?_eq_none
  have := r.fits
  have : invalidPeerIndex.toNat = 255 := rfl
  omega

/-- The driver reports an address; it is that of the peer the frame was sent to. -/
theorem indexForAddress_peer {r : PeerRegistry} {index : PeerIndex} {peer : PeerIdentity}
    (found : r.peer index = some peer) : r.indexForAddress peer.address = index := by
  obtain ⟨inside, same⟩ := List.getElem?_eq_some_iff.mp found
  have own : r.indexForAddress peer.address = UInt8.ofNat index.toNat := by
    apply indexOf_eq found (by simp)
    intro earlier other before there
    obtain ⟨inside', found'⟩ := List.getElem?_eq_some_iff.mp there
    have apart := List.pairwise_iff_getElem.mp r.addressesDistinct earlier index.toNat
      (by simpa using inside') (by simpa using inside) before
    simpa [found', same] using apart
  rw [own, UInt8.ofNat_toNat]

/-- No other address has the index of a peer. -/
theorem address_of_index {r : PeerRegistry} {index : PeerIndex} {peer : PeerIdentity}
    {address : Vector UInt8 6} (found : r.peer index = some peer)
    (known : r.indexForAddress address = index) : peer.address = address := by
  have valid : index ≠ invalidPeerIndex := by
    rintro rfl
    rw [peer_invalid] at found
    cases found
  unfold indexForAddress indexOf at known
  split at known
  · rename_i position first
    obtain ⟨inside, own, _⟩ := List.findIdx?_eq_some_iff_getElem.mp first
    have small : position < 256 := by
      have := r.fits
      omega
    have same : index.toNat = position := by
      rw [← known]
      exact UInt8.toNat_ofNat_of_lt' small
    rw [PeerRegistry.peer, same, List.getElem?_eq_getElem inside] at found
    exact Option.some.inj found ▸ of_decide_eq_true own
  · exact absurd known.symm valid

theorem peer_ne_invalid {r : PeerRegistry} {index : PeerIndex} {peer : PeerIdentity}
    (found : r.peer index = some peer) : index ≠ invalidPeerIndex := by
  obtain ⟨inside, _⟩ := List.getElem?_eq_some_iff.mp found
  intro invalid
  have : index.toNat = 255 := by rw [invalid]; rfl
  have := r.fits
  omega

/-- `find_peer` sees exactly the ids of the peers. -/
theorem findPeer_isSome {r : PeerRegistry} {id : List UInt8} :
    (r.peer (r.indexForId id)).isSome = true ↔ ∃ peer ∈ r.peers, peer.id.chars = cString id := by
  constructor
  · intro some
    by_contra missing
    have absent : r.indexForId id = invalidPeerIndex := by
      apply indexOf_invalid_iff.mpr
      intro peer member
      rw [decide_eq_false_iff_not]
      exact fun same => missing ⟨peer, member, same⟩
    rw [absent, peer_invalid] at some
    cases some
  · rintro ⟨peer, member, same⟩
    obtain ⟨index, inside, stored⟩ := List.getElem_of_mem member
    have found := List.getElem?_eq_some_iff.mpr ⟨inside, stored⟩
    have small : index < 256 := by have := r.fits; omega
    rw [indexForId_peer found same, PeerRegistry.peer, UInt8.toNat_ofNat_of_lt' small, found]
    rfl

theorem add_iff {r : PeerRegistry} {peer : PeerIdentity} :
    (r.add peer).1 = true ↔ peer.id.chars ≠ [] ∧ r.peers.length < 16 ∧
      (∀ other ∈ r.peers, other.id.chars ≠ peer.id.chars) ∧
      ∀ other ∈ r.peers, other.address ≠ peer.address := by
  unfold add
  have empty : peer.id.isEmpty = true ↔ peer.id.chars = [] := List.isEmpty_iff
  split
  · rename_i rejected
    simp only [Bool.false_eq_true, false_iff]
    rintro ⟨named, room, ids, addresses⟩
    rcases rejected with none | full | id | address
    · exact named (empty.mp none)
    · simp only [size, capacity] at full
      omega
    · apply id
      apply indexOf_invalid_iff.mpr
      intro other member
      simpa [cString_eq_self peer.id.noNul] using ids other member
    · apply address
      apply indexOf_invalid_iff.mpr
      intro other member
      simpa using addresses other member
  · rename_i accepted
    simp only [not_or, not_le, ne_eq, Decidable.not_not] at accepted
    obtain ⟨named, room, ids, addresses⟩ := accepted
    simp only [true_iff]
    constructor
    · exact fun none => named (empty.mpr none)
    · constructor
      · exact room
      · constructor
        · intro other member
          simpa [cString_eq_self peer.id.noNul] using indexOf_invalid_iff.mp ids other member
        · intro other member
          simpa using indexOf_invalid_iff.mp addresses other member

theorem add_peers {r : PeerRegistry} {peer : PeerIdentity} (added : (r.add peer).1 = true) :
    (r.add peer).2.peers = r.peers ++ [peer] := by
  unfold add at added ⊢
  split
  · rename_i rejected
    rw [dif_pos rejected] at added
    cases added
  · rfl

theorem add_refused {r : PeerRegistry} {peer : PeerIdentity} (refused : (r.add peer).1 = false) :
    (r.add peer).2 = r := by
  unfold add at refused ⊢
  split
  · rfl
  · rename_i accepted
    rw [dif_neg accepted] at refused
    cases refused

/- Any sequence of additions -/

def addAll (r : PeerRegistry) (added : List PeerIdentity) : PeerRegistry :=
  added.foldl (fun r peer => (r.add peer).2) r

/-- Peers are only put behind those that are there. -/
theorem peers_prefix_addAll (r : PeerRegistry) (added : List PeerIdentity) :
    r.peers <+: (r.addAll added).peers := by
  induction added generalizing r with
  | nil => exact List.prefix_refl _
  | cons peer rest hyp =>
    have first : r.peers <+: (r.add peer).2.peers := by
      cases run : (r.add peer).1 with
      | true =>
        rw [add_peers run]
        exact List.prefix_append _ _
      | false =>
        have same := congrArg peers (add_refused run)
        exact same.symm ▸ List.prefix_refl r.peers
    exact first.trans (hyp _)

theorem peer_addAll {r : PeerRegistry} {index : PeerIndex} {peer : PeerIdentity}
    (found : r.peer index = some peer) (added : List PeerIdentity) :
    (r.addAll added).peer index = some peer := by
  obtain ⟨inside, _⟩ := List.getElem?_eq_some_iff.mp found
  obtain ⟨later, grown⟩ := peers_prefix_addAll r added
  rw [PeerRegistry.peer, ← grown, List.getElem?_append_left inside]
  exact found

theorem exists_index {r : PeerRegistry} {peer : PeerIdentity} (member : peer ∈ r.peers) :
    ∃ index, r.peer index = some peer := by
  obtain ⟨index, inside, stored⟩ := List.getElem_of_mem member
  have small : index < 256 := by have := r.fits; omega
  refine ⟨UInt8.ofNat index, ?_⟩
  rw [PeerRegistry.peer, UInt8.toNat_ofNat_of_lt' small]
  exact List.getElem?_eq_some_iff.mpr ⟨inside, stored⟩

theorem indexForId_chars {r : PeerRegistry} {index : PeerIndex} {peer : PeerIdentity}
    (found : r.peer index = some peer) : r.indexForId peer.id.chars = index := by
  have own := indexForId_peer found (cString_eq_self peer.id.noNul).symm
  rw [own, UInt8.ofNat_toNat]

/-- After any additions: ids are not empty, ids and addresses lead back to the one index of their
    peer, which it keeps whatever is added later; what no peer has is not found, and an addition
    that fails changes nothing. -/
theorem indices_denote_peers (added : List PeerIdentity) :
    let r := empty.addAll added
    (∀ index, (∃ peer, r.peer index = some peer) ↔ index.toNat < r.size) ∧
      (∀ index other peer twin, r.peer index = some peer → r.peer other = some twin →
        index ≠ other → peer.id ≠ twin.id ∧ peer.address ≠ twin.address) ∧
      (∀ index peer, r.peer index = some peer → peer.id.isEmpty = false ∧
        r.indexForId peer.id.chars = index ∧ r.indexForAddress peer.address = index) ∧
      (∀ later index peer, r.peer index = some peer → (r.addAll later).peer index = some peer) ∧
      (∀ id, (∀ index peer, r.peer index = some peer → peer.id.chars ≠ cString id) →
        r.indexForId id = invalidPeerIndex) ∧
      (∀ address, (∀ index peer, r.peer index = some peer → peer.address ≠ address) →
        r.indexForAddress address = invalidPeerIndex) ∧
      ∀ peer, (r.add peer).1 = false → (r.add peer).2 = r := by
  intro r
  refine ⟨?_, ?_, ?_, fun later index peer found => peer_addAll found later, ?_, ?_,
    fun peer => add_refused⟩
  · intro index
    constructor
    · rintro ⟨peer, found⟩
      exact (List.getElem?_eq_some_iff.mp found).1
    · intro inside
      exact ⟨_, List.getElem?_eq_getElem inside⟩
  · intro index other peer twin found there apart
    constructor
    · intro same
      apply apart
      rw [← indexForId_chars found, ← indexForId_chars there, same]
    · intro same
      apply apart
      rw [← indexForAddress_peer found, ← indexForAddress_peer there, same]
  · intro index peer found
    refine ⟨?_, indexForId_chars found, indexForAddress_peer found⟩
    exact r.named peer (List.mem_of_getElem? found)
  · intro id absent
    apply indexOf_invalid_iff.mpr
    intro peer member
    obtain ⟨index, found⟩ := exists_index member
    simpa using absent index peer found
  · intro address absent
    apply indexOf_invalid_iff.mpr
    intro peer member
    obtain ⟨index, found⟩ := exists_index member
    simpa using absent index peer found

end PeerRegistry

end EspNowNet
