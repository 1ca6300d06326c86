import EspNowNet.BoundedValue
import Mathlib.Data.List.Basic

/- The configuration as the Python side checks it. A text is the list of its characters, which
   is what the language counts. -/
namespace EspNowNet

abbrev Text := List Char

structure PeerConfig where
  id : Text
  address : Text
  lmk : Text
  applicationSourceId : Option Text := none
  deriving DecidableEq

/-- Of the inbound section only what the peers are checked against, and the routes. -/
structure InboundConfig where
  observeApplicationIdentity : Bool := false
  bindings : List (Text × Text) := []
  deriving DecidableEq

structure ProtocolConfig where
  channel : Int
  pmk : Text
  peers : List PeerConfig
  inbound : Option InboundConfig := none
  deriving DecidableEq

/-- What the component raises itself, or one of the library's own range checks. -/
inductive ConfigError where
  | invalid (message : String)
  | outOfRange
  deriving DecidableEq

namespace PeerValidation

def hexDigits : Text :=
  ['0', '1', '2', '3', '4', '5', '6', '7', '8', '9', 'A', 'B', 'C', 'D', 'E', 'F']

def lowerHexDigits : Text := ['a', 'b', 'c', 'd', 'e', 'f']

/-- The language's upper case: beyond ASCII it follows tables, and may give several letters. -/
def upper (special : Char → Text) (value : Text) : Text :=
  value.flatMap fun c => if c.toNat < 128 then [c.toUpper] else special c

def boundedText (maximum : Nat) (label : String) (value : Text) : Except ConfigError Text :=
  if value = [] ∨ value.length > maximum then
    .error (.invalid (label ++ " must contain 1 to " ++ toString maximum ++ " characters"))
  else .ok value

def key (special : Char → Text) (value : Text) : Except ConfigError Text :=
  if value.length ≠ 32 ∨ value.any fun c => !(hexDigits ++ lowerHexDigits).contains c then
    .error (.invalid "ESP-NOW PMK/LMK must contain exactly 32 hex digits")
  else .ok (upper special value)

def address (special : Char → Text) (value : Text) : Except ConfigError Text :=
  let value := upper special value
  let parts := value.splitOn ':'
  if parts.length ≠ 6 ∨
      parts.any fun part => part.length != 2 || part.any fun c => !hexDigits.contains c then
    .error (.invalid "ESP-NOW address must use AA:BB:CC:DD:EE:FF format")
  else if value = "FF:FF:FF:FF:FF:FF".toList then
    .error (.invalid "ESP-NOW peers must use unicast addresses")
  else .ok value

def peerSchema (special : Char → Text) (peer : PeerConfig) : Except ConfigError PeerConfig := do
  let address ← address special peer.address
  let lmk ← key special peer.lmk
  let applicationSourceId ← peer.applicationSourceId.mapM (boundedText 63 "application_source_id")
  return { id := peer.id, address, lmk, applicationSourceId }

/-- The sets that `validate` fills while it goes through the peers. -/
structure Seen where
  ids : List Text := []
  addresses : List Text := []
  applicationSources : List Text := []

def validatePeer (seen : Seen) (peer : PeerConfig) : Except ConfigError Seen :=
  if peer.id = [] ∨ peer.id.length > 63 then
    .error (.invalid "ESP-NOW peer id must contain 1 to 63 characters")
  else if peer.id ∈ seen.ids then
    .error (.invalid ("duplicate ESP-NOW peer id: " ++ String.ofList peer.id))
  else if peer.address ∈ seen.addresses then
    .error (.invalid ("duplicate ESP-NOW peer address: " ++ String.ofList peer.address))
  else
    match peer.applicationSourceId with
    | none =>
      .ok { seen with ids := peer.id :: seen.ids, addresses := peer.address :: seen.addresses }
    | some source =>
      if source ∈ seen.applicationSources then
        .error (.invalid ("duplicate application_source_id: " ++ String.ofList source))
      else
        .ok {
          ids := peer.id :: seen.ids
          addresses := peer.address :: seen.addresses
          applicationSources := source :: seen.applicationSources }

def validateBinding (routes : List (Text × Text)) (route : Text × Text) :
    Except ConfigError (List (Text × Text)) :=
  if route ∈ routes then
    .error (.invalid ("duplicate inbound resource/command binding: " ++
      String.ofList route.1 ++ "/" ++ String.ofList route.2))
  else .ok (route :: routes)

def validate (config : ProtocolConfig) : Except ConfigError ProtocolConfig := do
  let seen ← config.peers.foldlM validatePeer {}
  match config.inbound with
  | none => return config
  | some inbound =>
    if seen.applicationSources ≠ [] ∧ ¬ inbound.observeApplicationIdentity then
      .error (.invalid
        "peer application_source_id requires inbound.observe_application_identity: true")
    else
      let _ ← inbound.bindings.foldlM validateBinding []
      return config

def configSchema (special : Char → Text) (config : ProtocolConfig) :
    Except ConfigError ProtocolConfig := do
  if config.channel < 1 ∨ config.channel > 14 then .error .outOfRange
  else
    let pmk ← key special config.pmk
    let peers ← config.peers.mapM (peerSchema special)
    if peers.length < 1 ∨ peers.length > 16 then .error .outOfRange
    else validate { config with pmk, peers }

/- What an accepted text looks like -/

structure KeyText (value : Text) : Prop where
  length : value.length = 32
  digits : ∀ c ∈ value, c ∈ hexDigits

/-- Six pairs of digits with colons between them. -/
structure AddressText (value : Text) : Prop where
  length : value.length = 17
  digits : ∀ i, i < 6 → value.getD (3 * i) '0' ∈ hexDigits ∧ value.getD (3 * i + 1) '0' ∈ hexDigits
  colons : ∀ i, i < 5 → value.getD (3 * i + 2) '0' = ':'

structure PeerAccepted (peer : PeerConfig) : Prop where
  address : AddressText peer.address
  lmk : KeyText peer.lmk

structure ConfigAccepted (config : ProtocolConfig) : Prop where
  channel : 1 ≤ config.channel ∧ config.channel ≤ 14
  pmk : KeyText config.pmk
  peers : ∀ peer ∈ config.peers, PeerAccepted peer
  count : config.peers.length ≤ 16
  addresses : (config.peers.map (·.address)).Nodup

variable {special : Char → Text}

/-- A computation that succeeds succeeds step by step. -/
theorem bind_eq_ok {E A B : Type} {first : Except E A} {next : A → Except E B} {result : B} :
    first >>= next = .ok result ↔ ∃ value, first = .ok value ∧ next value = .ok result := by
  cases first with
  | error _ => simp [bind, Except.bind]
  | ok value => simp [bind, Except.bind]

theorem upper_digit (special : Char → Text) {c : Char} (digit : c ∈ hexDigits ++ lowerHexDigits) :
    ∃ u ∈ hexDigits, (if c.toNat < 128 then [c.toUpper] else special c) = [u] := by
  have ascii : (hexDigits ++ lowerHexDigits).all
      (fun c => c.toNat < 128 && hexDigits.contains c.toUpper) = true := by
    decide
  have own := List.all_eq_true.mp ascii c digit
  simp only [Bool.and_eq_true, decide_eq_true_eq, List.contains_iff_mem] at own
  exact ⟨c.toUpper, own.2, by rw [if_pos own.1]⟩

theorem upper_digits (special : Char → Text) {value : Text}
    (digits : ∀ c ∈ value, c ∈ hexDigits ++ lowerHexDigits) :
    (upper special value).length = value.length ∧ ∀ c ∈ upper special value, c ∈ hexDigits := by
  induction value with
  | nil => exact ⟨rfl, by simp [upper]⟩
  | cons first rest hyp =>
    obtain ⟨u, digit, same⟩ := upper_digit special (digits first (by simp))
    obtain ⟨length, others⟩ := hyp fun c member => digits c (List.mem_cons_of_mem _ member)
    have step : upper special (first :: rest) = u :: upper special rest := by
      rw [upper, List.flatMap_cons, same]
      rfl
    rw [step]
    refine ⟨by simp [length], ?_⟩
    intro c member
    rcases List.mem_cons.mp member with rfl | later
    · exact digit
    · exact others c later

theorem keyText_of_key {value accepted : Text} (run : key special value = .ok accepted) :
    KeyText accepted := by
  unfold key at run
  split at run
  · cases run
  · rename_i checked
    obtain rfl := Except.ok.inj run
    simp only [not_or, Decidable.not_not, ne_eq, Bool.not_eq_true, List.any_eq_false,
      Bool.not_eq_false', List.contains_iff_mem] at checked
    obtain ⟨length, digits⟩ := upper_digits special checked.2
    exact ⟨length.trans checked.1, digits⟩

/-- Six parts of two digits, joined by colons. -/
theorem addressText_of_parts {parts : List Text} (six : parts.length = 6)
    (pairs : ∀ part ∈ parts, part.length = 2 ∧ ∀ c ∈ part, c ∈ hexDigits) :
    AddressText ([':'].intercalate parts) := by
  have pair (part : Text) (member : part ∈ parts) :
      ∃ a b, part = [a, b] ∧ a ∈ hexDigits ∧ b ∈ hexDigits := by
    obtain ⟨two, digits⟩ := pairs part member
    obtain ⟨a, b, rfl⟩ := List.length_eq_two.mp two
    exact ⟨a, b, rfl, digits a (by simp), digits b (by simp)⟩
  match parts, six with
  | [p0, p1, p2, p3, p4, p5], _ =>
    obtain ⟨a0, b0, rfl, c0, d0⟩ := pair p0 (by simp)
    obtain ⟨a1, b1, rfl, c1, d1⟩ := pair p1 (by simp)
    obtain ⟨a2, b2, rfl, c2, d2⟩ := pair p2 (by simp)
    obtain ⟨a3, b3, rfl, c3, d3⟩ := pair p3 (by simp)
    obtain ⟨a4, b4, rfl, c4, d4⟩ := pair p4 (by simp)
    obtain ⟨a5, b5, rfl, c5, d5⟩ := pair p5 (by simp)
    have joined : [':'].intercalate [[a0, b0], [a1, b1], [a2, b2], [a3, b3], [a4, b4], [a5, b5]] =
        [a0, b0, ':', a1, b1, ':', a2, b2, ':', a3, b3, ':', a4, b4, ':', a5, b5] := rfl
    rw [joined]
    constructor
    · rfl
    · intro i inside
      match i, inside with
      | 0, _ => exact ⟨c0, d0⟩
      | 1, _ => exact ⟨c1, d1⟩
      | 2, _ => exact ⟨c2, d2⟩
      | 3, _ => exact ⟨c3, d3⟩
      | 4, _ => exact ⟨c4, d4⟩
      | 5, _ => exact ⟨c5, d5⟩
    · intro i inside
      match i, inside with
      | 0, _ | 1, _ | 2, _ | 3, _ | 4, _ => rfl

theorem addressText_of_address {value accepted : Text}
    (run : address special value = .ok accepted) : AddressText accepted := by
  unfold address at run
  dsimp only at run
  split at run
  · cases run
  · rename_i checked
    split at run
    · cases run
    · obtain rfl := Except.ok.inj run
      simp only [not_or, Decidable.not_not, ne_eq, Bool.not_eq_true, List.any_eq_false,
        Bool.or_eq_false_iff, bne_eq_false_iff_eq, Bool.not_eq_false', List.contains_iff_mem] at checked
      have joined := addressText_of_parts checked.1 checked.2
      rwa [List.intercalate_splitOn] at joined

theorem peerAccepted_of_schema {raw peer : PeerConfig} (run : peerSchema special raw = .ok peer) :
    PeerAccepted peer := by
  unfold peerSchema at run
  obtain ⟨accepted, addressed, run⟩ := bind_eq_ok.mp run
  obtain ⟨lmk, keyed, run⟩ := bind_eq_ok.mp run
  obtain ⟨source, named, run⟩ := bind_eq_ok.mp run
  obtain rfl := Except.ok.inj run
  exact ⟨addressText_of_address addressed, keyText_of_key keyed⟩

theorem validatePeer_addresses {seen next : Seen} {peer : PeerConfig}
    (run : validatePeer seen peer = .ok next) :
    peer.address ∉ seen.addresses ∧ next.addresses = peer.address :: seen.addresses := by
  unfold validatePeer at run
  split at run
  · cases run
  · split at run
    · cases run
    · split at run
      · cases run
      · rename_i fresh
        split at run
        · exact ⟨fresh, by rw [← Except.ok.inj run]⟩
        · split at run
          · cases run
          · exact ⟨fresh, by rw [← Except.ok.inj run]⟩

theorem nodup_of_validatePeers {peers : List PeerConfig} {seen last : Seen}
    (run : peers.foldlM validatePeer seen = .ok last) :
    (peers.map (·.address)).Nodup ∧ ∀ peer ∈ peers, peer.address ∉ seen.addresses := by
  induction peers generalizing seen with
  | nil => simp
  | cons first rest hyp =>
    rw [List.foldlM_cons] at run
    obtain ⟨next, checked, run⟩ := bind_eq_ok.mp run
    obtain ⟨fresh, grown⟩ := validatePeer_addresses checked
    obtain ⟨distinct, apart⟩ := hyp run
    rw [grown] at apart
    constructor
    · rw [List.map_cons, List.nodup_cons]
      constructor
      · intro member
        obtain ⟨other, later, same⟩ := List.mem_map.mp member
        exact apart other later (by simp [same])
      · exact distinct
    · intro peer member
      rcases List.mem_cons.mp member with rfl | later
      · exact fresh
      · intro before
        exact apart peer later (List.mem_cons_of_mem _ before)

theorem validate_ok {config accepted : ProtocolConfig} (run : validate config = .ok accepted) :
    accepted = config ∧ (config.peers.map (·.address)).Nodup := by
  unfold validate at run
  obtain ⟨seen, checked, run⟩ := bind_eq_ok.mp run
  have distinct := (nodup_of_validatePeers checked).1
  split at run
  · exact ⟨(Except.ok.inj run).symm, distinct⟩
  · split at run
    · cases run
    · obtain ⟨routes, bound, run⟩ := bind_eq_ok.mp run
      exact ⟨(Except.ok.inj run).symm, distinct⟩

theorem mapM_accepted {raws peers : List PeerConfig}
    (run : raws.mapM (peerSchema special) = .ok peers) : ∀ peer ∈ peers, PeerAccepted peer := by
  induction raws generalizing peers with
  | nil =>
    obtain rfl := Except.ok.inj run
    simp
  | cons first rest hyp =>
    rw [List.mapM_cons] at run
    obtain ⟨peer, schema, run⟩ := bind_eq_ok.mp run
    obtain ⟨others, later, run⟩ := bind_eq_ok.mp run
    obtain rfl := Except.ok.inj run
    intro other member
    rcases List.mem_cons.mp member with rfl | earlier
    · exact peerAccepted_of_schema schema
    · exact hyp later other earlier

/-- What the generated code can rely on. -/
theorem configAccepted_of_schema {raw config : ProtocolConfig}
    (run : configSchema special raw = .ok config) : ConfigAccepted config := by
  unfold configSchema at run
  split at run
  · cases run
  · rename_i range
    obtain ⟨pmk, keyed, run⟩ := bind_eq_ok.mp run
    obtain ⟨peers, mapped, run⟩ := bind_eq_ok.mp run
    split at run
    · cases run
    · rename_i count
      obtain ⟨rfl, distinct⟩ := validate_ok run
      constructor
      · constructor
        · exact Int.not_lt.mp fun low => range (Or.inl low)
        · exact Int.not_lt.mp fun high => range (Or.inr high)
      · exact keyText_of_key keyed
      · exact mapM_accepted mapped
      · exact Nat.not_lt.mp fun many => count (Or.inr many)
      · exact distinct

end PeerValidation

end EspNowNet
