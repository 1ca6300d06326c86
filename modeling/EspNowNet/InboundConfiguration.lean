import EspNowNet.LightCompletion
import EspNowNet.PeerConfiguration
import EspNowNet.Control

/- The inbound section of a configuration, the calls the generated code makes for it, and the
   binding that a command comes to whose texts were written in a configuration themselves. -/
namespace EspNowNet
open PeerValidation

/-- The light is one that the configuration declares. -/
structure LightCompletionConfig where
  light : Nat
  expected : LightExpectedState := .toggled
  timeoutMs : Nat := 2000
  deriving DecidableEq

structure BindingConfig where
  resource : Text
  command : Text
  completion : Option LightCompletionConfig := none
  deriving DecidableEq

structure InboundSection where
  deviceId : Text
  observeApplicationIdentity : Bool := false
  bindings : List BindingConfig
  deriving DecidableEq

namespace PeerValidation

def bindingSchema (binding : BindingConfig) : Except ConfigError BindingConfig := do
  let resource ← boundedText 63 "resource" binding.resource
  let command ← boundedText 47 "command" binding.command
  return { binding with resource, command }

def inboundSchema (inbound : InboundSection) : Except ConfigError InboundSection := do
  let deviceId ← boundedText 63 "device_id" inbound.deviceId
  let bindings ← inbound.bindings.mapM bindingSchema
  if bindings.length < 1 ∨ bindings.length > 16 then .error .outOfRange
  else return { inbound with deviceId, bindings }

/-- The section as the rest of the configuration is checked against it. -/
def inboundConfig (inbound : InboundSection) : InboundConfig where
  observeApplicationIdentity := inbound.observeApplicationIdentity
  bindings := inbound.bindings.map fun binding => (binding.resource, binding.command)

/-- Both sections are checked by themselves first, then against each other. -/
def configWithInboundSchema (special : Char → Text) (config : ProtocolConfig)
    (inbound : InboundSection) : Except ConfigError (ProtocolConfig × InboundSection) := do
  let inbound ← inboundSchema inbound
  let config ← configSchema special { config with inbound := some (inboundConfig inbound) }
  return (config, inbound)

end PeerValidation

/- The generated code -/

namespace BindingConfig

def generated (binding : BindingConfig) : DeclarativeCommandBinding where
  resource := some (literal binding.resource)
  command := some (literal binding.command)
  hasCompletionProbe := binding.completion.isSome
  completionTimeoutMs :=
    match binding.completion with
    | none => 2000
    | some completion => UInt32.ofNat completion.timeoutMs

def probe (binding : BindingConfig) : LightCommandCompletionProbe :=
  match binding.completion with
  | none => {}
  | some completion => { light := some completion.light, expected := completion.expected }

end BindingConfig

namespace InboundSection

def addBindings :
    List BindingConfig → DeclarativeCommandHandler → List Bool × DeclarativeCommandHandler
  | [], h => ([], h)
  | binding :: later, h =>
    let (added, h) := h.addBinding binding.generated
    let (results, h) := addBindings later h
    (added :: results, h)

/-- Of two bindings that become equal the probe of the first is kept, which is the one the
    handler finds. -/
def probes (inbound : InboundSection) (binding : DeclarativeCommandBinding) :
    LightCommandCompletionProbe :=
  match inbound.bindings.find? fun config => config.generated = binding with
  | none => {}
  | some config => config.probe

/-- The handler after the generated calls, which come before any other, and their results. -/
def generated (inbound : InboundSection) : List Bool × LightCommandHandler :=
  let (results, handler) := addBindings inbound.bindings { deviceId := some (literal inbound.deviceId) }
  (results, { handler, probes := inbound.probes })

end InboundSection

/-- The action that sends a command whose texts are written in the configuration. -/
structure EspNowSendCommandAction where
  peer : Text
  device : Text
  resource : Text
  command : Text
  payload : Text := []
  timeoutMs : Nat := 5000

namespace EspNowSendCommandAction

/-- A command that is not started is only logged. -/
def play (action : EspNowSendCommandAction) (e : EspNowNetProtocolComponent) (nowMs : UInt32) :
    Bool × EspNowNetProtocolComponent :=
  e.sendCommand (utf8 action.peer) (utf8 action.device) (utf8 action.resource)
    (utf8 action.command) (utf8 action.payload) (UInt32.ofNat action.timeoutMs) nowMs

/-- The command that it hands to `start_command`, if the texts fit. -/
def declared (action : EspNowSendCommandAction) (e : EspNowNetProtocolComponent) :
    Option NetCommand :=
  e.declarativeCommand (utf8 action.device) (utf8 action.resource) (utf8 action.command)
    (utf8 action.payload) (UInt32.ofNat action.timeoutMs)

end EspNowSendCommandAction

/- What the configurations promise -/

/-- A text as far as its first NUL: the callee of a literal sees no more of it. -/
def visible (text : Text) : Text := text.takeWhile (· ≠ Char.ofNat 0)

namespace InboundSection

/-- The binding that was written for a route: the first, where there are several. -/
def routed (inbound : InboundSection) (resource command : Text) : Option BindingConfig :=
  inbound.bindings.find? fun binding =>
    visible binding.resource = visible resource ∧ visible binding.command = visible command

/-- How a command is to be answered, and the binding it is to start. -/
def answer (inbound : InboundSection) (action : EspNowSendCommandAction) :
    NetCommandHandlerStartStatus × Option BindingConfig :=
  if visible action.device ≠ visible inbound.deviceId then (.rejected, none)
  else
    match inbound.routed action.resource action.command with
    | none => (.invalidCommand, none)
    | some binding => (.started, some binding)

end InboundSection

/-- A text that is not empty as a literal, and fits. -/
def LiteralWithin (capacity : Nat) (text : Text) : Prop :=
  0 < (literal text).length ∧ (literal text).length ≤ capacity

/-- Every binding is added; whatever the handler has done since, the command that an action has
    started is answered by the texts as they are written, and started with the binding and the
    probe of its own route. -/
structure RoutesServed (inbound : InboundSection) (run : List Bool × LightCommandHandler) :
    Prop where
  calls : ∀ result ∈ run.1, result = true
  answered : ∀ (action : EspNowSendCommandAction) (e : EspNowNetProtocolComponent)
    (playedMs : UInt32), (action.play e playedMs).1 = true →
      ∃ slot, let client := (action.play e playedMs).2.clients slot
        client.state = .waitingForDeliveryAck ∧
        client.peer = e.radio.peers.indexForId (utf8 action.peer) ∧
        ∀ (calls : List LightCommandCall) (answers : ProbeAnswers) (nowMs : UInt32),
          let handler := (calls.foldl LightCommandHandler.perform run.2).handler
          handler.Free →
            let started := handler.start client.command answers nowMs
            (started.1, started.2.activeBinding) =
              ((inbound.answer action).1, (inbound.answer action).2.map BindingConfig.generated)
  probed : ∀ (calls : List LightCommandCall) (resource command : Text) (binding : BindingConfig),
    inbound.routed resource command = some binding →
      let probe := (calls.foldl LightCommandHandler.perform run.2).probes binding.generated
      (probe.light, probe.expected) = (binding.probe.light, binding.probe.expected)
  written : (∀ binding ∈ inbound.bindings, visible binding.resource = binding.resource ∧
      visible binding.command = binding.command) →
    ∀ resource command binding, visible resource = resource → visible command = command →
      (inbound.routed resource command = some binding ↔
        binding ∈ inbound.bindings ∧ binding.resource = resource ∧ binding.command = command)

/-- An endpoint can declare a command that is to start the binding. -/
def InboundSection.Commanded (inbound : InboundSection) (binding : BindingConfig)
    (e : EspNowNetProtocolComponent) : Prop :=
  ∃ (action : EspNowSendCommandAction) (request : NetCommand),
    action.declared e = some request ∧ inbound.answer action = (.started, some binding)

/- Texts as literals -/

theorem zero_mem_utf8EncodeChar {c : Char} : 0 ∈ String.utf8EncodeChar c ↔ c = Char.ofNat 0 := by
  have marked {value : Nat} (mark : Nat) (low : 128 ≤ mark) (high : value + mark < 256) :
      UInt8.ofNat (value + mark) ≠ 0 := by
    intro zero
    have number := congrArg UInt8.toNat zero
    have size : UInt8.size = 256 := rfl
    rw [UInt8.toNat_ofNat_of_lt' (by omega)] at number
    have : (0 : UInt8).toNat = 0 := rfl
    omega
  constructor
  · intro member
    have zero : c.val.toNat = 0 := by
      unfold String.utf8EncodeChar at member
      dsimp only at member
      split at member
      · rename_i small
        have number := congrArg UInt8.toNat (List.mem_singleton.mp member)
        have size : UInt8.size = 256 := rfl
        rw [UInt8.toNat_ofNat_of_lt' (by omega)] at number
        exact number.symm
      · exfalso
        split at member
        · simp only [List.mem_cons, List.not_mem_nil, or_false] at member
          rcases member with first | second
          · exact marked 0xc0 (by omega) (by omega) first.symm
          · exact marked 0x80 (by omega) (by omega) second.symm
        · split at member
          · simp only [List.mem_cons, List.not_mem_nil, or_false] at member
            rcases member with first | second | third
            · exact marked 0xe0 (by omega) (by omega) first.symm
            · exact marked 0x80 (by omega) (by omega) second.symm
            · exact marked 0x80 (by omega) (by omega) third.symm
          · simp only [List.mem_cons, List.not_mem_nil, or_false] at member
            rcases member with first | second | third | fourth
            · exact marked 0xf0 (by omega) (by omega) first.symm
            · exact marked 0x80 (by omega) (by omega) second.symm
            · exact marked 0x80 (by omega) (by omega) third.symm
            · exact marked 0x80 (by omega) (by omega) fourth.symm
    exact Char.ext (UInt32.toNat_inj.mp zero)
  · rintro rfl
    decide

theorem utf8_injective {a b : Text} (same : utf8 a = utf8 b) : a = b := by
  have encoded : a.utf8Encode = b.utf8Encode := congrArg List.toByteArray same
  have decoded := congrArg ByteArray.utf8Decode? encoded
  rw [List.utf8Decode?_utf8Encode, List.utf8Decode?_utf8Encode] at decoded
  simpa using decoded

theorem literal_visible (text : Text) : literal text = utf8 (visible text) := by
  induction text with
  | nil => rfl
  | cons first rest ih =>
    by_cases nul : first = Char.ofNat 0
    · subst nul
      rfl
    · have bytes : ∀ byte ∈ String.utf8EncodeChar first, byte ≠ 0 := by
        rintro _ member rfl
        exact nul (zero_mem_utf8EncodeChar.mp member)
      have split : visible (first :: rest) = first :: visible rest := by simp [visible, nul]
      rw [split]
      unfold literal utf8 cString at ih ⊢
      rw [List.flatMap_cons, List.takeWhile_append_of_pos (by simpa using bytes), ih,
        List.flatMap_cons]

theorem literal_eq_iff {a b : Text} : literal a = literal b ↔ visible a = visible b := by
  rw [literal_visible, literal_visible]
  exact ⟨utf8_injective, congrArg utf8⟩

theorem literal_within {capacity : Nat} {text : Text} :
    (BoundedText.assign (utf8 text) : Bool × BoundedText capacity).1 = true ↔
      (literal text).length ≤ capacity := by
  unfold BoundedText.assign literal
  split
  · rename_i fits
    simp [fits]
  · rename_i long
    simp [long]

theorem assigned_chars {capacity : Nat} {text : Text}
    (fits : (BoundedText.assign (utf8 text) : Bool × BoundedText capacity).1 = true) :
    (BoundedText.assign (utf8 text) : Bool × BoundedText capacity).2.chars = literal text := by
  have within : (cString (utf8 text)).length ≤ capacity := literal_within.mp fits
  unfold BoundedText.assign
  rw [dif_pos within]
  rfl

/- The schema -/

/-- What the generated code can rely on. -/
structure InboundAccepted (inbound : InboundSection) : Prop where
  count : inbound.bindings.length ≤ maxBindings
  routes : (inbound.bindings.map fun binding => (binding.resource, binding.command)).Nodup

theorem PeerValidation.nodup_of_validateBindings {routes last seen : List (Text × Text)}
    (run : routes.foldlM validateBinding seen = .ok last) :
    routes.Nodup ∧ ∀ route ∈ routes, route ∉ seen := by
  induction routes generalizing seen with
  | nil => simp
  | cons first rest ih =>
    rw [List.foldlM_cons] at run
    obtain ⟨next, checked, run⟩ := bind_eq_ok.mp run
    unfold validateBinding at checked
    split at checked
    · cases checked
    · rename_i fresh
      obtain rfl := Except.ok.inj checked
      obtain ⟨distinct, apart⟩ := ih run
      constructor
      · rw [List.nodup_cons]
        exact ⟨fun again => apart first again List.mem_cons_self, distinct⟩
      · intro route member
        rcases List.mem_cons.mp member with rfl | later
        · exact fresh
        · exact fun before => apart route later (List.mem_cons_of_mem _ before)

theorem inboundAccepted_of_schema {special : Char → Text} {raw config : ProtocolConfig}
    {rawInbound inbound : InboundSection}
    (schema : configWithInboundSchema special raw rawInbound = .ok (config, inbound)) :
    InboundAccepted inbound := by
  unfold configWithInboundSchema at schema
  obtain ⟨checked, bounded, schema⟩ := bind_eq_ok.mp schema
  obtain ⟨whole, accepted, schema⟩ := bind_eq_ok.mp schema
  obtain ⟨rfl, rfl⟩ := Prod.mk.inj (Except.ok.inj schema)
  constructor
  · unfold inboundSchema at bounded
    obtain ⟨deviceId, _, bounded⟩ := bind_eq_ok.mp bounded
    obtain ⟨bindings, _, bounded⟩ := bind_eq_ok.mp bounded
    split at bounded
    · cases bounded
    · rename_i count
      obtain rfl := Except.ok.inj bounded
      exact Nat.not_lt.mp fun many => count (Or.inr many)
  · unfold configSchema at accepted
    split at accepted
    · cases accepted
    · obtain ⟨pmk, _, accepted⟩ := bind_eq_ok.mp accepted
      obtain ⟨peers, _, accepted⟩ := bind_eq_ok.mp accepted
      split at accepted
      · cases accepted
      · unfold validate at accepted
        obtain ⟨seen, _, accepted⟩ := bind_eq_ok.mp accepted
        dsimp only at accepted
        split at accepted
        · cases accepted
        · obtain ⟨routes, bound, _⟩ := bind_eq_ok.mp accepted
          exact (nodup_of_validateBindings bound).1

/- The calls -/

namespace InboundSection
variable {inbound : InboundSection}

theorem addBindings_room (bindings : List BindingConfig) (h : DeclarativeCommandHandler)
    (room : h.bindings.1.length + bindings.length ≤ maxBindings) :
    (∀ result ∈ (addBindings bindings h).1, result = true) ∧
      (addBindings bindings h).2.bindings.1 =
        h.bindings.1 ++ bindings.map BindingConfig.generated ∧
      (addBindings bindings h).2.deviceId = h.deviceId := by
  induction bindings generalizing h with
  | nil => simp [addBindings]
  | cons binding later ih =>
    rw [List.length_cons] at room
    have added : h.addBinding binding.generated = (true, { h with
        bindings := ⟨h.bindings.1 ++ [binding.generated],
          List.length_append ▸ show h.bindings.1.length < maxBindings by omega⟩ }) := by
      unfold DeclarativeCommandHandler.addBinding
      rw [dif_pos (by omega)]
    obtain ⟨results, held, device⟩ := ih (h.addBinding binding.generated).2 (by
      rw [added, List.length_append, List.length_singleton]
      omega)
    unfold addBindings
    refine ⟨?_, ?_, ?_⟩
    · intro result member
      rcases List.mem_cons.mp member with rfl | member
      · rw [added]
      · exact results result member
    · rw [held, added]
      simp
    · rw [device, added]

/-- What no call of the handler changes. -/
structure Serves (inbound : InboundSection) (s : LightCommandHandler) : Prop where
  device : s.handler.deviceId = some (literal inbound.deviceId)
  bindings : s.handler.bindings.1 = inbound.bindings.map BindingConfig.generated
  probes : ∀ binding, (s.probes binding).light = (inbound.probes binding).light ∧
    (s.probes binding).expected = (inbound.probes binding).expected

theorem Serves.of_same {s s' : LightCommandHandler} (serves : inbound.Serves s)
    (device : s'.handler.deviceId = s.handler.deviceId)
    (bindings : s'.handler.bindings = s.handler.bindings) (probes : s'.probes = s.probes) :
    inbound.Serves s' := by
  constructor
  · rw [device, serves.device]
  · rw [bindings, serves.bindings]
  · rw [probes]
    exact serves.probes

theorem start_configured (h : DeclarativeCommandHandler) (request : NetCommand)
    (answers : ProbeAnswers) (nowMs : UInt32) :
    (h.start request answers nowMs).2.deviceId = h.deviceId ∧
      (h.start request answers nowMs).2.bindings = h.bindings := by
  unfold DeclarativeCommandHandler.start
  split
  · exact ⟨rfl, rfl⟩
  · split
    · exact ⟨rfl, rfl⟩
    · split
      · exact ⟨rfl, rfl⟩
      · dsimp only
        split
        · exact ⟨rfl, rfl⟩
        · exact ⟨rfl, rfl⟩

theorem loop_configured (h : DeclarativeCommandHandler) (answers : ProbeAnswers)
    (nowMs : UInt32) :
    (h.loop answers nowMs).deviceId = h.deviceId ∧
      (h.loop answers nowMs).bindings = h.bindings := by
  unfold DeclarativeCommandHandler.loop
  split
  · exact ⟨rfl, rfl⟩
  · split
    · exact ⟨rfl, rfl⟩
    · split
      · exact ⟨rfl, rfl⟩
      · split
        · exact ⟨rfl, rfl⟩
        · exact ⟨rfl, rfl⟩

theorem Serves.start {s : LightCommandHandler} (serves : inbound.Serves s) (request : NetCommand)
    (lights : Nat → Bool) (nowMs : UInt32) : inbound.Serves (s.start request lights nowMs) := by
  have kept (answers : ProbeAnswers) := start_configured s.handler request answers nowMs
  unfold LightCommandHandler.start
  split
  · exact serves.of_same (kept {}).1 (kept {}).2 rfl
  · rename_i binding _
    dsimp only
    split
    · rename_i handler started
      have kept := kept { expectedSnapshot := ((s.probes binding).begin lights).expectedSnapshot }
      rw [started] at kept
      have same : inbound.Serves { s with handler } := serves.of_same kept.1 kept.2 rfl
      refine ⟨same.device, same.bindings, ?_⟩
      intro other
      dsimp only
      split
      · by_cases own : other = binding
        · subst own
          rw [Function.update_self]
          exact serves.probes other
        · rw [Function.update_of_ne own]
          exact serves.probes other
      · exact serves.probes other
    · rename_i handler started
      have kept := kept { expectedSnapshot := ((s.probes binding).begin lights).expectedSnapshot }
      rw [started] at kept
      exact serves.of_same kept.1 kept.2 rfl

theorem Serves.perform {s : LightCommandHandler} (serves : inbound.Serves s)
    (call : LightCommandCall) : inbound.Serves (s.perform call) := by
  cases call with
  | start request lights nowMs => exact serves.start request lights nowMs
  | loop lights nowMs =>
    unfold LightCommandHandler.perform LightCommandHandler.loop
    dsimp only
    split
    · exact serves
    · split
      · exact serves
      · have kept := loop_configured s.handler
        exact serves.of_same (kept _ nowMs).1 (kept _ nowMs).2 rfl
  | takeResult =>
    have kept : s.handler.takeResult.2.deviceId = s.handler.deviceId ∧
        s.handler.takeResult.2.bindings = s.handler.bindings := by
      unfold DeclarativeCommandHandler.takeResult
      split
      · exact ⟨rfl, rfl⟩
      · dsimp only
        split
        · exact ⟨rfl, rfl⟩
        · exact ⟨rfl, rfl⟩
    unfold LightCommandHandler.perform LightCommandHandler.takeResult
    dsimp only
    split
    · rename_i handler taken
      rw [taken] at kept
      exact serves.of_same kept.1 kept.2 rfl
    · rename_i result handler taken
      rw [taken] at kept
      exact serves.of_same kept.1 kept.2 rfl
  | cancel transactionId =>
    apply serves.of_same
    · unfold LightCommandHandler.perform DeclarativeCommandHandler.cancel
      dsimp only
      split
      · rfl
      · rfl
    · unfold LightCommandHandler.perform DeclarativeCommandHandler.cancel
      dsimp only
      split
      · rfl
      · rfl
    · rfl

theorem Serves.run {s : LightCommandHandler} (serves : inbound.Serves s)
    (calls : List LightCommandCall) :
    inbound.Serves (calls.foldl LightCommandHandler.perform s) := by
  induction calls generalizing s with
  | nil => exact serves
  | cons call calls ih => exact ih (serves.perform call)

theorem serves_generated (accepted : InboundAccepted inbound) :
    (∀ result ∈ inbound.generated.1, result = true) ∧ inbound.Serves inbound.generated.2 := by
  obtain ⟨results, held, device⟩ := addBindings_room inbound.bindings
    { deviceId := some (literal inbound.deviceId) } (by
      rw [List.length_nil, Nat.zero_add]
      exact accepted.count)
  refine ⟨results, ?_, ?_, ?_⟩
  · exact device
  · exact held
  · exact fun _ => ⟨rfl, rfl⟩

end InboundSection

/- What a declared command comes to -/

section Declared
variable {action : EspNowSendCommandAction} {e : EspNowNetProtocolComponent} {request : NetCommand}

theorem declared_iff : (∃ request, action.declared e = some request) ↔
    LiteralWithin 63 action.device ∧ (literal action.resource).length ≤ 63 ∧
      LiteralWithin 47 action.command ∧ (literal action.payload).length ≤ 256 ∧
      UInt32.ofNat action.timeoutMs ≠ 0 := by
  have identified : 0xE000000000000000 ||| e.nextDeclarativeTransactionId ≠ 0 := by
    intro zero
    have number := congrArg UInt64.toNat zero
    rw [UInt64.toNat_or] at number
    have tagged : (0xE000000000000000 : UInt64).toNat ≤
        (0xE000000000000000 : UInt64).toNat ||| e.nextDeclarativeTransactionId.toNat :=
      Nat.left_le_or
    rw [number] at tagged
    exact absurd tagged (by decide)
  have present {capacity : Nat} {text : Text}
      (fits : (BoundedText.assign (utf8 text) : Bool × BoundedText capacity).1 = true) :
      (BoundedText.assign (utf8 text) : Bool × BoundedText capacity).2.isEmpty = false ↔
        0 < (literal text).length := by
    rw [BoundedText.isEmpty, assigned_chars fits, List.isEmpty_eq_false_iff, List.length_pos_iff]
  have body : (BoundedBytes.assign (cString (utf8 action.payload)) :
      Bool × BoundedBytes 256).1 = true ↔ (literal action.payload).length ≤ 256 := by
    unfold BoundedBytes.assign literal
    split
    · rename_i fits
      simp [fits]
    · rename_i long
      simp [long]
  unfold EspNowSendCommandAction.declared EspNowNetProtocolComponent.declarativeCommand
  dsimp only
  constructor
  · rintro ⟨request, declared⟩
    split at declared
    · rename_i texts
      obtain ⟨device, resource, command, payload, _, deviceThere, commandThere, timeout, _⟩ := texts
      exact ⟨⟨(present device).mp deviceThere, literal_within.mp device⟩,
        literal_within.mp resource, ⟨(present command).mp commandThere, literal_within.mp command⟩,
        body.mp payload, timeout⟩
    · cases declared
  · rintro ⟨⟨deviceThere, device⟩, resource, ⟨commandThere, command⟩, payload, timeout⟩
    have device := literal_within.mpr device
    have command := literal_within.mpr command
    refine ⟨_, if_pos ⟨device, literal_within.mpr resource, command, body.mpr payload, identified,
      (present device).mpr deviceThere, (present command).mpr commandThere, timeout,
      iff_of_true rfl rfl⟩⟩

theorem declared_texts (declared : action.declared e = some request) :
    request.deviceId.chars = literal action.device ∧
      request.resource.chars = literal action.resource ∧
      request.name.chars = literal action.command := by
  unfold EspNowSendCommandAction.declared EspNowNetProtocolComponent.declarativeCommand at declared
  dsimp only at declared
  split at declared
  · rename_i texts
    obtain rfl := Option.some.inj declared
    obtain ⟨device, resource, command, _⟩ := texts
    exact ⟨assigned_chars device, assigned_chars resource, assigned_chars command⟩
  · cases declared

theorem startCommand_client {peer : PeerIndex} {command : NetCommand} {nowMs : UInt32}
    (started : (e.startCommand peer command nowMs).1 = true) :
    ∃ slot, (e.startCommand peer command nowMs).2.clients slot =
      { command, peer, startedMs := nowMs, state := .waitingForDeliveryAck } := by
  refine ⟨e.nextSlot, ?_⟩
  unfold EspNowNetProtocolComponent.startCommand at started ⊢
  split
  · rename_i refused
    rw [if_pos refused] at started
    cases started
  · rename_i admitted
    rw [if_neg admitted] at started
    split
    · rename_i failed
      simp [failed] at started
    · rename_i encoded encodes
      rw [encodes] at started
      dsimp only at started ⊢
      split
      · rename_i failed
        simp [failed] at started
      · exact Function.update_self ..

/-- A played action has the command started that it declares. -/
theorem play_starts {nowMs : UInt32} (played : (action.play e nowMs).1 = true) :
    ∃ request slot, action.declared e = some request ∧
      (action.play e nowMs).2.clients slot =
        { command := request, peer := e.radio.peers.indexForId (utf8 action.peer)
          startedMs := nowMs, state := .waitingForDeliveryAck } := by
  have same : action.play e nowMs = e.sendCommand (utf8 action.peer) (utf8 action.device)
      (utf8 action.resource) (utf8 action.command) (utf8 action.payload)
      (UInt32.ofNat action.timeoutMs) nowMs := rfl
  rw [same] at played ⊢
  unfold EspNowNetProtocolComponent.sendCommand at played ⊢
  dsimp only at played ⊢
  split
  · rename_i refused
    rw [if_pos refused] at played
    cases played
  · rename_i admitted
    rw [if_neg admitted] at played
    cases declared : action.declared e with
    | none =>
      unfold EspNowSendCommandAction.declared at declared
      rw [declared] at played
      cases played
    | some request =>
      unfold EspNowSendCommandAction.declared at declared
      rw [declared] at played ⊢
      obtain ⟨slot, started⟩ := startCommand_client played
      exact ⟨request, slot, rfl, started⟩

theorem find_generated (bindings : List BindingConfig)
    (texts : request.resource.chars = literal action.resource ∧
      request.name.chars = literal action.command) :
    (bindings.map BindingConfig.generated).find? (·.matches request) =
      (bindings.find? fun binding => visible binding.resource = visible action.resource ∧
        visible binding.command = visible action.command).map BindingConfig.generated := by
  rw [List.find?_map]
  congr 2
  funext binding
  have resource := literal_eq_iff (a := binding.resource) (b := action.resource)
  have command := literal_eq_iff (a := binding.command) (b := action.command)
  simp [DeclarativeCommandBinding.matches, BindingConfig.generated, texts.1, texts.2, resource,
    command]

/-- A free handler starts the first binding of the route, if the command is for its device. -/
theorem InboundSection.Serves.start_declared {inbound : InboundSection} {s : LightCommandHandler}
    (serves : inbound.Serves s) (free : s.handler.Free)
    (declared : action.declared e = some request) (answers : ProbeAnswers) (nowMs : UInt32) :
    ((s.handler.start request answers nowMs).1,
        (s.handler.start request answers nowMs).2.activeBinding) =
      ((inbound.answer action).1, (inbound.answer action).2.map BindingConfig.generated) := by
  obtain ⟨device, texts⟩ := declared_texts declared
  have found := find_generated inbound.bindings texts
  rw [← serves.bindings] at found
  have own : s.handler.deviceId ≠ some request.deviceId.chars ↔
      visible action.device ≠ visible inbound.deviceId := by
    rw [serves.device, device, ne_eq, Option.some_inj, literal_eq_iff, eq_comm]
  have idle : ¬ (s.handler.resultReady || s.handler.activeBinding.isSome) = true := by
    rw [free.1, free.2]
    decide
  unfold DeclarativeCommandHandler.start InboundSection.answer
  rw [if_neg idle]
  by_cases other : visible action.device ≠ visible inbound.deviceId
  · rw [if_pos (own.mpr other), if_pos other, free.1]
    rfl
  · rw [if_neg (mt own.mp other), if_neg other, found]
    unfold InboundSection.routed
    cases inbound.bindings.find? _ with
    | none =>
      dsimp only [Option.map]
      rw [free.1]
    | some binding =>
      dsimp only [Option.map]
      split
      · rfl
      · rfl

end Declared

theorem find_of_narrower {A : Type} {wide narrow : A → Bool} {list : List A} {first : A}
    (found : list.find? wide = some first) (own : narrow first = true)
    (within : ∀ other, narrow other = true → wide other = true) :
    list.find? narrow = some first := by
  obtain ⟨_, before, after, rfl, missed⟩ := List.find?_eq_some_iff_append.mp found
  refine List.find?_eq_some_iff_append.mpr ⟨own, before, after, rfl, ?_⟩
  intro other member
  have outside := missed other member
  cases narrows : narrow other with
  | false => rfl
  | true =>
    rw [within other narrows] at outside
    cases outside

namespace InboundSection
variable {inbound : InboundSection} {binding : BindingConfig} {resource command : Text}

theorem routed_visible (routed : inbound.routed resource command = some binding) :
    visible binding.resource = visible resource ∧ visible binding.command = visible command := by
  have own := List.find?_some routed
  simpa using own

/-- Bindings that become equal have one route, so the first of the route is the first of them. -/
theorem probes_routed (routed : inbound.routed resource command = some binding) :
    inbound.probes binding.generated = binding.probe := by
  have own := routed_visible routed
  have first : inbound.bindings.find? (fun config => config.generated = binding.generated) =
      some binding := by
    apply find_of_narrower routed (by simp)
    intro other same
    have same : other.generated = binding.generated := by simpa using same
    have resources := congrArg DeclarativeCommandBinding.resource same
    have commands := congrArg DeclarativeCommandBinding.command same
    have resources := literal_eq_iff.mp (Option.some.inj resources)
    have commands := literal_eq_iff.mp (Option.some.inj commands)
    simp [resources, commands, own.1, own.2]
  unfold probes
  rw [first]

/-- The schema has told the routes apart, as far as they are visible. -/
theorem routed_written (accepted : InboundAccepted inbound)
    (plain : ∀ binding ∈ inbound.bindings, visible binding.resource = binding.resource ∧
      visible binding.command = binding.command)
    (plainResource : visible resource = resource) (plainCommand : visible command = command) :
    inbound.routed resource command = some binding ↔
      binding ∈ inbound.bindings ∧ binding.resource = resource ∧ binding.command = command := by
  constructor
  · intro routed
    have member := List.mem_of_find?_eq_some routed
    obtain ⟨resources, commands⟩ := routed_visible routed
    rw [(plain binding member).1, plainResource] at resources
    rw [(plain binding member).2, plainCommand] at commands
    exact ⟨member, resources, commands⟩
  · rintro ⟨member, rfl, rfl⟩
    obtain ⟨found, routed⟩ : ∃ found, inbound.routed binding.resource binding.command = some found := by
      apply Option.isSome_iff_exists.mp
      unfold routed
      rw [List.find?_isSome]
      exact ⟨binding, member, by simp⟩
    have there := List.mem_of_find?_eq_some routed
    obtain ⟨resources, commands⟩ := routed_visible routed
    rw [(plain found there).1, plainResource] at resources
    rw [(plain found there).2, plainCommand] at commands
    have same := List.inj_on_of_nodup_map accepted.routes there member
      (Prod.ext resources commands)
    rw [routed, same]

end InboundSection

/-- An accepted inbound section is served as it is written: by the binding of the command's route,
    in every state in which the handler is free. -/
theorem inbound_routes_served {special : Char → Text} {raw config : ProtocolConfig}
    {rawInbound inbound : InboundSection}
    (schema : configWithInboundSchema special raw rawInbound = .ok (config, inbound)) :
    RoutesServed inbound inbound.generated := by
  have accepted := inboundAccepted_of_schema schema
  obtain ⟨results, serves⟩ := InboundSection.serves_generated accepted
  constructor
  · exact results
  · intro action e playedMs played
    obtain ⟨request, slot, declared, started⟩ := play_starts played
    refine ⟨slot, ?_⟩
    rw [started]
    refine ⟨rfl, rfl, ?_⟩
    intro calls answers nowMs handler free
    exact InboundSection.Serves.start_declared (serves.run calls) free declared answers nowMs
  · intro calls resource command binding routed
    obtain ⟨light, expected⟩ := (serves.run calls).probes binding.generated
    dsimp only
    rw [light, expected, InboundSection.probes_routed routed]
  · intro plain resource command binding plainResource plainCommand
    exact InboundSection.routed_written accepted plain plainResource plainCommand

/-- A lamp that is switched in two ways, of which one is watched. -/
def lampSection : InboundSection where
  deviceId := "panel".toList
  observeApplicationIdentity := true
  bindings := [
    { resource := "lamp".toList, command := "toggle".toList, completion := some { light := 0 } },
    { resource := "lamp".toList, command := "blink".toList }]

theorem inbound_routes_served_lamp : RoutesServed lampSection lampSection.generated :=
  have schema : configWithInboundSchema (fun _ => []) (pairConfig "office".toList) lampSection =
      .ok ({ pairConfig "office".toList with inbound := some (inboundConfig lampSection) },
        lampSection) := by
    decide +kernel
  inbound_routes_served schema

/-- Which bindings are of use: those whose texts fit as literals and that come first for their
    route. The schema bounds the texts in characters, and compares what is behind a NUL. -/
theorem binding_commanded_iff (inbound : InboundSection) (binding : BindingConfig)
    (e : EspNowNetProtocolComponent) :
    inbound.Commanded binding e ↔
      LiteralWithin 63 inbound.deviceId ∧ (literal binding.resource).length ≤ 63 ∧
        LiteralWithin 47 binding.command ∧
        inbound.routed binding.resource binding.command = some binding := by
  constructor
  · rintro ⟨action, request, declared, answer⟩
    obtain ⟨device, resource, command, _⟩ := declared_iff.mp ⟨request, declared⟩
    unfold InboundSection.answer at answer
    split at answer
    · cases answer
    · rename_i own
      split at answer
      · cases answer
      · rename_i found routed
        obtain rfl := Option.some.inj (Prod.mk.inj answer).2
        obtain ⟨resources, commands⟩ := InboundSection.routed_visible routed
        unfold LiteralWithin at device command ⊢
        rw [literal_eq_iff.mpr (not_not.mp own)] at device
        rw [← literal_eq_iff.mpr resources] at resource
        rw [← literal_eq_iff.mpr commands] at command
        refine ⟨device, resource, command, ?_⟩
        unfold InboundSection.routed at routed ⊢
        rw [resources, commands]
        exact routed
  · rintro ⟨device, resource, command, routed⟩
    have declared : ∃ request, EspNowSendCommandAction.declared {
        peer := [], device := inbound.deviceId, resource := binding.resource
        command := binding.command } e = some request := by
      exact declared_iff.mpr ⟨device, resource, command,
        show (literal []).length ≤ 256 by decide, show UInt32.ofNat 5000 ≠ 0 by decide⟩
    obtain ⟨request, declared⟩ := declared
    refine ⟨_, request, declared, ?_⟩
    unfold InboundSection.answer
    simp [routed]

end EspNowNet
