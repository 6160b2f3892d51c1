import Libmdr.Device.Gates

/-!
# The inquired types that a device is asked for

The requests about noise cancelling, ambient sound and the equalizer name an inquired type, in
the packet and in the specifier of the reply. The operations choose it by the flags, which do not
tell a device that has reported noise cancelling and ambient sound apart from one that has
reported both as one function.
-/

namespace Libmdr
set_option autoImplicit false

/-- The function that an inquired type is about. -/
def NcasmInquiredType.function : NcasmInquiredType → SupportFunctionType
  | .noiseCancelling => .noiseCancelling
  | .noiseCancellingAndAsm => .noiseCancellingAndAmbientSoundMode
  | .asm => .ambientSoundMode

def EqebbInquiredType.function : EqebbInquiredType → SupportFunctionType
  | .presetEq => .presetEq
  | .ebb => .ebb
  | .presetEqNoncustomizable => .presetEqNoncustomizable

/-- The function that a request of these two families names. -/
def Packet.inquiredFunction : Packet → Option SupportFunctionType
  | .ncasmGetParam data => some data.inquiredType.function
  | .ncasmSetParam data => some data.inquiredType.function
  | .eqebbGetCapability data => some data.inquiredType.function
  | .eqebbGetParam data => some data.inquiredType.function
  | .eqebbSetParam data => some data.inquiredType.function
  | _ => none

/-- The function that a reply of these two families is expected to name: `extra` is its inquired
type. -/
def ReplySpecifier.inquiredFunction (spec : ReplySpecifier) : Option SupportFunctionType :=
  match spec.packetType with
  | .ncasmRetParam | .ncasmNtfyParam =>
    (ByteEnum.ofByte spec.extra).map NcasmInquiredType.function
  | .eqebbRetCapability | .eqebbRetParam | .eqebbNtfyParam =>
    (ByteEnum.ofByte spec.extra).map EqebbInquiredType.function
  | _ => none

/-- The operations on noise cancelling, ambient sound and the equalizer. -/
def Operation.Inquires : Operation → Prop
  | getNoiseCancellingEnabled | getAmbientSoundModeSettings | disableNcasm | enableNoiseCancelling
  | enableAmbientSoundMode _ _ | getEqCapabilities | getEqPresetAndLevels | setEqPreset _
  | setEqLevels _ _ => True
  | _ => False

def SubscribeOperation.Inquires : SubscribeOperation → Prop
  | noiseCancellingEnabled | ambientSoundModeSettings | eqPresetAndLevels => True
  | _ => False

/-- A request names one of these functions, and so does the specifier of its reply unless the
reply is an ACK. -/
def DeviceRequest.Names (request : DeviceRequest) (functions : SupportFunctionType → Prop) : Prop :=
  ∃ function, functions function ∧ request.packet.inquiredFunction = some function ∧
    (request.replySpecifier.onlyAck = true ∨
      request.replySpecifier.inquiredFunction = some function)

/-- A subscription names one of these functions. -/
def DeviceSubscribe.Names (subscribe : DeviceSubscribe) (functions : SupportFunctionType → Prop) :
    Prop :=
  ∃ function, functions function ∧ subscribe.replySpecifier.inquiredFunction = some function

/-- Every request that passes its gate, and every subscription, names one of these functions. -/
structure SupportedFunctions.Names (s : SupportedFunctions) (functions : SupportFunctionType → Prop) :
    Prop where
  requests : ∀ (operation : Operation) (request : DeviceRequest), operation.Inquires →
    operation.request s = some request → request.Names functions
  subscriptions : ∀ (operation : SubscribeOperation) (subscribe : DeviceSubscribe),
    operation.Inquires → operation.subscribe s = some subscribe → subscribe.Names functions

/-- The functions that were reported, and noise cancelling with ambient sound where they were
reported one by one. -/
def Offers (types : List SupportFunctionType) (function : SupportFunctionType) : Prop :=
  function ∈ types ∨ function = .noiseCancellingAndAmbientSoundMode ∧
    .noiseCancelling ∈ types ∧ .ambientSoundMode ∈ types

/-! ## What the flags say about a type -/

section

variable {types : List SupportFunctionType} {s : SupportedFunctions}

theorem getNcasm_names {type : NcasmInquiredType} (callback : ResultCallback)
    (offers : Offers types type.function) :
    (Device.getNcasm type callback).Names (Offers types) :=
  ⟨type.function, offers, rfl, .inr (congrArg (Option.map _) (ByteEnum.ofByte_byte type))⟩

theorem subscribeNcasm_names {type : NcasmInquiredType} (callback : UpdateCallback)
    (offers : Offers types type.function) :
    (Device.subscribeNcasm type callback).Names (Offers types) :=
  ⟨type.function, offers, congrArg (Option.map _) (ByteEnum.ofByte_byte type)⟩

variable (shows : s.Shows types)
include shows

theorem offers_both (nc : s.noiseCancelling = true) (asm : s.ambientSoundMode = true) :
    Offers types .noiseCancellingAndAmbientSoundMode := by
  rcases shows.noiseCancelling.mp nc with single | both
  · rcases shows.ambientSoundMode.mp asm with other | both
    · exact .inr ⟨rfl, single, other⟩
    · exact .inl both
  · exact .inl both

/-- The type of an operation on noise cancelling. -/
theorem offers_noiseCancelling (nc : s.noiseCancelling = true) :
    Offers types (if s.ambientSoundMode then NcasmInquiredType.noiseCancellingAndAsm
      else .noiseCancelling).function := by
  split
  · rename_i asm
    exact offers_both shows nc asm
  · rename_i clear
    rcases shows.noiseCancelling.mp nc with single | both
    · exact .inl single
    · exact absurd (shows.ambientSoundMode.mpr (.inr both)) clear

/-- The type of an operation on ambient sound. -/
theorem offers_ambientSoundMode (asm : s.ambientSoundMode = true) :
    Offers types (if s.noiseCancelling then NcasmInquiredType.noiseCancellingAndAsm
      else .asm).function := by
  split
  · rename_i nc
    exact offers_both shows nc asm
  · rename_i clear
    rcases shows.ambientSoundMode.mp asm with single | both
    · exact .inl single
    · exact absurd (shows.noiseCancelling.mpr (.inr both)) clear

/-- The type of an operation on the equalizer. -/
theorem offers_eq (gate : ¬ (!s.eq && !s.eqNonCustomizable) = true) :
    Offers types (Device.eqInquiredType s).function := by
  unfold Device.eqInquiredType
  split
  · rename_i isSet
    exact .inl (shows.eqNonCustomizable.mp isSet)
  · rename_i clear
    refine .inl (shows.eq.mp ?_)
    simpa [clear] using gate

omit shows in
/-- A request that names the type it was made for. -/
theorem names_of_ite {p : Prop} [Decidable p] {both single : NcasmInquiredType}
    {made other request : DeviceRequest} (offers : Offers types (if p then both else single).function)
    (asks : (if p then some made else some other) = some request)
    (made_names : Offers types both.function → made.Names (Offers types))
    (other_names : Offers types single.function → other.Names (Offers types)) :
    request.Names (Offers types) := by
  by_cases holds : p
  · rw [if_pos holds] at offers asks
    cases asks
    exact made_names offers
  · rw [if_neg holds] at offers asks
    cases asks
    exact other_names offers

/-- One case for each operation that asks for an inquired type. -/
theorem request_names {operation : Operation} {request : DeviceRequest}
    (inquires : operation.Inquires) (asks : operation.request s = some request) :
    request.Names (Offers types) := by
  cases operation with
  | getNoiseCancellingEnabled =>
    obtain ⟨nc, ⟨⟩⟩ := Option.ite_none_right_eq_some.mp asks
    exact getNcasm_names _ (offers_noiseCancelling shows nc)
  | getAmbientSoundModeSettings =>
    obtain ⟨asm, ⟨⟩⟩ := Option.ite_none_right_eq_some.mp asks
    exact getNcasm_names _ (offers_ambientSoundMode shows asm)
  | disableNcasm | enableNoiseCancelling =>
    obtain ⟨nc, asks⟩ := Option.ite_none_right_eq_some.mp asks
    exact names_of_ite (offers_noiseCancelling shows nc) asks
      (fun offers => ⟨_, offers, rfl, .inl rfl⟩) (fun offers => ⟨_, offers, rfl, .inl rfl⟩)
  | enableAmbientSoundMode level voice =>
    obtain ⟨asm, asks⟩ := Option.ite_none_right_eq_some.mp asks
    exact names_of_ite (offers_ambientSoundMode shows asm) asks
      (fun offers => ⟨_, offers, rfl, .inl rfl⟩) (fun offers => ⟨_, offers, rfl, .inl rfl⟩)
  | getEqCapabilities | getEqPresetAndLevels =>
    obtain ⟨gate, ⟨⟩⟩ := Option.ite_none_left_eq_some.mp asks
    exact ⟨_, offers_eq shows gate, rfl, .inr (congrArg (Option.map _) (ByteEnum.ofByte_byte _))⟩
  | setEqPreset presetId =>
    obtain ⟨eq, ⟨⟩⟩ := Option.ite_none_right_eq_some.mp asks
    refine ⟨_, offers_eq shows (by simp [eq]), ?_, .inl rfl⟩
    unfold Device.eqInquiredType
    cases s.eqNonCustomizable with
    | true => rfl
    | false => rfl
  | setEqLevels numLevels levels =>
    obtain ⟨eq, ⟨⟩⟩ := Option.ite_none_right_eq_some.mp asks
    exact ⟨_, .inl (shows.eq.mp eq), rfl, .inl rfl⟩
  | _ => exact inquires.elim

theorem subscribe_names {operation : SubscribeOperation} {subscribe : DeviceSubscribe}
    (inquires : operation.Inquires) (asks : operation.subscribe s = some subscribe) :
    subscribe.Names (Offers types) := by
  cases operation with
  | noiseCancellingEnabled =>
    obtain ⟨nc, ⟨⟩⟩ := Option.ite_none_right_eq_some.mp asks
    exact subscribeNcasm_names _ (offers_noiseCancelling shows nc)
  | ambientSoundModeSettings =>
    obtain ⟨asm, ⟨⟩⟩ := Option.ite_none_right_eq_some.mp asks
    exact subscribeNcasm_names _ (offers_ambientSoundMode shows asm)
  | eqPresetAndLevels =>
    obtain ⟨gate, ⟨⟩⟩ := Option.ite_none_left_eq_some.mp asks
    exact ⟨_, offers_eq shows gate, congrArg (Option.map _) (ByteEnum.ofByte_byte _)⟩
  | _ => exact inquires.elim

theorem names_offers : s.Names (Offers types) :=
  ⟨fun _ _ => request_names shows, fun _ _ => subscribe_names shows⟩

end

namespace DeviceConn

variable {env : Env} {deviceEnv : DeviceEnv} {x : DeviceConn}

/-- **What a device is asked for was reported**, or it is noise cancelling with ambient sound and
the two were reported one by one. -/
theorem names_offers_of_run {calls : List Call} {fconn : FrameConn} {host : Host}
    (ran : (start fconn host).run env deviceEnv calls = some x) :
    x.device.supportedFunctions.Names (Offers (reportedIn x.conn.log)) := by
  have flags := flagsReported_of_run ran
  rw [flags]
  exact names_offers (SupportedFunctions.shows_ofList _)

/-- A device with both as one function, and presets that are not customizable: it is asked about
noise cancelling and its presets, and subscribes to them. -/
theorem names_offers_of_run_both :
    ∃ x, initReporting [0x62, 0x53] 208 = some x ∧
      Operation.getNoiseCancellingEnabled.request x.device.supportedFunctions ≠ none ∧
      Operation.getEqPresetAndLevels.request x.device.supportedFunctions ≠ none ∧
      SubscribeOperation.eqPresetAndLevels.subscribe x.device.supportedFunctions ≠ none ∧
      x.device.supportedFunctions.Names (Offers (reportedIn x.conn.log)) := by
  obtain ⟨x, ran, reported⟩ := initReporting_some (show (initReporting [0x62, 0x53] 208).any
    (fun x => reportedIn x.conn.log =
      [.noiseCancellingAndAmbientSoundMode, .presetEqNoncustomizable]) = true by decide +kernel)
  have flags : x.device.supportedFunctions = _ := flagsReported_of_run ran
  rw [reported] at flags
  refine ⟨x, ran, ?_, ?_, ?_, names_offers_of_run ran⟩ <;> rw [flags] <;> decide

/-- Noise cancelling and ambient sound one by one: the request names both in one. -/
theorem not_names_reported :
    ¬ ∀ (env : Env) (deviceEnv : DeviceEnv) (calls : List Call) (fconn : FrameConn) (host : Host)
      (x : DeviceConn), (start fconn host).run env deviceEnv calls = some x →
        x.device.supportedFunctions.Names (· ∈ reportedIn x.conn.log) := by
  intro always
  obtain ⟨x, ran, reported⟩ := initReporting_some (show (initReporting [0x61, 0x63] 223).any (fun x =>
    reportedIn x.conn.log = [.noiseCancelling, .ambientSoundMode]) = true by decide +kernel)
  have flags : x.device.supportedFunctions = _ := flagsReported_of_run ran
  have names := always _ _ _ _ _ x ran
  rw [flags, reported] at names
  obtain ⟨function, isReported, isNamed, -⟩ :=
    names.requests .getNoiseCancellingEnabled _ trivial rfl
  cases isNamed
  exact absurd isReported (by decide)

end DeviceConn

end Libmdr
