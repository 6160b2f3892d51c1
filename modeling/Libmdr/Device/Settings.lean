import Libmdr.Device.Reading
import Libmdr.Packet.EqebbRoundtrip
import Libmdr.Packet.NcasmRoundtrip
import Libmdr.Packet.PlayRoundtrip
import Libmdr.Packet.SystemRoundtrip

/-!
# Setters and subscriptions through the wire

The frame of a setter, sent back as a notification: the device that was told a setting tells it
to whoever subscribed. The setter, its encoder, the decoder, the specifier of the subscription
and the update callback have to agree on one layout.
-/

namespace Libmdr
set_option autoImplicit false

open Packet Parse

/-- The subscription that reports what an operation sets, and what its callback is then given. -/
def Operation.setting : Operation → Option (SubscribeOperation × CallbackArgs)
  | .enableAmbientSoundMode level voice =>
    some (.ambientSoundModeSettings, .ambientSoundMode level voice)
  | .enableNoiseCancelling => some (.noiseCancellingEnabled, .enabled true)
  | .disableNcasm => some (.noiseCancellingEnabled, .enabled false)
  | .setEqPreset presetId => some (.eqPresetAndLevels, .eqPresetAndLevels presetId 0 [])
  | .setEqLevels numLevels levels =>
    some (.eqPresetAndLevels, .eqPresetAndLevels .unspecified numLevels levels)
  | .settingDisableAutoPowerOff => some (.autoPowerOff, .autoPowerOff false .powerOffDisable)
  | .settingEnableAutoPowerOff time => some (.autoPowerOff, .autoPowerOff true time)
  | .settingSetActiveButtonPresets numPresets presets =>
    some (.activeButtonPresets, .buttonPresets numPresets presets)
  | .playbackSetVolume volume => some (.volume, .volume volume)
  | _ => none

/-- An array argument has as many elements as the argument before it says. -/
def Operation.CountsMatch : Operation → Prop
  | .setEqLevels numLevels levels => levels.length = numLevels.toNat
  | .settingSetActiveButtonPresets numPresets presets => presets.length = numPresets.toNat
  | _ => True

/-- The NTFY_PARAM of a family, for its SET_PARAM. -/
def PacketType.ntfyParam : PacketType → PacketType
  | .eqebbSetParam => .eqebbNtfyParam
  | .ncasmSetParam => .ncasmNtfyParam
  | .playSetParam => .playNtfyParam
  | .systemSetParam => .systemNtfyParam
  | type => type

/-- A packet matches the specifier of a subscription, whose callback gets these values. -/
def SubscribeOperation.Reports (operation : SubscribeOperation) (supported : SupportedFunctions)
    (packet : Packet) (args : CallbackArgs) : Prop :=
  ∃ subscribe, operation.subscribe supported = some subscribe ∧
    replySpecifierMatches subscribe.replySpecifier packet = true ∧
    subscribe.updateCallback.read packet = some (some args)

/-- A request is encoded, and its frame, sent back as NTFY_PARAM, is decoded to a packet that
the subscription reports with these values. -/
def DeviceRequest.Echoes (request : DeviceRequest) (supported : SupportedFunctions)
    (operation : SubscribeOperation) (args : CallbackArgs) : Prop :=
  ∀ (heap : Heap) (h : Host), heap.NeverFails →
    ∃ frame h', request.packet.toFrame heap h = some (some frame, h') ∧
      ∀ echo : Frame, echo.dataType = frameDataTypeDataMdr →
        echo.payload = ByteEnum.byte request.packet.type.ntfyParam :: frame.payload.tail →
        ∀ (heap' : Heap) (h₁ : Host), heap'.NeverFails →
          ∃ packet h₂, fromFrame heap' echo h₁ = some (some packet, h₂) ∧
            operation.Reports supported packet args

/-! ## Packets there and back as another type -/

namespace Packet

/-- What the encoder writes for a packet is accepted, behind the type NTFY_PARAM, as another
packet. -/
structure EchoedAs (packet echoed : Packet) : Prop where
  notBattery : ¬ packet.IsBatteryLevel
  accepts : ∃ size bytes, packet.layouts = some [⟨size, bytes⟩] ∧
    (parse packet.type.ntfyParam).Accepts bytes echoed

theorem echoedAs_ncasm (data : NcasmRetParam) :
    EchoedAs (.ncasmSetParam data) (.ncasmNtfyParam data.asWritten) := by
  obtain ⟨size, bytes, written, accepts⟩ := parseNcasmRetParam_accepts data
  exact ⟨not_isBatteryLevel_of_isNcasm trivial, size, bytes, written, accepts_member _ accepts⟩

theorem echoedAs_eqebb {data : EqebbRetParam} (counts : data.CountsMatch) :
    EchoedAs (.eqebbSetParam data) (.eqebbNtfyParam data) := by
  obtain ⟨size, bytes, written, accepts⟩ := parseEqebbRetParam_accepts counts
  exact ⟨not_isBatteryLevel_of_isEqebb trivial, size, bytes, written, accepts_member _ accepts⟩

theorem echoedAs_system {data : SystemRetParam} (counts : data.CountsMatch) :
    EchoedAs (.systemSetParam data) (.systemNtfyParam data) := by
  obtain ⟨size, bytes, written, accepts⟩ := parseSystemRetParam_accepts counts
  exact ⟨not_isBatteryLevel_of_isSystem trivial, size, bytes, written, accepts_member _ accepts⟩

theorem echoedAs_play {data : PlayRetParam} (counts : data.value.CountsMatch)
    (fits : data.value.StringsFit) : EchoedAs (.playSetParam data) (.playNtfyParam data) := by
  obtain ⟨size, bytes, written, accepts⟩ := parsePlayRetParam_accepts counts fits
  have isPlay : (playSetParam data).type.IsPlay := trivial
  exact ⟨not_isBatteryLevel_of isPlay id id, size, bytes, written, accepts_member _ accepts⟩

end Packet

/-- A frame with another first byte. -/
def Frame.withType (frame : Frame) (type : PacketType) : Frame :=
  { frame with body := ByteEnum.byte type :: frame.body.tail }

theorem Frame.withType_payload {frame : Frame} {first : UInt8} {rest : List UInt8}
    (isPayload : frame.payload = first :: rest) (type : PacketType) :
    (frame.withType type).payload = ByteEnum.byte type :: rest := by
  obtain ⟨dataType, sequenceId, payloadLength, body⟩ := frame
  unfold Frame.payload Frame.withType at *
  dsimp only at isPayload ⊢
  cases length : payloadLength.toNat with
  | zero =>
    rw [length] at isPayload
    cases isPayload
  | succ n =>
    rw [length] at isPayload
    cases body with
    | nil => cases isPayload
    | cons b tail =>
      rw [List.take_succ_cons] at isPayload ⊢
      rw [List.tail_cons, (List.cons.inj isPayload).2]

/-- Whether a setting is reported is a matter of the packet that its frame is echoed as. -/
theorem DeviceRequest.echoes_iff {request : DeviceRequest} {echoed : Packet}
    (same : request.packet.EchoedAs echoed) {supported : SupportedFunctions}
    {operation : SubscribeOperation} {args : CallbackArgs} :
    request.Echoes supported operation args ↔ operation.Reports supported echoed args := by
  obtain ⟨notBattery, size, bytes, layouts, accepts⟩ := same
  constructor
  · intro echoes
    have never : Heap.NeverFails fun _ => some [] := fun _ => rfl
    let h : Host := { errno := 0, reads := [], writes := [], mallocs := 0, wire := [], got := [] }
    obtain ⟨frame, h', runs, isData, isPayload⟩ := toFrame_payload notBattery layouts never h
    obtain ⟨made, h₁, runs', reports⟩ := echoes _ h never
    rw [runs] at runs'
    obtain ⟨isFrame, -⟩ := Prod.mk.inj (Option.some.inj runs')
    obtain rfl := Option.some.inj isFrame
    have echo := Frame.withType_payload isPayload request.packet.type.ntfyParam
    have isTail : frame.payload.tail = bytes := by rw [isPayload, List.tail_cons]
    have isData' : (frame.withType request.packet.type.ntfyParam).dataType = frameDataTypeDataMdr :=
      isData
    obtain ⟨packet, h₂, decoded, reported⟩ :=
      reports _ isData' (by rw [echo, isTail]) _ h never
    have front : ByteEnum.byte request.packet.type.ntfyParam :: bytes <+:
        (frame.withType request.packet.type.ntfyParam).payload :=
      ⟨[], (List.append_nil _).trans echo.symm⟩
    obtain ⟨h₃, decoded'⟩ := fromFrame_of_accepts accepts isData' front never h
    rw [decoded] at decoded'
    obtain ⟨isPacket, -⟩ := Prod.mk.inj (Option.some.inj decoded')
    rwa [← Option.some.inj isPacket]
  · intro reports heap h never
    obtain ⟨frame, h', runs, -, isPayload⟩ := toFrame_payload notBattery layouts never h
    refine ⟨frame, h', runs, ?_⟩
    intro echo isData isEcho heap' h₁ never'
    have front : ByteEnum.byte request.packet.type.ntfyParam :: bytes <+: echo.payload :=
      ⟨[], by rw [List.append_nil, isEcho, isPayload, List.tail_cons]⟩
    obtain ⟨h₂, decoded⟩ := fromFrame_of_accepts accepts isData front never' h₁
    exact ⟨echoed, h₂, decoded, reports⟩

/-! ## Operations -/

/-- What the code does for a setting that is reported: the amount of the ambient sound layout
is written as the ASM id once more, and the levels of the equalizer are always set for the
customizable one. -/
def Operation.Agrees (supported : SupportedFunctions) : Operation → Prop
  | .enableAmbientSoundMode level voice => supported.noiseCancelling = false →
      level = ByteEnum.byte (if voice then NcasmAsmId.voice else .normal)
  | .setEqLevels _ _ => supported.eqNonCustomizable = false
  | _ => True

/-- With the gate of the subscription open, only the specifier and the callback are left. -/
theorem SubscribeOperation.reports_iff {operation : SubscribeOperation}
    {supported : SupportedFunctions} {subscribe : DeviceSubscribe}
    (opens : operation.subscribe supported = some subscribe) {packet : Packet}
    {args : CallbackArgs} : operation.Reports supported packet args ↔
      replySpecifierMatches subscribe.replySpecifier packet = true ∧
        subscribe.updateCallback.read packet = some (some args) := by
  constructor
  · rintro ⟨other, isOther, reports⟩
    obtain rfl := Option.some.inj (opens.symm.trans isOther)
    exact reports
  · intro reports
    exact ⟨subscribe, opens, reports⟩

section Setters

variable {supported : SupportedFunctions} {request : DeviceRequest}

/-- A setting that a subscription with an open gate reports. -/
theorem DeviceRequest.Echoes.of_reports {echoed : Packet} {operation : SubscribeOperation}
    {subscribe : DeviceSubscribe} {args : CallbackArgs} (same : request.packet.EchoedAs echoed)
    (opens : operation.subscribe supported = some subscribe)
    (isMatch : replySpecifierMatches subscribe.replySpecifier echoed = true)
    (reads : subscribe.updateCallback.read echoed = some (some args)) :
    request.Echoes supported operation args :=
  (DeviceRequest.echoes_iff same).mpr ((SubscribeOperation.reports_iff opens).mpr ⟨isMatch, reads⟩)

theorem enableAmbientSoundMode_echoes_iff {level : UInt8} {voice : Bool}
    (admitted : Device.enableAmbientSoundMode level voice supported = some request) :
    request.Echoes supported .ambientSoundModeSettings (.ambientSoundMode level voice) ↔
      Operation.Agrees supported (.enableAmbientSoundMode level voice) := by
  obtain ⟨opens, admitted⟩ := Option.ite_none_right_eq_some.mp admitted
  have subscribes : SubscribeOperation.ambientSoundModeSettings.subscribe supported = some _ :=
    if_pos opens
  cases both : supported.noiseCancelling with
  | true =>
    rw [both] at admitted subscribes
    cases admitted
    rw [DeviceRequest.echoes_iff (echoedAs_ncasm _), SubscribeOperation.reports_iff subscribes]
    refine ⟨fun _ alone => ?_, fun _ => ⟨rfl, ?_⟩⟩
    · rw [both] at alone
      cases alone
    · cases voice <;> rfl
  | false =>
    rw [both] at admitted subscribes
    cases admitted
    rw [DeviceRequest.echoes_iff (echoedAs_ncasm _), SubscribeOperation.reports_iff subscribes]
    -- The decoder finds the byte of the ASM id where the level should be.
    have reads : UpdateCallback.subscribeAmbientSoundModeSettingsUpdate.read
        (.ncasmNtfyParam (.ambientSoundMode ⟨.on, .levelAdjustment,
          if voice then .voice else .normal,
          ByteEnum.byte (if voice then NcasmAsmId.voice else .normal)⟩))
        = some (some (.ambientSoundMode
            (ByteEnum.byte (if voice then NcasmAsmId.voice else .normal)) voice)) := by
      cases voice <;> rfl
    constructor
    · rintro ⟨-, reported⟩ -
      have same := reads.symm.trans reported
      simp only [Option.some.injEq, CallbackArgs.ambientSoundMode.injEq, and_true] at same
      exact same.symm
    · intro agrees
      refine ⟨rfl, ?_⟩
      rw [agrees both]
      exact reads

/-- Both switch noise cancelling, on or off. -/
theorem enableNoiseCancelling_echoes
    (admitted : Device.enableNoiseCancelling supported = some request) :
    request.Echoes supported .noiseCancellingEnabled (.enabled true) := by
  obtain ⟨opens, admitted⟩ := Option.ite_none_right_eq_some.mp admitted
  have subscribes : SubscribeOperation.noiseCancellingEnabled.subscribe supported = some _ :=
    if_pos opens
  cases both : supported.ambientSoundMode <;> rw [both] at admitted subscribes <;> cases admitted
  all_goals exact .of_reports (echoedAs_ncasm _) subscribes rfl rfl

theorem disableNcasm_echoes (admitted : Device.disableNcasm supported = some request) :
    request.Echoes supported .noiseCancellingEnabled (.enabled false) := by
  obtain ⟨opens, admitted⟩ := Option.ite_none_right_eq_some.mp admitted
  have subscribes : SubscribeOperation.noiseCancellingEnabled.subscribe supported = some _ :=
    if_pos opens
  cases both : supported.ambientSoundMode <;> rw [both] at admitted subscribes <;> cases admitted
  all_goals exact .of_reports (echoedAs_ncasm _) subscribes rfl rfl

theorem subscribeEqPresetAndLevels_opens (opens : supported.eq = true) :
    SubscribeOperation.eqPresetAndLevels.subscribe supported = some
      { replySpecifier := .packet .eqebbNtfyParam
          (ByteEnum.byte (Device.eqInquiredType supported))
        updateCallback := .subscribeEqPresetAndLevelsUpdate } :=
  if_neg (by rw [opens]; exact Bool.false_ne_true)

theorem setEqPreset_echoes {presetId : EqebbEqPresetId}
    (admitted : Device.setEqPreset presetId supported = some request) :
    request.Echoes supported .eqPresetAndLevels (.eqPresetAndLevels presetId 0 []) := by
  obtain ⟨opens, admitted⟩ := Option.ite_none_right_eq_some.mp admitted
  have subscribes := subscribeEqPresetAndLevels_opens opens
  unfold Device.eqInquiredType at subscribes
  cases fixed : supported.eqNonCustomizable <;> rw [fixed] at admitted subscribes <;>
    cases admitted
  all_goals
    refine .of_reports (echoedAs_eqebb ?_) subscribes rfl rfl
    exact rfl

/-- The levels are set for the customizable equalizer, whichever the subscription is for. -/
theorem setEqLevels_echoes_iff {numLevels : UInt8} {levels : List UInt8}
    (counts : levels.length = numLevels.toNat)
    (admitted : Device.setEqLevels numLevels levels supported = some request) :
    request.Echoes supported .eqPresetAndLevels
        (.eqPresetAndLevels .unspecified numLevels levels) ↔
      Operation.Agrees supported (.setEqLevels numLevels levels) := by
  obtain ⟨opens, ⟨⟩⟩ := Option.ite_none_right_eq_some.mp admitted
  have subscribes := subscribeEqPresetAndLevels_opens opens
  have echoed : EchoedAs (.eqebbSetParam (.presetEq ⟨.unspecified, numLevels, levels⟩))
      (.eqebbNtfyParam (.presetEq ⟨.unspecified, numLevels, levels⟩)) := echoedAs_eqebb counts
  rw [DeviceRequest.echoes_iff echoed, SubscribeOperation.reports_iff subscribes]
  unfold Device.eqInquiredType Operation.Agrees
  cases fixed : supported.eqNonCustomizable with
  | true =>
    constructor
    · rintro ⟨isMatch, -⟩
      cases isMatch
    · intro agrees
      cases agrees
  | false => exact ⟨fun _ => rfl, fun _ => ⟨rfl, rfl⟩⟩

theorem settingDisableAutoPowerOff_echoes
    (admitted : Device.settingDisableAutoPowerOff supported = some request) :
    request.Echoes supported .autoPowerOff (.autoPowerOff false .powerOffDisable) := by
  obtain ⟨opens, ⟨⟩⟩ := Option.ite_none_right_eq_some.mp admitted
  have subscribes : SubscribeOperation.autoPowerOff.subscribe supported = some _ := if_pos opens
  refine .of_reports (echoedAs_system ?_) subscribes rfl rfl
  exact trivial

theorem settingEnableAutoPowerOff_echoes {time : SystemAutoPowerOffElementId}
    (admitted : Device.settingEnableAutoPowerOff time supported = some request) :
    request.Echoes supported .autoPowerOff (.autoPowerOff true time) := by
  obtain ⟨opens, ⟨⟩⟩ := Option.ite_none_right_eq_some.mp admitted
  have subscribes : SubscribeOperation.autoPowerOff.subscribe supported = some _ := if_pos opens
  refine .of_reports (echoedAs_system ?_) subscribes rfl rfl
  exact trivial

theorem settingSetActiveButtonPresets_echoes {numPresets : UInt8}
    {presets : List SystemAssignableSettingsPreset} (counts : presets.length = numPresets.toNat)
    (admitted : Device.settingSetActiveButtonPresets numPresets presets supported = some request) :
    request.Echoes supported .activeButtonPresets (.buttonPresets numPresets presets) := by
  obtain ⟨opens, ⟨⟩⟩ := Option.ite_none_right_eq_some.mp admitted
  have subscribes : SubscribeOperation.activeButtonPresets.subscribe supported = some _ :=
    if_pos opens
  refine .of_reports (echoedAs_system ?_) subscribes rfl rfl
  exact counts

theorem playbackSetVolume_echoes {volume : UInt8}
    (admitted : Device.playbackSetVolume volume supported = some request) :
    request.Echoes supported .volume (.volume volume) := by
  obtain ⟨opens, ⟨⟩⟩ := Option.ite_none_right_eq_some.mp admitted
  have subscribes : SubscribeOperation.volume.subscribe supported = some _ := if_pos opens
  refine .of_reports (echoedAs_play ?_ ?_) subscribes rfl rfl
  · exact trivial
  · exact trivial

/-- **What is set is reported**, when the operation agrees. -/
theorem setting_echoes_iff {operation : Operation} {subscription : SubscribeOperation}
    {args : CallbackArgs} (isSetting : operation.setting = some (subscription, args))
    (counts : operation.CountsMatch) (admitted : operation.request supported = some request) :
    request.Echoes supported subscription args ↔ operation.Agrees supported := by
  cases operation with
  | enableAmbientSoundMode level voice =>
    cases isSetting
    exact enableAmbientSoundMode_echoes_iff admitted
  | enableNoiseCancelling =>
    cases isSetting
    exact iff_of_true (enableNoiseCancelling_echoes admitted) trivial
  | disableNcasm =>
    cases isSetting
    exact iff_of_true (disableNcasm_echoes admitted) trivial
  | setEqPreset presetId =>
    cases isSetting
    exact iff_of_true (setEqPreset_echoes admitted) trivial
  | setEqLevels numLevels levels =>
    cases isSetting
    exact setEqLevels_echoes_iff counts admitted
  | settingDisableAutoPowerOff =>
    cases isSetting
    exact iff_of_true (settingDisableAutoPowerOff_echoes admitted) trivial
  | settingEnableAutoPowerOff time =>
    cases isSetting
    exact iff_of_true (settingEnableAutoPowerOff_echoes admitted) trivial
  | settingSetActiveButtonPresets numPresets presets =>
    cases isSetting
    exact iff_of_true (settingSetActiveButtonPresets_echoes counts admitted) trivial
  | playbackSetVolume volume =>
    cases isSetting
    exact iff_of_true (playbackSetVolume_echoes admitted) trivial
  | _ => cases isSetting

end Setters

/-- Ambient sound at level 10 without noise cancelling, and levels for an equalizer whose
presets are not all customizable: both setters are admitted, and neither setting is reported. -/
theorem not_echoes_ambient_sound_and_eq_levels :
    (∃ request, Operation.request (.enableAmbientSoundMode 10 false)
        { SupportedFunctions.empty with ambientSoundMode := true } = some request ∧
      ¬ request.Echoes { SupportedFunctions.empty with ambientSoundMode := true }
        .ambientSoundModeSettings (.ambientSoundMode 10 false)) ∧
    ∃ request, Operation.request (.setEqLevels 1 [5])
        { SupportedFunctions.empty with eq := true, eqNonCustomizable := true } = some request ∧
      ¬ request.Echoes { SupportedFunctions.empty with eq := true, eqNonCustomizable := true }
        .eqPresetAndLevels (.eqPresetAndLevels .unspecified 1 [5]) := by
  refine ⟨⟨_, rfl, ?_⟩, ⟨_, rfl, ?_⟩⟩
  · intro echoes
    exact absurd ((enableAmbientSoundMode_echoes_iff rfl).mp echoes rfl) (by decide)
  · intro echoes
    cases (setEqLevels_echoes_iff rfl rfl).mp echoes

/-- `setting_echoes_iff` on ambient sound with noise cancelling, and on button presets. -/
theorem setting_echoes_iff_ambient_sound :
    (DeviceRequest.Echoes (.set (.ncasmSetParam (.noiseCancellingAsm
        ⟨.on, .dualSingleOff, 0, .levelAdjustment, .voice, 10⟩)))
        { SupportedFunctions.empty with noiseCancelling := true, ambientSoundMode := true }
        .ambientSoundModeSettings (.ambientSoundMode 10 true) ↔
      Operation.Agrees
        { SupportedFunctions.empty with noiseCancelling := true, ambientSoundMode := true }
        (.enableAmbientSoundMode 10 true)) ∧
    (DeviceRequest.Echoes (.set (.systemSetParam (.assignableSettings ⟨1, [.volumeControl]⟩)))
        { SupportedFunctions.empty with assignableSettings := true }
        .activeButtonPresets (.buttonPresets 1 [.volumeControl]) ↔
      Operation.Agrees { SupportedFunctions.empty with assignableSettings := true }
        (.settingSetActiveButtonPresets 1 [.volumeControl])) :=
  ⟨@setting_echoes_iff
      { SupportedFunctions.empty with noiseCancelling := true, ambientSoundMode := true } _
      (.enableAmbientSoundMode 10 true) _ _ rfl trivial rfl,
    @setting_echoes_iff { SupportedFunctions.empty with assignableSettings := true } _
      (.settingSetActiveButtonPresets 1 [.volumeControl]) _ _ rfl rfl rfl⟩

end Libmdr
