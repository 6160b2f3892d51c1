import Libmdr.Device.Operations

/-!
# The callbacks of the device read the member that is selected

An operation names an inquired type three times: in its packet, in the specifier of the reply
and in the callback that reads one member of a union. `reply_specifier_matches` compares the
second with the packet, so the third has to agree with it.
-/

namespace Libmdr
set_option autoImplicit false

/-! ## Packets that match -/

/-- A packet that matches has the type of the specifier. -/
theorem matches_type {spec : ReplySpecifier} {packet : Packet}
    (isMatch : replySpecifierMatches spec packet = true) : packet.type = spec.packetType := by
  unfold replySpecifierMatches at isMatch
  split at isMatch
  · cases isMatch
  · rename_i same
    exact not_not.mp same

/-- The type selects the member of `packet->data`, and for it the matcher compares `selector`. -/
def Selects {α β : Type} [DecidableEq β] [ByteEnum β] (type : PacketType)
    (member : Packet → Option α) (selector : α → β) : Prop :=
  ∀ packet : Packet, packet.type = type → ∃ data, member packet = some data ∧
    ∀ extra, replySpecifierMatches (.packet type extra) packet =
      (extra == ByteEnum.byte (selector data))

section Selects

variable {α β γ : Type} [DecidableEq β] [ByteEnum β] {type : PacketType}
  {member : Packet → Option α} {selector : α → β} {value : β} {packet : Packet}

/-- A callback that passes something on for the data of one inquired type does so for every
packet that matches it. -/
theorem Selects.passes (selects : Selects type member selector)
    {args : α → Option (Option CallbackArgs)}
    (passes : ∀ data, selector data = value → ∃ a, args data = some (some a))
    (isMatch : replySpecifierMatches (.packet type (ByteEnum.byte value)) packet = true) :
    ∃ a, (member packet).bind args = some (some a) := by
  obtain ⟨data, isData, compares⟩ := selects packet (matches_type isMatch)
  rw [compares, beq_iff_eq] at isMatch
  rw [isData]
  exact passes data (ByteEnum.byte_injective isMatch).symm

/-- `Selects.passes` for a callback that reads one member of the union inside. -/
theorem Selects.reads (selects : Selects type member selector) {inner : α → Option γ}
    {args : γ → CallbackArgs} (isSome : ∀ data, selector data = value → (inner data).isSome)
    (isMatch : replySpecifierMatches (.packet type (ByteEnum.byte value)) packet = true) :
    ∃ a, ((member packet).bind fun data => (inner data).bind fun c => some (some (args c)))
      = some (some a) := by
  refine selects.passes ?_ isMatch
  intro data isValue
  obtain ⟨c, isInner⟩ := Option.isSome_iff_exists.mp (isSome data isValue)
  exact ⟨args c, by rw [isInner]; rfl⟩

end Selects

namespace Packet

/-- Packets of each type are matched by the byte that selects a member. One lemma a type. -/
theorem selects_connectRetDeviceInfo :
    Selects .connectRetDeviceInfo connectRetDeviceInfo? ConnectRetDeviceInfo.inquiredType := by
  intro packet isType
  cases packet with
  | connectRetDeviceInfo data => exact ⟨data, rfl, fun _ => rfl⟩
  | _ => cases isType

theorem selects_commonRetBatteryLevel :
    Selects .commonRetBatteryLevel commonRetBatteryLevel? CommonRetBatteryLevel.inquiredType := by
  intro packet isType
  cases packet with
  | commonRetBatteryLevel data => exact ⟨data, rfl, fun _ => rfl⟩
  | _ => cases isType

theorem selects_commonNtfyBatteryLevel :
    Selects .commonNtfyBatteryLevel commonNtfyBatteryLevel? CommonRetBatteryLevel.inquiredType := by
  intro packet isType
  cases packet with
  | commonNtfyBatteryLevel data => exact ⟨data, rfl, fun _ => rfl⟩
  | _ => cases isType

theorem selects_commonRetConnectionStatus :
    Selects .commonRetConnectionStatus commonRetConnectionStatus?
      CommonRetConnectionStatus.inquiredType := by
  intro packet isType
  cases packet with
  | commonRetConnectionStatus data => exact ⟨data, rfl, fun _ => rfl⟩
  | _ => cases isType

theorem selects_commonNtfyConnectionStatus :
    Selects .commonNtfyConnectionStatus commonNtfyConnectionStatus?
      CommonRetConnectionStatus.inquiredType := by
  intro packet isType
  cases packet with
  | commonNtfyConnectionStatus data => exact ⟨data, rfl, fun _ => rfl⟩
  | _ => cases isType

theorem selects_eqebbRetCapability :
    Selects .eqebbRetCapability eqebbRetCapability? EqebbRetCapability.inquiredType := by
  intro packet isType
  cases packet with
  | eqebbRetCapability data => exact ⟨data, rfl, fun _ => rfl⟩
  | _ => cases isType

theorem selects_eqebbRetParam :
    Selects .eqebbRetParam eqebbRetParam? EqebbRetParam.inquiredType := by
  intro packet isType
  cases packet with
  | eqebbRetParam data => exact ⟨data, rfl, fun _ => rfl⟩
  | _ => cases isType

theorem selects_eqebbNtfyParam :
    Selects .eqebbNtfyParam eqebbNtfyParam? EqebbRetParam.inquiredType := by
  intro packet isType
  cases packet with
  | eqebbNtfyParam data => exact ⟨data, rfl, fun _ => rfl⟩
  | _ => cases isType

theorem selects_ncasmRetParam :
    Selects .ncasmRetParam ncasmRetParam? NcasmRetParam.inquiredType := by
  intro packet isType
  cases packet with
  | ncasmRetParam data => exact ⟨data, rfl, fun _ => rfl⟩
  | _ => cases isType

theorem selects_ncasmNtfyParam :
    Selects .ncasmNtfyParam ncasmNtfyParam? NcasmRetParam.inquiredType := by
  intro packet isType
  cases packet with
  | ncasmNtfyParam data => exact ⟨data, rfl, fun _ => rfl⟩
  | _ => cases isType

theorem selects_playRetParam :
    Selects .playRetParam playRetParam? PlayRetParam.detailedDataType := by
  intro packet isType
  cases packet with
  | playRetParam data => exact ⟨data, rfl, fun _ => rfl⟩
  | _ => cases isType

theorem selects_playNtfyParam :
    Selects .playNtfyParam playNtfyParam? PlayRetParam.detailedDataType := by
  intro packet isType
  cases packet with
  | playNtfyParam data => exact ⟨data, rfl, fun _ => rfl⟩
  | _ => cases isType

theorem selects_systemRetCapability :
    Selects .systemRetCapability systemRetCapability? SystemRetCapability.inquiredType := by
  intro packet isType
  cases packet with
  | systemRetCapability data => exact ⟨data, rfl, fun _ => rfl⟩
  | _ => cases isType

theorem selects_systemRetParam :
    Selects .systemRetParam systemRetParam? SystemRetParam.inquiredType := by
  intro packet isType
  cases packet with
  | systemRetParam data => exact ⟨data, rfl, fun _ => rfl⟩
  | _ => cases isType

theorem selects_systemNtfyParam :
    Selects .systemNtfyParam systemNtfyParam? SystemRetParam.inquiredType := by
  intro packet isType
  cases packet with
  | systemNtfyParam data => exact ⟨data, rfl, fun _ => rfl⟩
  | _ => cases isType

end Packet

/-! ## The unions inside: the inquired type selects the member -/

/-- What the inquired type selects is there to be read. One lemma a member. -/
theorem ConnectRetDeviceInfo.modelName?_isSome (data : ConnectRetDeviceInfo)
    (isType : data.inquiredType = .modelName) : data.modelName?.isSome := by
  cases data with
  | modelName => rfl
  | _ => cases isType

theorem ConnectRetDeviceInfo.fwVersion?_isSome (data : ConnectRetDeviceInfo)
    (isType : data.inquiredType = .fwVersion) : data.fwVersion?.isSome := by
  cases data with
  | fwVersion => rfl
  | _ => cases isType

theorem ConnectRetDeviceInfo.seriesAndColor?_isSome (data : ConnectRetDeviceInfo)
    (isType : data.inquiredType = .seriesAndColor) : data.seriesAndColor?.isSome := by
  cases data with
  | seriesAndColor => rfl
  | _ => cases isType

theorem CommonRetBatteryLevel.battery?_isSome (data : CommonRetBatteryLevel)
    (isType : data.inquiredType = .battery) : data.battery?.isSome := by
  cases data with
  | battery => rfl
  | _ => cases isType

theorem CommonRetBatteryLevel.leftRightBattery?_isSome (data : CommonRetBatteryLevel)
    (isType : data.inquiredType = .leftRightBattery) : data.leftRightBattery?.isSome := by
  cases data with
  | leftRightBattery => rfl
  | _ => cases isType

theorem CommonRetBatteryLevel.cradleBattery?_isSome (data : CommonRetBatteryLevel)
    (isType : data.inquiredType = .cradleBattery) : data.cradleBattery?.isSome := by
  cases data with
  | cradleBattery => rfl
  | _ => cases isType

theorem SystemRetCapability.autoPowerOff?_isSome (data : SystemRetCapability)
    (isType : data.inquiredType = .autoPowerOff) : data.autoPowerOff?.isSome := by
  cases data with
  | autoPowerOff => rfl
  | _ => cases isType

theorem SystemRetCapability.assignableSettings?_isSome (data : SystemRetCapability)
    (isType : data.inquiredType = .assignableSettings) : data.assignableSettings?.isSome := by
  cases data with
  | assignableSettings => rfl
  | _ => cases isType

theorem SystemRetParam.autoPowerOff?_isSome (data : SystemRetParam)
    (isType : data.inquiredType = .autoPowerOff) : data.autoPowerOff?.isSome := by
  cases data with
  | autoPowerOff => rfl
  | _ => cases isType

theorem SystemRetParam.assignableSettings?_isSome (data : SystemRetParam)
    (isType : data.inquiredType = .assignableSettings) : data.assignableSettings?.isSome := by
  cases data with
  | assignableSettings => rfl
  | _ => cases isType

/-- There is one kind of connection status. -/
theorem CommonRetConnectionStatus.leftRight?_isSome (data : CommonRetConnectionStatus) :
    data.leftRight?.isSome := by
  cases data
  rfl

theorem PlayRetParam.volume?_isSome (data : PlayRetParam)
    (isType : data.detailedDataType = .volume) : data.volume?.isSome := by
  obtain ⟨inquiredType, value⟩ := data
  cases value with
  | volume => rfl
  | _ => cases isType

section Supported

variable (supported : SupportedFunctions)

/-- The operations of the equalizer ask for one of the two equalizers. -/
theorem Device.eqInquiredType_ne_ebb : Device.eqInquiredType supported ≠ .ebb := by
  unfold Device.eqInquiredType
  split <;> exact fun same => by cases same

/-- Both equalizers are read by the same member. -/
theorem EqebbRetCapability.eq?_isSome (data : EqebbRetCapability)
    (isType : data.inquiredType = Device.eqInquiredType supported) : data.eq?.isSome := by
  cases data with
  | presetEq | presetEqNoncustomizable => rfl
  | ebb => exact absurd isType.symm (Device.eqInquiredType_ne_ebb supported)

theorem EqebbRetParam.eq?_isSome (data : EqebbRetParam)
    (isType : data.inquiredType = Device.eqInquiredType supported) : data.eq?.isSome := by
  cases data with
  | presetEq | presetEqNoncustomizable => rfl
  | ebb => exact absurd isType.symm (Device.eqInquiredType_ne_ebb supported)

/-- The callback reads the member of what was asked for, the combined type or its own. -/
theorem Device.noiseCancellingArgs_passes (data : NcasmRetParam)
    (isType : data.inquiredType =
      if supported.ambientSoundMode then .noiseCancellingAndAsm else .noiseCancelling) :
    ∃ args, Device.noiseCancellingArgs data = some (some args) := by
  cases data with
  | noiseCancelling | noiseCancellingAsm => exact ⟨_, rfl⟩
  | ambientSoundMode => split at isType <;> cases isType

theorem Device.ambientSoundModeArgs_passes (data : NcasmRetParam)
    (isType : data.inquiredType =
      if supported.noiseCancelling then .noiseCancellingAndAsm else .asm) :
    ∃ args, Device.ambientSoundModeArgs data = some (some args) := by
  cases data with
  | ambientSoundMode | noiseCancellingAsm => exact ⟨_, rfl⟩
  | noiseCancelling => split at isType <;> cases isType

end Supported

/-! ## Operations -/

section Operations

open Packet

variable {supported : SupportedFunctions} {packet : Packet}

/-- Every callback but the first of `mdr_device_init` passes something to the user's callback,
for every packet that matches. -/
theorem Operation.passes {operation : Operation} {request : DeviceRequest}
    (asks : operation.request supported = some request) (other : operation ≠ .init)
    (isMatch : replySpecifierMatches request.replySpecifier packet = true) :
    ∃ args, request.resultCallback.read packet = some (some args) := by
  cases operation with
  | init => exact absurd rfl other
  | getModelName =>
    obtain rfl := Option.some.inj asks
    exact selects_connectRetDeviceInfo.reads ConnectRetDeviceInfo.modelName?_isSome isMatch
  | getFwVersion =>
    obtain rfl := Option.some.inj asks
    exact selects_connectRetDeviceInfo.reads ConnectRetDeviceInfo.fwVersion?_isSome isMatch
  | getSeriesAndColor =>
    obtain rfl := Option.some.inj asks
    exact selects_connectRetDeviceInfo.reads ConnectRetDeviceInfo.seriesAndColor?_isSome isMatch
  | getBatteryLevel =>
    obtain ⟨-, ⟨⟩⟩ := Option.ite_none_right_eq_some.mp asks
    exact selects_commonRetBatteryLevel.reads CommonRetBatteryLevel.battery?_isSome isMatch
  | getLeftRightBatteryLevel =>
    obtain ⟨-, ⟨⟩⟩ := Option.ite_none_right_eq_some.mp asks
    exact selects_commonRetBatteryLevel.reads CommonRetBatteryLevel.leftRightBattery?_isSome isMatch
  | getCradleBatteryLevel =>
    obtain ⟨-, ⟨⟩⟩ := Option.ite_none_right_eq_some.mp asks
    exact selects_commonRetBatteryLevel.reads CommonRetBatteryLevel.cradleBattery?_isSome isMatch
  | getLeftRightConnectionStatus =>
    obtain ⟨-, ⟨⟩⟩ := Option.ite_none_right_eq_some.mp asks
    exact selects_commonRetConnectionStatus.reads (fun data _ => data.leftRight?_isSome) isMatch
  | getNoiseCancellingEnabled =>
    obtain ⟨-, ⟨⟩⟩ := Option.ite_none_right_eq_some.mp asks
    exact selects_ncasmRetParam.passes (Device.noiseCancellingArgs_passes supported) isMatch
  | getAmbientSoundModeSettings =>
    obtain ⟨-, ⟨⟩⟩ := Option.ite_none_right_eq_some.mp asks
    exact selects_ncasmRetParam.passes (Device.ambientSoundModeArgs_passes supported) isMatch
  | getEqCapabilities =>
    obtain ⟨-, ⟨⟩⟩ := Option.ite_none_left_eq_some.mp asks
    exact selects_eqebbRetCapability.reads (EqebbRetCapability.eq?_isSome supported) isMatch
  | getEqPresetAndLevels =>
    obtain ⟨-, ⟨⟩⟩ := Option.ite_none_left_eq_some.mp asks
    exact selects_eqebbRetParam.reads (EqebbRetParam.eq?_isSome supported) isMatch
  | settingGetAutoPowerOffTimeouts =>
    obtain ⟨-, ⟨⟩⟩ := Option.ite_none_right_eq_some.mp asks
    exact selects_systemRetCapability.reads SystemRetCapability.autoPowerOff?_isSome isMatch
  | settingGetAutoPowerOff =>
    obtain ⟨-, ⟨⟩⟩ := Option.ite_none_right_eq_some.mp asks
    exact selects_systemRetParam.reads SystemRetParam.autoPowerOff?_isSome isMatch
  | settingGetAvailableButtonPresets =>
    obtain ⟨-, ⟨⟩⟩ := Option.ite_none_right_eq_some.mp asks
    exact selects_systemRetCapability.reads SystemRetCapability.assignableSettings?_isSome isMatch
  | settingGetActiveButtonPresets =>
    obtain ⟨-, ⟨⟩⟩ := Option.ite_none_right_eq_some.mp asks
    exact selects_systemRetParam.reads SystemRetParam.assignableSettings?_isSome isMatch
  | playbackGetVolume =>
    obtain ⟨-, ⟨⟩⟩ := Option.ite_none_right_eq_some.mp asks
    exact selects_playRetParam.reads PlayRetParam.volume?_isSome isMatch
  | disableNcasm | enableNoiseCancelling | enableAmbientSoundMode =>
    obtain ⟨-, asks⟩ := Option.ite_none_right_eq_some.mp asks
    split at asks <;> cases asks <;> exact ⟨_, rfl⟩
  | powerOff | setEqPreset | setEqLevels | settingDisableAutoPowerOff | settingEnableAutoPowerOff
  | settingSetActiveButtonPresets | playbackSetVolume =>
    obtain ⟨-, ⟨⟩⟩ := Option.ite_none_right_eq_some.mp asks
    exact ⟨_, rfl⟩

/-- The second request of `mdr_device_init`. -/
theorem supportFunctionRequest_passes
    (isMatch : replySpecifierMatches Device.supportFunctionRequest.replySpecifier packet = true) :
    ∃ args, Device.supportFunctionRequest.resultCallback.read packet = some (some args) := by
  have isType := matches_type isMatch
  cases packet with
  | connectRetSupportFunction data => exact ⟨_, rfl⟩
  | _ => cases isType

/-- **Update callbacks read what is selected**, of every packet that their subscription is for. -/
theorem SubscribeOperation.passes {operation : SubscribeOperation} {subscribe : DeviceSubscribe}
    (asks : operation.subscribe supported = some subscribe)
    (isMatch : replySpecifierMatches subscribe.replySpecifier packet = true) :
    ∃ args, subscribe.updateCallback.read packet = some (some args) := by
  cases operation with
  | batteryLevel =>
    obtain ⟨-, ⟨⟩⟩ := Option.ite_none_right_eq_some.mp asks
    exact selects_commonNtfyBatteryLevel.reads CommonRetBatteryLevel.battery?_isSome isMatch
  | leftRightBatteryLevel =>
    obtain ⟨-, ⟨⟩⟩ := Option.ite_none_right_eq_some.mp asks
    exact selects_commonNtfyBatteryLevel.reads CommonRetBatteryLevel.leftRightBattery?_isSome
      isMatch
  | cradleBatteryLevel =>
    obtain ⟨-, ⟨⟩⟩ := Option.ite_none_right_eq_some.mp asks
    exact selects_commonNtfyBatteryLevel.reads CommonRetBatteryLevel.cradleBattery?_isSome isMatch
  | leftRightConnectionStatus =>
    obtain ⟨-, ⟨⟩⟩ := Option.ite_none_right_eq_some.mp asks
    exact selects_commonNtfyConnectionStatus.reads (fun data _ => data.leftRight?_isSome) isMatch
  | noiseCancellingEnabled =>
    obtain ⟨-, ⟨⟩⟩ := Option.ite_none_right_eq_some.mp asks
    exact selects_ncasmNtfyParam.passes (Device.noiseCancellingArgs_passes supported) isMatch
  | ambientSoundModeSettings =>
    obtain ⟨-, ⟨⟩⟩ := Option.ite_none_right_eq_some.mp asks
    exact selects_ncasmNtfyParam.passes (Device.ambientSoundModeArgs_passes supported) isMatch
  | eqPresetAndLevels =>
    obtain ⟨-, ⟨⟩⟩ := Option.ite_none_left_eq_some.mp asks
    exact selects_eqebbNtfyParam.reads (EqebbRetParam.eq?_isSome supported) isMatch
  | autoPowerOff =>
    obtain ⟨-, ⟨⟩⟩ := Option.ite_none_right_eq_some.mp asks
    exact selects_systemNtfyParam.reads SystemRetParam.autoPowerOff?_isSome isMatch
  | activeButtonPresets =>
    obtain ⟨-, ⟨⟩⟩ := Option.ite_none_right_eq_some.mp asks
    exact selects_systemNtfyParam.reads SystemRetParam.assignableSettings?_isSome isMatch
  | volume =>
    obtain ⟨-, ⟨⟩⟩ := Option.ite_none_right_eq_some.mp asks
    exact selects_playNtfyParam.reads PlayRetParam.volume?_isSome isMatch

end Operations

/-- **No callback of the device reads a union member that is not selected**: whatever the
device supports, whichever operation registered the specifier, and whatever packet matches
it. -/
theorem callbacks_read_selected (supported : SupportedFunctions) (packet : Packet) :
    (∀ operation request, Operation.request operation supported = some request →
      replySpecifierMatches request.replySpecifier packet = true →
      (request.resultCallback.read packet).isSome) ∧
    (replySpecifierMatches Device.supportFunctionRequest.replySpecifier packet = true →
      (Device.supportFunctionRequest.resultCallback.read packet).isSome) ∧
    (∀ operation subscribe, SubscribeOperation.subscribe operation supported = some subscribe →
      replySpecifierMatches subscribe.replySpecifier packet = true →
      (subscribe.updateCallback.read packet).isSome) := by
  refine ⟨?_, ?_, ?_⟩
  · intro operation request asks isMatch
    by_cases isInit : operation = .init
    · obtain rfl := isInit
      cases asks
      rfl
    · obtain ⟨args, passes⟩ := operation.passes asks isInit isMatch
      exact Option.isSome_of_eq_some passes
  · intro isMatch
    obtain ⟨args, passes⟩ := supportFunctionRequest_passes isMatch
    exact Option.isSome_of_eq_some passes
  · intro operation subscribe asks isMatch
    obtain ⟨args, passes⟩ := operation.passes asks isMatch
    exact Option.isSome_of_eq_some passes

/-- `callbacks_read_selected` on ambient sound with noise cancelling, on the functions that a
device supports, and on a volume. -/
theorem callbacks_read_selected_ambient_sound :
    (ResultCallback.getAmbientSoundModeSettingsResult.read (.ncasmRetParam (.noiseCancellingAsm
      ⟨.on, .dualSingleOff, 0, .levelAdjustment, .voice, 10⟩))).isSome ∧
    (ResultCallback.initResultSupportedFunction.read
      (.connectRetSupportFunction ⟨0, 1, [.powerOff]⟩)).isSome ∧
    (UpdateCallback.playbackSubscribeVolumeUpdate.read
      (.playNtfyParam ⟨.playbackController, .volume 7⟩)).isSome :=
  let supported := { SupportedFunctions.empty with
    noiseCancelling := true, ambientSoundMode := true, playbackController := true }
  ⟨(callbacks_read_selected supported _).1 .getAmbientSoundModeSettings _ rfl rfl,
    (callbacks_read_selected supported _).2.1 rfl,
    (callbacks_read_selected supported _).2.2 .volume _ rfl rfl⟩

end Libmdr
