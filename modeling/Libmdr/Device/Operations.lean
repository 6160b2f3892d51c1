import Libmdr.Device.Callbacks

/-!
# The operations of a device

What the functions of `src/device.c` ask of the packet connection, from the functions that the
device supports: a request, with the packet, the specifier of the reply and the callback that
reads it; or a subscription. `none` is the gate of an operation: `errno` is set to
`MDR_E_NOT_SUPPORTED`, and -1 or NULL is returned.
-/

namespace Libmdr
set_option autoImplicit false

/-- `mdr_device_supported_functions_t`. -/
structure SupportedFunctions where
  powerOff : Bool
  battery : Bool
  leftRightBattery : Bool
  cradleBattery : Bool
  noiseCancelling : Bool
  ambientSoundMode : Bool
  leftRightConnectionStatus : Bool
  eq : Bool
  eqNonCustomizable : Bool
  autoPowerOff : Bool
  playbackController : Bool
  assignableSettings : Bool
  deriving DecidableEq, Repr

/-- A new device supports nothing. -/
def SupportedFunctions.empty : SupportedFunctions :=
  ⟨false, false, false, false, false, false, false, false, false, false, false, false⟩

/-- One round of the loop in `mdr_device_init_result_supported_function`. -/
def SupportedFunctions.add (supported : SupportedFunctions) :
    SupportFunctionType → SupportedFunctions
  | .powerOff => { supported with powerOff := true }
  | .batteryLevel => { supported with battery := true }
  | .leftRightBatteryLevel => { supported with leftRightBattery := true }
  | .cradleBatteryLevel => { supported with cradleBattery := true }
  | .noiseCancelling => { supported with noiseCancelling := true }
  | .ambientSoundMode => { supported with ambientSoundMode := true }
  | .noiseCancellingAndAmbientSoundMode =>
    { supported with noiseCancelling := true, ambientSoundMode := true }
  | .leftRightConnectionStatus => { supported with leftRightConnectionStatus := true }
  | .presetEq => { supported with eq := true }
  | .presetEqNoncustomizable => { supported with eqNonCustomizable := true }
  | .autoPowerOff => { supported with autoPowerOff := true }
  | .playbackController => { supported with playbackController := true }
  | .assignableSettings => { supported with assignableSettings := true }
  | _ => supported

/-- What an operation passes to `mdr_device_make_request`. -/
structure DeviceRequest where
  packet : Packet
  replySpecifier : ReplySpecifier
  resultCallback : ResultCallback
  deriving DecidableEq, Repr

/-- What an operation passes to `mdr_device_add_subscription`. -/
structure DeviceSubscribe where
  replySpecifier : ReplySpecifier
  updateCallback : UpdateCallback
  deriving DecidableEq, Repr

/-- `{ .packet_type = type, .extra = extra, .only_ack = false }`. -/
def ReplySpecifier.packet (packetType : PacketType) (extra : UInt8) : ReplySpecifier :=
  { onlyAck := false, packetType, extra }

/-- `{ .only_ack = true }`, the other fields 0. -/
def ReplySpecifier.ack : ReplySpecifier :=
  { onlyAck := true, packetType := .connectGetProtocolInfo, extra := 0 }

/-- A request whose only answer is an ACK. -/
def DeviceRequest.set (packet : Packet) : DeviceRequest :=
  { packet, replySpecifier := .ack, resultCallback := .successCallbackPassthrough }

namespace Device

/-! ## Initialization and device info -/

/-- `mdr_device_init`. -/
def init (_ : SupportedFunctions) : Option DeviceRequest :=
  some
    { packet := .connectGetProtocolInfo { fixedValue := 0 }
      replySpecifier := .packet .connectRetProtocolInfo 0
      resultCallback := .initResultProtocolInfo }

/-- The second request of `mdr_device_init`, in `mdr_device_init_result_protocol_info`. -/
def supportFunctionRequest : DeviceRequest :=
  { packet := .connectGetSupportFunction { fixedValue := 0 }
    replySpecifier := .packet .connectRetSupportFunction 0
    resultCallback := .initResultSupportedFunction }

def getDeviceInfo (inquiredType : DeviceInfoInquiredType) (resultCallback : ResultCallback) :
    DeviceRequest :=
  { packet := .connectGetDeviceInfo { inquiredType }
    replySpecifier := .packet .connectRetDeviceInfo (ByteEnum.byte inquiredType)
    resultCallback }

/-- `mdr_device_get_model_name`. -/
def getModelName (_ : SupportedFunctions) : Option DeviceRequest :=
  some (getDeviceInfo .modelName .getModelNameResult)

/-- `mdr_device_get_fw_version`. -/
def getFwVersion (_ : SupportedFunctions) : Option DeviceRequest :=
  some (getDeviceInfo .fwVersion .getFwVersionResult)

/-- `mdr_device_get_series_and_color`. -/
def getSeriesAndColor (_ : SupportedFunctions) : Option DeviceRequest :=
  some (getDeviceInfo .seriesAndColor .getSeriesAndColorResult)

/-! ## Power, battery and connection status -/

/-- `mdr_device_power_off`. -/
def powerOff (supported : SupportedFunctions) : Option DeviceRequest :=
  if supported.powerOff then
    some (.set (.commonSetPowerOff { inquiredType := .fixedValue, settingValue := .userPowerOff }))
  else none

def getBattery (inquiredType : BatteryInquiredType) (resultCallback : ResultCallback) :
    DeviceRequest :=
  { packet := .commonGetBatteryLevel { inquiredType }
    replySpecifier := .packet .commonRetBatteryLevel (ByteEnum.byte inquiredType)
    resultCallback }

def subscribeBattery (inquiredType : BatteryInquiredType) (updateCallback : UpdateCallback) :
    DeviceSubscribe :=
  { replySpecifier := .packet .commonNtfyBatteryLevel (ByteEnum.byte inquiredType)
    updateCallback }

/-- `mdr_device_get_battery_level`. -/
def getBatteryLevel (supported : SupportedFunctions) : Option DeviceRequest :=
  if supported.battery then some (getBattery .battery .getBatteryLevelResult) else none

/-- `mdr_device_subscribe_battery_level`. -/
def subscribeBatteryLevel (supported : SupportedFunctions) : Option DeviceSubscribe :=
  if supported.battery then some (subscribeBattery .battery .subscribeBatteryLevelUpdate)
  else none

/-- `mdr_device_get_left_right_battery_level`. -/
def getLeftRightBatteryLevel (supported : SupportedFunctions) : Option DeviceRequest :=
  if supported.leftRightBattery then
    some (getBattery .leftRightBattery .getLeftRightBatteryLevelResult)
  else none

/-- `mdr_device_subscribe_left_right_battery_level`. -/
def subscribeLeftRightBatteryLevel (supported : SupportedFunctions) : Option DeviceSubscribe :=
  if supported.leftRightBattery then
    some (subscribeBattery .leftRightBattery .subscribeLeftRightBatteryLevelUpdate)
  else none

/-- `mdr_device_get_cradle_battery_level`. -/
def getCradleBatteryLevel (supported : SupportedFunctions) : Option DeviceRequest :=
  if supported.cradleBattery then some (getBattery .cradleBattery .getCradleBatteryLevelResult)
  else none

/-- `mdr_device_subscribe_cradle_battery_level`. -/
def subscribeCradleBatteryLevel (supported : SupportedFunctions) : Option DeviceSubscribe :=
  if supported.cradleBattery then
    some (subscribeBattery .cradleBattery .subscribeCradleBatteryLevelUpdate)
  else none

/-- `mdr_device_get_left_right_connection_status`. -/
def getLeftRightConnectionStatus (supported : SupportedFunctions) : Option DeviceRequest :=
  if supported.leftRightConnectionStatus then
    some
      { packet := .commonGetConnectionStatus { inquiredType := .leftRight }
        replySpecifier := .packet .commonRetConnectionStatus
          (ByteEnum.byte ConnectionStatusInquiredType.leftRight)
        resultCallback := .getLeftRightConnectionStatusResult }
  else none

/-- `mdr_device_subscribe_left_right_connection_status`. -/
def subscribeLeftRightConnectionStatus (supported : SupportedFunctions) : Option DeviceSubscribe :=
  if supported.leftRightConnectionStatus then
    some
      { replySpecifier := .packet .commonNtfyConnectionStatus
          (ByteEnum.byte ConnectionStatusInquiredType.leftRight)
        updateCallback := .subscribeLeftRightConnectionStatusUpdate }
  else none

/-! ## Noise cancelling and ambient sound mode -/

def getNcasm (inquiredType : NcasmInquiredType) (resultCallback : ResultCallback) :
    DeviceRequest :=
  { packet := .ncasmGetParam { inquiredType }
    replySpecifier := .packet .ncasmRetParam (ByteEnum.byte inquiredType)
    resultCallback }

def subscribeNcasm (inquiredType : NcasmInquiredType) (updateCallback : UpdateCallback) :
    DeviceSubscribe :=
  { replySpecifier := .packet .ncasmNtfyParam (ByteEnum.byte inquiredType)
    updateCallback }

/-- `mdr_device_get_noise_cancelling_enabled`. -/
def getNoiseCancellingEnabled (supported : SupportedFunctions) : Option DeviceRequest :=
  if supported.noiseCancelling then
    some (getNcasm (if supported.ambientSoundMode then .noiseCancellingAndAsm else .noiseCancelling)
      .getNoiseCancellingEnabledResult)
  else none

/-- `mdr_device_subscribe_noise_cancelling_enabled`. -/
def subscribeNoiseCancellingEnabled (supported : SupportedFunctions) : Option DeviceSubscribe :=
  if supported.noiseCancelling then
    some (subscribeNcasm
      (if supported.ambientSoundMode then .noiseCancellingAndAsm else .noiseCancelling)
      .subscribeNoiseCancellingEnabledUpdate)
  else none

/-- `mdr_device_get_ambient_sound_mode_settings`. -/
def getAmbientSoundModeSettings (supported : SupportedFunctions) : Option DeviceRequest :=
  if supported.ambientSoundMode then
    some (getNcasm (if supported.noiseCancelling then .noiseCancellingAndAsm else .asm)
      .getAmbientSoundModeSettingsResult)
  else none

/-- `mdr_device_subscribe_ambient_sound_mode_settings`. -/
def subscribeAmbientSoundModeSettings (supported : SupportedFunctions) : Option DeviceSubscribe :=
  if supported.ambientSoundMode then
    some (subscribeNcasm (if supported.noiseCancelling then .noiseCancellingAndAsm else .asm)
      .subscribeAmbientSoundModeSettingsUpdate)
  else none

/-- `mdr_device_disable_ncasm`. -/
def disableNcasm (supported : SupportedFunctions) : Option DeviceRequest :=
  if supported.noiseCancelling then
    if supported.ambientSoundMode then
      some (.set (.ncasmSetParam (.noiseCancellingAsm
        { ncasmEffect := .off, ncasmSettingType := .dualSingleOff, ncasmAmount := 2,
          asmSettingType := .levelAdjustment, asmId := .normal, asmAmount := 0 })))
    else
      some (.set (.ncasmSetParam (.noiseCancelling
        { ncSettingType := .onOff, ncSettingValue := .off })))
  else none

/-- `mdr_device_enable_noise_cancelling`. -/
def enableNoiseCancelling (supported : SupportedFunctions) : Option DeviceRequest :=
  if supported.noiseCancelling then
    if supported.ambientSoundMode then
      some (.set (.ncasmSetParam (.noiseCancellingAsm
        { ncasmEffect := .on, ncasmSettingType := .dualSingleOff, ncasmAmount := 2,
          asmSettingType := .levelAdjustment, asmId := .normal, asmAmount := 0 })))
    else
      some (.set (.ncasmSetParam (.noiseCancelling
        { ncSettingType := .onOff, ncSettingValue := .on })))
  else none

/-- `mdr_device_enable_ambient_sound_mode`. -/
def enableAmbientSoundMode (level : UInt8) (voice : Bool) (supported : SupportedFunctions) :
    Option DeviceRequest :=
  if supported.ambientSoundMode then
    if supported.noiseCancelling then
      some (.set (.ncasmSetParam (.noiseCancellingAsm
        { ncasmEffect := .on, ncasmSettingType := .dualSingleOff, ncasmAmount := 0,
          asmSettingType := .levelAdjustment, asmId := if voice then .voice else .normal,
          asmAmount := level })))
    else
      some (.set (.ncasmSetParam (.ambientSoundMode
        { ncasmEffect := .on, asmSettingType := .levelAdjustment,
          asmId := if voice then .voice else .normal, asmAmount := level })))
  else none

/-! ## Equalizer -/

/-- The inquired type of the equalizer's requests, but for that of `mdr_device_set_eq_levels`. -/
def eqInquiredType (supported : SupportedFunctions) : EqebbInquiredType :=
  if supported.eqNonCustomizable then .presetEqNoncustomizable else .presetEq

/-- `mdr_device_get_eq_capabilities`. -/
def getEqCapabilities (supported : SupportedFunctions) : Option DeviceRequest :=
  if !supported.eq && !supported.eqNonCustomizable then none
  else
    some
      { packet := .eqebbGetCapability
          { inquiredType := eqInquiredType supported, displayLanguage := .undefinedLanguage }
        replySpecifier := .packet .eqebbRetCapability (ByteEnum.byte (eqInquiredType supported))
        resultCallback := .getEqCapabilitiesResult }

/-- `mdr_device_get_eq_preset_and_levels`. -/
def getEqPresetAndLevels (supported : SupportedFunctions) : Option DeviceRequest :=
  if !supported.eq && !supported.eqNonCustomizable then none
  else
    some
      { packet := .eqebbGetParam { inquiredType := eqInquiredType supported }
        replySpecifier := .packet .eqebbRetParam (ByteEnum.byte (eqInquiredType supported))
        resultCallback := .getEqPresetAndLevelsResult }

/-- `mdr_device_subscribe_eq_preset_and_levels`. -/
def subscribeEqPresetAndLevels (supported : SupportedFunctions) : Option DeviceSubscribe :=
  if !supported.eq && !supported.eqNonCustomizable then none
  else
    some
      { replySpecifier := .packet .eqebbNtfyParam (ByteEnum.byte (eqInquiredType supported))
        updateCallback := .subscribeEqPresetAndLevelsUpdate }

/-- `mdr_device_set_eq_preset`. -/
def setEqPreset (presetId : EqebbEqPresetId) (supported : SupportedFunctions) :
    Option DeviceRequest :=
  if supported.eq then
    let eq : EqebbParamEq := { presetId, numLevels := 0, levels := [] }
    some (.set (.eqebbSetParam
      (if supported.eqNonCustomizable then .presetEqNoncustomizable eq else .presetEq eq)))
  else none

/-- `mdr_device_set_eq_levels`. -/
def setEqLevels (numLevels : UInt8) (levels : List UInt8) (supported : SupportedFunctions) :
    Option DeviceRequest :=
  if supported.eq then
    some (.set (.eqebbSetParam (.presetEq { presetId := .unspecified, numLevels, levels })))
  else none

/-! ## Settings -/

/-- `mdr_device_setting_get_auto_power_off_timeouts`. -/
def settingGetAutoPowerOffTimeouts (supported : SupportedFunctions) : Option DeviceRequest :=
  if supported.autoPowerOff then
    some
      { packet := .systemGetCapability { inquiredType := .autoPowerOff }
        replySpecifier := .packet .systemRetCapability
          (ByteEnum.byte SystemInquiredType.autoPowerOff)
        resultCallback := .settingGetAutoPowerOffTimeoutsResult }
  else none

/-- `mdr_device_setting_get_auto_power_off`. -/
def settingGetAutoPowerOff (supported : SupportedFunctions) : Option DeviceRequest :=
  if supported.autoPowerOff then
    some
      { packet := .systemGetParam { inquiredType := .autoPowerOff }
        replySpecifier := .packet .systemRetParam (ByteEnum.byte SystemInquiredType.autoPowerOff)
        resultCallback := .settingGetAutoPowerOffResult }
  else none

/-- `mdr_device_setting_subscribe_auto_power_off`. -/
def settingSubscribeAutoPowerOff (supported : SupportedFunctions) : Option DeviceSubscribe :=
  if supported.autoPowerOff then
    some
      { replySpecifier := .packet .systemNtfyParam (ByteEnum.byte SystemInquiredType.autoPowerOff)
        updateCallback := .settingSubscribeAutoPowerOffUpdate }
  else none

/-- `mdr_device_setting_disable_auto_power_off`. -/
def settingDisableAutoPowerOff (supported : SupportedFunctions) : Option DeviceRequest :=
  if supported.autoPowerOff then
    some (.set (.systemSetParam (.autoPowerOff
      { parameterType := .activeAndSelectTimeId, elementId := .powerOffDisable,
        selectTimeElementId := .powerOffDisable })))
  else none

/-- `mdr_device_setting_enable_auto_power_off`. -/
def settingEnableAutoPowerOff (time : SystemAutoPowerOffElementId)
    (supported : SupportedFunctions) : Option DeviceRequest :=
  if supported.autoPowerOff then
    some (.set (.systemSetParam (.autoPowerOff
      { parameterType := .activeAndSelectTimeId, elementId := .powerOffWhenRemovedFromEars,
        selectTimeElementId := time })))
  else none

/-- `mdr_device_setting_get_available_button_presets`. -/
def settingGetAvailableButtonPresets (supported : SupportedFunctions) : Option DeviceRequest :=
  if supported.assignableSettings then
    some
      { packet := .systemGetCapability { inquiredType := .assignableSettings }
        replySpecifier := .packet .systemRetCapability
          (ByteEnum.byte SystemInquiredType.assignableSettings)
        resultCallback := .settingGetAvailableButtonPresetsResult }
  else none

/-- `mdr_device_setting_get_active_button_presets`. -/
def settingGetActiveButtonPresets (supported : SupportedFunctions) : Option DeviceRequest :=
  if supported.assignableSettings then
    some
      { packet := .systemGetParam { inquiredType := .assignableSettings }
        replySpecifier := .packet .systemRetParam
          (ByteEnum.byte SystemInquiredType.assignableSettings)
        resultCallback := .settingGetActiveButtonPresetsResult }
  else none

/-- `mdr_device_setting_subscribe_active_button_presets`. -/
def settingSubscribeActiveButtonPresets (supported : SupportedFunctions) :
    Option DeviceSubscribe :=
  if supported.assignableSettings then
    some
      { replySpecifier := .packet .systemNtfyParam
          (ByteEnum.byte SystemInquiredType.assignableSettings)
        updateCallback := .settingSubscribeActiveButtonPresetsUpdate }
  else none

/-- `mdr_device_setting_set_active_button_presets`. -/
def settingSetActiveButtonPresets (numPresets : UInt8)
    (presets : List SystemAssignableSettingsPreset) (supported : SupportedFunctions) :
    Option DeviceRequest :=
  if supported.assignableSettings then
    some (.set (.systemSetParam (.assignableSettings { numPresets, presets })))
  else none

/-! ## Playback -/

/-- `mdr_device_playback_get_volume`. -/
def playbackGetVolume (supported : SupportedFunctions) : Option DeviceRequest :=
  if supported.playbackController then
    some
      { packet := .playGetParam { inquiredType := .playbackController, detailedDataType := .volume }
        replySpecifier := .packet .playRetParam (ByteEnum.byte PlayPlaybackDetailedDataType.volume)
        resultCallback := .playbackGetVolumeResult }
  else none

/-- `mdr_device_playback_subscribe_volume`. -/
def playbackSubscribeVolume (supported : SupportedFunctions) : Option DeviceSubscribe :=
  if supported.playbackController then
    some
      { replySpecifier := .packet .playNtfyParam (ByteEnum.byte PlayPlaybackDetailedDataType.volume)
        updateCallback := .playbackSubscribeVolumeUpdate }
  else none

/-- `mdr_device_playback_set_volume`. -/
def playbackSetVolume (volume : UInt8) (supported : SupportedFunctions) : Option DeviceRequest :=
  if supported.playbackController then
    some (.set (.playSetParam { inquiredType := .playbackController, value := .volume volume }))
  else none

end Device

/-! ## All operations -/

/-- The operations that make a request, with their arguments less the callbacks. -/
inductive Operation
  | init | getModelName | getFwVersion | getSeriesAndColor | powerOff | getBatteryLevel
  | getLeftRightBatteryLevel | getCradleBatteryLevel | getLeftRightConnectionStatus
  | getNoiseCancellingEnabled | getAmbientSoundModeSettings | disableNcasm | enableNoiseCancelling
  | enableAmbientSoundMode (level : UInt8) (voice : Bool)
  | getEqCapabilities | getEqPresetAndLevels
  | setEqPreset (presetId : EqebbEqPresetId)
  | setEqLevels (numLevels : UInt8) (levels : List UInt8)
  | settingGetAutoPowerOffTimeouts | settingGetAutoPowerOff | settingDisableAutoPowerOff
  | settingEnableAutoPowerOff (time : SystemAutoPowerOffElementId)
  | settingGetAvailableButtonPresets | settingGetActiveButtonPresets
  | settingSetActiveButtonPresets (numPresets : UInt8)
      (presets : List SystemAssignableSettingsPreset)
  | playbackGetVolume
  | playbackSetVolume (volume : UInt8)
  deriving DecidableEq, Repr

/-- The request that an operation makes, `none` when its gate is closed. -/
def Operation.request : Operation → SupportedFunctions → Option DeviceRequest
  | init => Device.init
  | getModelName => Device.getModelName
  | getFwVersion => Device.getFwVersion
  | getSeriesAndColor => Device.getSeriesAndColor
  | powerOff => Device.powerOff
  | getBatteryLevel => Device.getBatteryLevel
  | getLeftRightBatteryLevel => Device.getLeftRightBatteryLevel
  | getCradleBatteryLevel => Device.getCradleBatteryLevel
  | getLeftRightConnectionStatus => Device.getLeftRightConnectionStatus
  | getNoiseCancellingEnabled => Device.getNoiseCancellingEnabled
  | getAmbientSoundModeSettings => Device.getAmbientSoundModeSettings
  | disableNcasm => Device.disableNcasm
  | enableNoiseCancelling => Device.enableNoiseCancelling
  | enableAmbientSoundMode level voice => Device.enableAmbientSoundMode level voice
  | getEqCapabilities => Device.getEqCapabilities
  | getEqPresetAndLevels => Device.getEqPresetAndLevels
  | setEqPreset presetId => Device.setEqPreset presetId
  | setEqLevels numLevels levels => Device.setEqLevels numLevels levels
  | settingGetAutoPowerOffTimeouts => Device.settingGetAutoPowerOffTimeouts
  | settingGetAutoPowerOff => Device.settingGetAutoPowerOff
  | settingDisableAutoPowerOff => Device.settingDisableAutoPowerOff
  | settingEnableAutoPowerOff time => Device.settingEnableAutoPowerOff time
  | settingGetAvailableButtonPresets => Device.settingGetAvailableButtonPresets
  | settingGetActiveButtonPresets => Device.settingGetActiveButtonPresets
  | settingSetActiveButtonPresets numPresets presets =>
    Device.settingSetActiveButtonPresets numPresets presets
  | playbackGetVolume => Device.playbackGetVolume
  | playbackSetVolume volume => Device.playbackSetVolume volume

/-- The operations that subscribe. -/
inductive SubscribeOperation
  | batteryLevel | leftRightBatteryLevel | cradleBatteryLevel | leftRightConnectionStatus
  | noiseCancellingEnabled | ambientSoundModeSettings | eqPresetAndLevels | autoPowerOff
  | activeButtonPresets | volume
  deriving DecidableEq, Repr

/-- What an operation subscribes to, `none` when its gate is closed. -/
def SubscribeOperation.subscribe :
    SubscribeOperation → SupportedFunctions → Option DeviceSubscribe
  | batteryLevel => Device.subscribeBatteryLevel
  | leftRightBatteryLevel => Device.subscribeLeftRightBatteryLevel
  | cradleBatteryLevel => Device.subscribeCradleBatteryLevel
  | leftRightConnectionStatus => Device.subscribeLeftRightConnectionStatus
  | noiseCancellingEnabled => Device.subscribeNoiseCancellingEnabled
  | ambientSoundModeSettings => Device.subscribeAmbientSoundModeSettings
  | eqPresetAndLevels => Device.subscribeEqPresetAndLevels
  | autoPowerOff => Device.settingSubscribeAutoPowerOff
  | activeButtonPresets => Device.settingSubscribeActiveButtonPresets
  | volume => Device.playbackSubscribeVolume

end Libmdr
