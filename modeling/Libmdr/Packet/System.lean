import Libmdr.Packet.Codec

/-!
# SYSTEM packets

Vibrator, power saving, control by wearing, automatic power off, smart talking
mode and assignable settings (`include/mdr/packet/system.h`, `src/packet/system.h`).
-/

namespace Libmdr
set_option autoImplicit false

/-- `mdr_packet_system_inquired_type_t`. -/
inductive SystemInquiredType
  | vibrator | powerSavingMode | controlByWearing | autoPowerOff | smartTalkingMode
  | assignableSettings
  deriving DecidableEq, Repr

instance : ByteEnum SystemInquiredType where
  byte
    | .vibrator => 0x01
    | .powerSavingMode => 0x02
    | .controlByWearing => 0x03
    | .autoPowerOff => 0x04
    | .smartTalkingMode => 0x05
    | .assignableSettings => 0x06
  values := [.vibrator, .powerSavingMode, .controlByWearing, .autoPowerOff, .smartTalkingMode,
    .assignableSettings]
  complete value := by cases value <;> decide
  nodup := by decide

/-- `mdr_packet_system_vibrator_setting_type_t`. -/
inductive SystemVibratorSettingType
  | onOff
  deriving DecidableEq, Repr

instance : ByteEnum SystemVibratorSettingType where
  byte
    | .onOff => 0x00
  values := [.onOff]
  complete value := by cases value; decide
  nodup := by decide

/-- `mdr_packet_system_vibrator_setting_value_t`. -/
inductive SystemVibratorSettingValue
  | off | on
  deriving DecidableEq, Repr

instance : ByteEnum SystemVibratorSettingValue where
  byte
    | .off => 0x00
    | .on => 0x01
  values := [.off, .on]
  complete value := by cases value <;> decide
  nodup := by decide

/-- `mdr_packet_system_power_saving_mode_setting_type_t`. -/
inductive SystemPowerSavingModeSettingType
  | onOff
  deriving DecidableEq, Repr

instance : ByteEnum SystemPowerSavingModeSettingType where
  byte
    | .onOff => 0x00
  values := [.onOff]
  complete value := by cases value; decide
  nodup := by decide

/-- `mdr_packet_system_power_saving_mode_setting_value_t`. -/
inductive SystemPowerSavingModeSettingValue
  | off | on
  deriving DecidableEq, Repr

instance : ByteEnum SystemPowerSavingModeSettingValue where
  byte
    | .off => 0x00
    | .on => 0x01
  values := [.off, .on]
  complete value := by cases value <;> decide
  nodup := by decide

/-- `mdr_packet_system_control_by_wearing_setting_type_t`. -/
inductive SystemControlByWearingSettingType
  | onOff
  deriving DecidableEq, Repr

instance : ByteEnum SystemControlByWearingSettingType where
  byte
    | .onOff => 0x00
  values := [.onOff]
  complete value := by cases value; decide
  nodup := by decide

/-- `mdr_packet_system_control_by_wearing_setting_value_t`. -/
inductive SystemControlByWearingSettingValue
  | off | on
  deriving DecidableEq, Repr

instance : ByteEnum SystemControlByWearingSettingValue where
  byte
    | .off => 0x00
    | .on => 0x01
  values := [.off, .on]
  complete value := by cases value <;> decide
  nodup := by decide

/-- `mdr_packet_system_auto_power_off_parameter_type_t`. -/
inductive SystemAutoPowerOffParameterType
  | activeAndSelectTimeId
  deriving DecidableEq, Repr

instance : ByteEnum SystemAutoPowerOffParameterType where
  byte
    | .activeAndSelectTimeId => 0x01
  values := [.activeAndSelectTimeId]
  complete value := by cases value; decide
  nodup := by decide

/-- `mdr_packet_system_auto_power_off_element_id_t`. -/
inductive SystemAutoPowerOffElementId
  | powerOffIn5Min | powerOffIn30Min | powerOffIn60Min | powerOffIn180Min
  | powerOffWhenRemovedFromEars | powerOffDisable
  deriving DecidableEq, Repr

instance : ByteEnum SystemAutoPowerOffElementId where
  byte
    | .powerOffIn5Min => 0x00
    | .powerOffIn30Min => 0x01
    | .powerOffIn60Min => 0x02
    | .powerOffIn180Min => 0x03
    | .powerOffWhenRemovedFromEars => 0x10
    | .powerOffDisable => 0x11
  values := [.powerOffIn5Min, .powerOffIn30Min, .powerOffIn60Min, .powerOffIn180Min,
    .powerOffWhenRemovedFromEars, .powerOffDisable]
  complete value := by cases value <;> decide
  nodup := by decide

/-- `mdr_packet_system_smart_talking_mode_setting_type_t`. -/
inductive SystemSmartTalkingModeSettingType
  | onOff
  deriving DecidableEq, Repr

instance : ByteEnum SystemSmartTalkingModeSettingType where
  byte
    | .onOff => 0x00
  values := [.onOff]
  complete value := by cases value; decide
  nodup := by decide

/-- `mdr_packet_system_smart_talking_mode_setting_value_t`. -/
inductive SystemSmartTalkingModeSettingValue
  | off | on
  deriving DecidableEq, Repr

instance : ByteEnum SystemSmartTalkingModeSettingValue where
  byte
    | .off => 0x00
    | .on => 0x01
  values := [.off, .on]
  complete value := by cases value <;> decide
  nodup := by decide

/-- `mdr_packet_system_smart_talking_mode_preview_type_t`. -/
inductive SystemSmartTalkingModePreviewType
  | notSupport | support
  deriving DecidableEq, Repr

instance : ByteEnum SystemSmartTalkingModePreviewType where
  byte
    | .notSupport => 0x00
    | .support => 0x01
  values := [.notSupport, .support]
  complete value := by cases value <;> decide
  nodup := by decide

/-- `mdr_packet_system_smart_talking_mode_detail_setting_type_t`. -/
inductive SystemSmartTalkingModeDetailSettingType
  | type1
  deriving DecidableEq, Repr

instance : ByteEnum SystemSmartTalkingModeDetailSettingType where
  byte
    | .type1 => 0x00
  values := [.type1]
  complete value := by cases value; decide
  nodup := by decide

/-- `mdr_packet_system_smart_talking_mode_detection_sensitivity_type_t`. -/
inductive SystemSmartTalkingModeDetectionSensitivityType
  | autoHighLow
  deriving DecidableEq, Repr

instance : ByteEnum SystemSmartTalkingModeDetectionSensitivityType where
  byte
    | .autoHighLow => 0x00
  values := [.autoHighLow]
  complete value := by cases value; decide
  nodup := by decide

/-- `mdr_packet_system_smart_talking_mode_voice_focus_type_t`. -/
inductive SystemSmartTalkingModeVoiceFocusType
  | onOff
  deriving DecidableEq, Repr

instance : ByteEnum SystemSmartTalkingModeVoiceFocusType where
  byte
    | .onOff => 0x00
  values := [.onOff]
  complete value := by cases value; decide
  nodup := by decide

/-- `mdr_packet_system_smart_talking_mode_mode_out_time_type_t`. -/
inductive SystemSmartTalkingModeModeOutTimeType
  | type1
  deriving DecidableEq, Repr

instance : ByteEnum SystemSmartTalkingModeModeOutTimeType where
  byte
    | .type1 => 0x00
  values := [.type1]
  complete value := by cases value; decide
  nodup := by decide

/-- `mdr_packet_system_assignable_settings_preset_t`. -/
inductive SystemAssignableSettingsPreset
  | ambientSoundControl | volumeControl | playbackControl | voiceRecognition | googleAssistant
  | amazonAlexa | tencentXiaowei | noFunction
  deriving DecidableEq, Repr

instance : ByteEnum SystemAssignableSettingsPreset where
  byte
    | .ambientSoundControl => 0x00
    | .volumeControl => 0x10
    | .playbackControl => 0x20
    | .voiceRecognition => 0x30
    | .googleAssistant => 0x31
    | .amazonAlexa => 0x32
    | .tencentXiaowei => 0x33
    | .noFunction => 0xff
  values := [.ambientSoundControl, .volumeControl, .playbackControl, .voiceRecognition,
    .googleAssistant, .amazonAlexa, .tencentXiaowei, .noFunction]
  complete value := by cases value <;> decide
  nodup := by decide

/-- `mdr_packet_system_assignable_settings_key_t`. -/
inductive SystemAssignableSettingsKey
  | leftSideKey | rightSideKey | customKey | cKey
  deriving DecidableEq, Repr

instance : ByteEnum SystemAssignableSettingsKey where
  byte
    | .leftSideKey => 0x00
    | .rightSideKey => 0x01
    | .customKey => 0x02
    | .cKey => 0x03
  values := [.leftSideKey, .rightSideKey, .customKey, .cKey]
  complete value := by cases value <;> decide
  nodup := by decide

/-- `mdr_packet_system_assignable_settings_key_type_t`. -/
inductive SystemAssignableSettingsKeyType
  | touchSensor | button
  deriving DecidableEq, Repr

instance : ByteEnum SystemAssignableSettingsKeyType where
  byte
    | .touchSensor => 0x00
    | .button => 0x01
  values := [.touchSensor, .button]
  complete value := by cases value <;> decide
  nodup := by decide

/-- `mdr_packet_system_assignable_settings_action_t`. -/
inductive SystemAssignableSettingsAction
  | singleTap | doubleTap | tripleTap | singleTapAndHold | doubleTapAndHold
  | longPressThenActivate | longPressDuringActivation
  deriving DecidableEq, Repr

instance : ByteEnum SystemAssignableSettingsAction where
  byte
    | .singleTap => 0x00
    | .doubleTap => 0x01
    | .tripleTap => 0x02
    | .singleTapAndHold => 0x10
    | .doubleTapAndHold => 0x11
    | .longPressThenActivate => 0x21
    | .longPressDuringActivation => 0x22
  values := [.singleTap, .doubleTap, .tripleTap, .singleTapAndHold, .doubleTapAndHold,
    .longPressThenActivate, .longPressDuringActivation]
  complete value := by cases value <;> decide
  nodup := by decide

/-- `mdr_packet_system_assignable_settings_function_t`. -/
inductive SystemAssignableSettingsFunction
  | noFunction | ncAsmOff | ncOptimizer | quickAttention | volumeUp | volumeDown | playPause
  | nextTrack | previousTrack | voiceRecognition | getYourNotification | talkToGa | stopGa
  | voiceInputCancelAa | talkToTencentXiaowei | cancelVoiceRecognition
  deriving DecidableEq, Repr

instance : ByteEnum SystemAssignableSettingsFunction where
  byte
    | .noFunction => 0x00
    | .ncAsmOff => 0x01
    | .ncOptimizer => 0x02
    | .quickAttention => 0x10
    | .volumeUp => 0x11
    | .volumeDown => 0x12
    | .playPause => 0x20
    | .nextTrack => 0x21
    | .previousTrack => 0x22
    | .voiceRecognition => 0x30
    | .getYourNotification => 0x31
    | .talkToGa => 0x32
    | .stopGa => 0x33
    | .voiceInputCancelAa => 0x34
    | .talkToTencentXiaowei => 0x35
    | .cancelVoiceRecognition => 0x36
  values := [.noFunction, .ncAsmOff, .ncOptimizer, .quickAttention, .volumeUp, .volumeDown,
    .playPause, .nextTrack, .previousTrack, .voiceRecognition, .getYourNotification, .talkToGa,
    .stopGa, .voiceInputCancelAa, .talkToTencentXiaowei, .cancelVoiceRecognition]
  complete value := by cases value <;> decide
  nodup := by decide

/-! ## Capabilities -/

/-- `mdr_packet_system_capability_vibrator_t`. -/
structure SystemCapabilityVibrator where
  settingType : SystemVibratorSettingType
  deriving DecidableEq, Repr

/-- `mdr_packet_system_capability_power_saving_mode_t`. -/
structure SystemCapabilityPowerSavingMode where
  settingType : SystemPowerSavingModeSettingType
  deriving DecidableEq, Repr

/-- `mdr_packet_system_capability_control_by_wearing_t`. -/
structure SystemCapabilityControlByWearing where
  settingType : SystemControlByWearingSettingType
  deriving DecidableEq, Repr

/-- `mdr_packet_system_capability_auto_power_off_t`. -/
structure SystemCapabilityAutoPowerOff where
  elementIdCount : UInt8
  elementIds : List SystemAutoPowerOffElementId
  deriving DecidableEq, Repr

/-- `mdr_packet_system_capability_smart_talking_mode_t`. -/
structure SystemCapabilitySmartTalkingMode where
  settingType : SystemSmartTalkingModeSettingType
  previewType : SystemSmartTalkingModePreviewType
  detailSetting : SystemSmartTalkingModeDetailSettingType
  detectionSensitivityType : SystemSmartTalkingModeDetectionSensitivityType
  voiceFocusType : SystemSmartTalkingModeVoiceFocusType
  modeOutTimeType : SystemSmartTalkingModeModeOutTimeType
  timeouts : Vector UInt8 4
  deriving DecidableEq, Repr

/-- `mdr_packet_system_assignable_settings_capability_action_t`. -/
structure SystemAssignableSettingsCapabilityAction where
  action : SystemAssignableSettingsAction
  function : SystemAssignableSettingsFunction
  deriving DecidableEq, Repr

/-- `mdr_packet_system_assignable_settings_capability_preset_t`. -/
structure SystemAssignableSettingsCapabilityPreset where
  preset : SystemAssignableSettingsPreset
  numCapabilityActions : UInt8
  capabilityActions : List SystemAssignableSettingsCapabilityAction
  deriving DecidableEq, Repr

/-- `mdr_packet_system_assignable_settings_capability_key_t`. -/
structure SystemAssignableSettingsCapabilityKey where
  key : SystemAssignableSettingsKey
  keyType : SystemAssignableSettingsKeyType
  defaultPreset : SystemAssignableSettingsPreset
  numCapabilityPresets : UInt8
  capabilityPresets : List SystemAssignableSettingsCapabilityPreset
  deriving DecidableEq, Repr

/-- `mdr_packet_system_capability_assignable_settings_t`. -/
structure SystemCapabilityAssignableSettings where
  numCapabilityKeys : UInt8
  capabilityKeys : List SystemAssignableSettingsCapabilityKey
  deriving DecidableEq, Repr

/-- `mdr_packet_system_get_capability_t`. -/
structure SystemGetCapability where
  inquiredType : SystemInquiredType
  deriving DecidableEq, Repr

/-- `mdr_packet_system_ret_capability_t`: the inquired type selects the member of
the union. -/
inductive SystemRetCapability
  | vibrator (capability : SystemCapabilityVibrator)
  | powerSavingMode (capability : SystemCapabilityPowerSavingMode)
  | controlByWearing (capability : SystemCapabilityControlByWearing)
  | autoPowerOff (capability : SystemCapabilityAutoPowerOff)
  | smartTalkingMode (capability : SystemCapabilitySmartTalkingMode)
  | assignableSettings (capability : SystemCapabilityAssignableSettings)
  deriving DecidableEq, Repr

def SystemRetCapability.inquiredType : SystemRetCapability → SystemInquiredType
  | .vibrator _ => .vibrator
  | .powerSavingMode _ => .powerSavingMode
  | .controlByWearing _ => .controlByWearing
  | .autoPowerOff _ => .autoPowerOff
  | .smartTalkingMode _ => .smartTalkingMode
  | .assignableSettings _ => .assignableSettings

/-! ## Parameters -/

/-- `mdr_packet_system_param_vibrator_t`. -/
structure SystemParamVibrator where
  settingType : SystemVibratorSettingType
  settingValue : SystemVibratorSettingValue
  deriving DecidableEq, Repr

/-- `mdr_packet_system_param_power_saving_mode_t`. -/
structure SystemParamPowerSavingMode where
  settingType : SystemPowerSavingModeSettingType
  settingValue : SystemPowerSavingModeSettingValue
  deriving DecidableEq, Repr

/-- `mdr_packet_system_param_control_by_wearing_t`. -/
structure SystemParamControlByWearing where
  settingType : SystemControlByWearingSettingType
  settingValue : SystemControlByWearingSettingValue
  deriving DecidableEq, Repr

/-- `mdr_packet_system_param_smart_talking_mode_t`. -/
structure SystemParamSmartTalkingMode where
  settingType : SystemSmartTalkingModeSettingType
  settingValue : SystemSmartTalkingModeSettingValue
  deriving DecidableEq, Repr

/-- `mdr_packet_system_param_auto_power_off_t`. -/
structure SystemParamAutoPowerOff where
  parameterType : SystemAutoPowerOffParameterType
  elementId : SystemAutoPowerOffElementId
  selectTimeElementId : SystemAutoPowerOffElementId
  deriving DecidableEq, Repr

/-- `mdr_packet_system_param_assignable_settings_t`. -/
structure SystemParamAssignableSettings where
  numPresets : UInt8
  presets : List SystemAssignableSettingsPreset
  deriving DecidableEq, Repr

/-- `mdr_packet_system_get_param_t`. -/
structure SystemGetParam where
  inquiredType : SystemInquiredType
  deriving DecidableEq, Repr

/-- `mdr_packet_system_ret_param_t`, also for SET and NTFY. -/
inductive SystemRetParam
  | vibrator (param : SystemParamVibrator)
  | powerSavingMode (param : SystemParamPowerSavingMode)
  | controlByWearing (param : SystemParamControlByWearing)
  | autoPowerOff (param : SystemParamAutoPowerOff)
  | smartTalkingMode (param : SystemParamSmartTalkingMode)
  | assignableSettings (param : SystemParamAssignableSettings)
  deriving DecidableEq, Repr

def SystemRetParam.inquiredType : SystemRetParam → SystemInquiredType
  | .vibrator _ => .vibrator
  | .powerSavingMode _ => .powerSavingMode
  | .controlByWearing _ => .controlByWearing
  | .autoPowerOff _ => .autoPowerOff
  | .smartTalkingMode _ => .smartTalkingMode
  | .assignableSettings _ => .assignableSettings

/-! ## Parsing -/

def parseSystemGetCapability : Parse SystemGetCapability := do
  let inquiredType ← Parse.enum
  return { inquiredType }

def parseSystemCapabilityAutoPowerOff : Parse SystemCapabilityAutoPowerOff := do
  let elementIdCount ← Parse.byte
  let elementIds ← Parse.forEach elementIdCount Parse.enum
  return { elementIdCount, elementIds }

def parseSystemCapabilitySmartTalkingMode : Parse SystemCapabilitySmartTalkingMode := do
  let settingType ← Parse.enum
  let previewType ← Parse.enum
  let detailSetting ← Parse.enum
  let detectionSensitivityType ← Parse.enum
  let voiceFocusType ← Parse.enum
  let modeOutTimeType ← Parse.enum
  let timeout0 ← Parse.byte
  let timeout1 ← Parse.byte
  let timeout2 ← Parse.byte
  let timeout3 ← Parse.byte
  return { settingType, previewType, detailSetting, detectionSensitivityType, voiceFocusType,
           modeOutTimeType, timeouts := #v[timeout0, timeout1, timeout2, timeout3] }

def parseSystemAssignableSettingsCapabilityAction :
    Parse SystemAssignableSettingsCapabilityAction := do
  let action ← Parse.enum
  let function ← Parse.enum
  return { action, function }

def parseSystemAssignableSettingsCapabilityPreset :
    Parse SystemAssignableSettingsCapabilityPreset := do
  let preset ← Parse.enum
  let numCapabilityActions ← Parse.byte
  let capabilityActions ←
    Parse.forEach numCapabilityActions parseSystemAssignableSettingsCapabilityAction
  return { preset, numCapabilityActions, capabilityActions }

def parseSystemAssignableSettingsCapabilityKey :
    Parse SystemAssignableSettingsCapabilityKey := do
  let key ← Parse.enum
  let keyType ← Parse.enum
  let defaultPreset ← Parse.enum
  let numCapabilityPresets ← Parse.byte
  let capabilityPresets ←
    Parse.forEach numCapabilityPresets parseSystemAssignableSettingsCapabilityPreset
  return { key, keyType, defaultPreset, numCapabilityPresets, capabilityPresets }

def parseSystemCapabilityAssignableSettings : Parse SystemCapabilityAssignableSettings := do
  let numCapabilityKeys ← Parse.byte
  let capabilityKeys ←
    Parse.forEach numCapabilityKeys parseSystemAssignableSettingsCapabilityKey
  return { numCapabilityKeys, capabilityKeys }

/-- The RET_CAPABILITY branch of `mdr_packet_system_from_frame`. -/
def parseSystemRetCapability : Parse SystemRetCapability := do
  match ← (Parse.enum : Parse SystemInquiredType) with
  | .vibrator => return .vibrator { settingType := ← Parse.enum }
  | .powerSavingMode => return .powerSavingMode { settingType := ← Parse.enum }
  | .controlByWearing => return .controlByWearing { settingType := ← Parse.enum }
  | .autoPowerOff => return .autoPowerOff (← parseSystemCapabilityAutoPowerOff)
  | .smartTalkingMode => return .smartTalkingMode (← parseSystemCapabilitySmartTalkingMode)
  | .assignableSettings => return .assignableSettings (← parseSystemCapabilityAssignableSettings)

def parseSystemGetParam : Parse SystemGetParam := do
  let inquiredType ← Parse.enum
  return { inquiredType }

def parseSystemParamVibrator : Parse SystemParamVibrator := do
  let settingType ← Parse.enum
  let settingValue ← Parse.enum
  return { settingType, settingValue }

def parseSystemParamPowerSavingMode : Parse SystemParamPowerSavingMode := do
  let settingType ← Parse.enum
  let settingValue ← Parse.enum
  return { settingType, settingValue }

def parseSystemParamControlByWearing : Parse SystemParamControlByWearing := do
  let settingType ← Parse.enum
  let settingValue ← Parse.enum
  return { settingType, settingValue }

def parseSystemParamSmartTalkingMode : Parse SystemParamSmartTalkingMode := do
  let settingType ← Parse.enum
  let settingValue ← Parse.enum
  return { settingType, settingValue }

def parseSystemParamAutoPowerOff : Parse SystemParamAutoPowerOff := do
  let parameterType ← Parse.enum
  let elementId ← Parse.enum
  let selectTimeElementId ← Parse.enum
  return { parameterType, elementId, selectTimeElementId }

def parseSystemParamAssignableSettings : Parse SystemParamAssignableSettings := do
  let numPresets ← Parse.byte
  let presets ← Parse.forEach numPresets Parse.enum
  return { numPresets, presets }

/-- The RET, SET and NTFY_PARAM branch of `mdr_packet_system_from_frame`. -/
def parseSystemRetParam : Parse SystemRetParam := do
  match ← (Parse.enum : Parse SystemInquiredType) with
  | .vibrator => return .vibrator (← parseSystemParamVibrator)
  | .powerSavingMode => return .powerSavingMode (← parseSystemParamPowerSavingMode)
  | .controlByWearing => return .controlByWearing (← parseSystemParamControlByWearing)
  | .autoPowerOff => return .autoPowerOff (← parseSystemParamAutoPowerOff)
  | .smartTalkingMode => return .smartTalkingMode (← parseSystemParamSmartTalkingMode)
  | .assignableSettings => return .assignableSettings (← parseSystemParamAssignableSettings)

/-! ## Writing -/

def writeSystemGetCapability (packet : SystemGetCapability) : Option (List Layout) :=
  some [⟨1, [ByteEnum.byte packet.inquiredType]⟩]

def writeSystemAssignableSettingsCapabilityAction
    (action : SystemAssignableSettingsCapabilityAction) : List UInt8 :=
  [ByteEnum.byte action.action, ByteEnum.byte action.function]

def writeSystemAssignableSettingsCapabilityPreset
    (preset : SystemAssignableSettingsCapabilityPreset) : Option (List UInt8) := do
  let actions ← counted preset.numCapabilityActions preset.capabilityActions
  return [ByteEnum.byte preset.preset, preset.numCapabilityActions] ++
    actions.flatMap writeSystemAssignableSettingsCapabilityAction

def writeSystemAssignableSettingsCapabilityKey (key : SystemAssignableSettingsCapabilityKey) :
    Option (List UInt8) := do
  let presets ← counted key.numCapabilityPresets key.capabilityPresets
  let written ← presets.mapM writeSystemAssignableSettingsCapabilityPreset
  return [ByteEnum.byte key.key, ByteEnum.byte key.keyType, ByteEnum.byte key.defaultPreset,
    key.numCapabilityPresets] ++ written.flatten

/-- What one key adds to `length`. -/
def systemAssignableSettingsKeyLength (key : SystemAssignableSettingsCapabilityKey) :
    Option Nat := do
  let presets ← counted key.numCapabilityPresets key.capabilityPresets
  return 4 + (presets.map fun preset => 2 + preset.numCapabilityActions.toNat * 2).sum

/-- The ASSIGNABLE_SETTINGS case: `length` is added up over the keys first. -/
def writeSystemCapabilityAssignableSettings (inquiredType : UInt8)
    (capability : SystemCapabilityAssignableSettings) : Option Layout := do
  let keys ← counted capability.numCapabilityKeys capability.capabilityKeys
  let lengths ← keys.mapM systemAssignableSettingsKeyLength
  let written ← keys.mapM writeSystemAssignableSettingsCapabilityKey
  return ⟨2 + lengths.sum, [inquiredType, capability.numCapabilityKeys] ++ written.flatten⟩

/-- The RET_CAPABILITY branch of `mdr_packet_system_to_frame`. The case of the
smart talking mode has no `break`: a second frame is made as for assignable
settings, from the same bytes of the union. The number of keys lies on the first
byte of the setting type, which is 0. -/
def writeSystemRetCapability (packet : SystemRetCapability) : Option (List Layout) :=
  let inquiredType := ByteEnum.byte packet.inquiredType
  match packet with
  | .vibrator capability => some [⟨2, [inquiredType, ByteEnum.byte capability.settingType]⟩]
  | .powerSavingMode capability =>
    some [⟨2, [inquiredType, ByteEnum.byte capability.settingType]⟩]
  | .controlByWearing capability =>
    some [⟨2, [inquiredType, ByteEnum.byte capability.settingType]⟩]
  | .autoPowerOff capability => do
    let elementIds ← counted capability.elementIdCount capability.elementIds
    return [⟨2 + capability.elementIdCount.toNat,
      [inquiredType, capability.elementIdCount] ++ elementIds.map ByteEnum.byte⟩]
  | .smartTalkingMode capability => do
    let again ← writeSystemCapabilityAssignableSettings inquiredType
      { numCapabilityKeys := ByteEnum.byte capability.settingType, capabilityKeys := [] }
    return [⟨11, [inquiredType, ByteEnum.byte capability.settingType,
      ByteEnum.byte capability.previewType, ByteEnum.byte capability.detailSetting,
      ByteEnum.byte capability.detectionSensitivityType, ByteEnum.byte capability.voiceFocusType,
      ByteEnum.byte capability.modeOutTimeType] ++ capability.timeouts.toList⟩, again]
  | .assignableSettings capability => do
    let layout ← writeSystemCapabilityAssignableSettings inquiredType capability
    return [layout]

def writeSystemGetParam (packet : SystemGetParam) : Option (List Layout) :=
  some [⟨1, [ByteEnum.byte packet.inquiredType]⟩]

/-- The RET, SET and NTFY_PARAM branch of `mdr_packet_system_to_frame`. -/
def writeSystemRetParam (packet : SystemRetParam) : Option (List Layout) :=
  let inquiredType := ByteEnum.byte packet.inquiredType
  match packet with
  | .vibrator param =>
    some [⟨3, [inquiredType, ByteEnum.byte param.settingType, ByteEnum.byte param.settingValue]⟩]
  | .powerSavingMode param =>
    some [⟨3, [inquiredType, ByteEnum.byte param.settingType, ByteEnum.byte param.settingValue]⟩]
  | .controlByWearing param =>
    some [⟨3, [inquiredType, ByteEnum.byte param.settingType, ByteEnum.byte param.settingValue]⟩]
  | .autoPowerOff param =>
    some [⟨4, [inquiredType, ByteEnum.byte param.parameterType, ByteEnum.byte param.elementId,
      ByteEnum.byte param.selectTimeElementId]⟩]
  | .smartTalkingMode param =>
    some [⟨3, [inquiredType, ByteEnum.byte param.settingType, ByteEnum.byte param.settingValue]⟩]
  | .assignableSettings param => do
    let presets ← counted param.numPresets param.presets
    return [⟨2 + param.numPresets.toNat,
      [inquiredType, param.numPresets] ++ presets.map ByteEnum.byte⟩]

end Libmdr
