import Libmdr.PacketConn.State
import Libmdr.Packet.Union

/-!
# What the device's callbacks read

The callbacks that `src/device.c` gives to the packet connection. Each reads a member of the
packet and passes parts of it to the callback of the user. For a callback `none` is a read of
a union member that is not selected, and `some none` that the user's callback is not called.

The arrays that a callback walks over have the lengths that the packet says
(`fromFrame_wellFormed_iff`).
-/

namespace Libmdr
set_option autoImplicit false

/-- The arguments of a user's callback, less the user data. -/
inductive CallbackArgs
  | nothing
  | string (length : UInt8) (string : List UInt8)
  | seriesAndColor (series : DeviceInfoModelSeries) (color : DeviceInfoModelColor)
  | battery (level charging : UInt8)
  | leftRightBattery (leftLevel leftCharging rightLevel rightCharging : UInt8)
  | leftRightConnected (left right : Bool)
  | enabled (enabled : Bool)
  | ambientSoundMode (level : UInt8) (voice : Bool)
  | eqCapabilities (bandCount levelSteps numPresets : UInt8) (presets : List EqebbEqPresetId)
  | eqPresetAndLevels (presetId : EqebbEqPresetId) (numLevels : UInt8) (levels : List UInt8)
  | timeouts (timeoutCount : UInt8) (timeouts : List SystemAutoPowerOffElementId)
  | autoPowerOff (enabled : Bool) (time : SystemAutoPowerOffElementId)
  | buttonKeys (numKeys : UInt8) (keys : List SystemAssignableSettingsCapabilityKey)
  | buttonPresets (numPresets : UInt8) (presets : List SystemAssignableSettingsPreset)
  | volume (volume : UInt8)
  deriving DecidableEq, Repr

namespace Device

/-! ## Members that a result and an update callback read alike -/

def stringArgs (string : DeviceInfoString) : CallbackArgs := .string string.len string.string

def batteryArgs (status : BatteryStatus) : CallbackArgs := .battery status.level status.charging

def leftRightBatteryArgs (status : BatteryStatusLeftRight) : CallbackArgs :=
  .leftRightBattery status.left.level status.left.charging status.right.level
    status.right.charging

def connectionArgs (status : ConnectionStatusLeftRightStatus) : CallbackArgs :=
  .leftRightConnected (status.leftStatus = .connected) (status.rightStatus = .connected)

/-- Whether noise cancelling is enabled, by the inquired type. -/
def noiseCancellingArgs (data : NcasmRetParam) : Option (Option CallbackArgs) :=
  if data.inquiredType = .noiseCancelling then do
    return some (.enabled ((← data.noiseCancelling?).ncSettingValue = .on))
  else if data.inquiredType = .noiseCancellingAndAsm then do
    return some (.enabled ((← data.noiseCancellingAsm?).ncasmEffect = .on))
  else some none

/-- The ambient sound mode, by the inquired type. -/
def ambientSoundModeArgs (data : NcasmRetParam) : Option (Option CallbackArgs) :=
  if data.inquiredType = .asm then do
    let param ← data.ambientSoundMode?
    return some (.ambientSoundMode param.asmAmount (param.asmId = .voice))
  else if data.inquiredType = .noiseCancellingAndAsm then do
    let param ← data.noiseCancellingAsm?
    let amount := if param.ncasmEffect = .on then param.asmAmount else 0
    return some (.ambientSoundMode amount (param.asmId = .voice))
  else some none

def eqPresetAndLevelsArgs (eq : EqebbParamEq) : CallbackArgs :=
  .eqPresetAndLevels eq.presetId eq.numLevels eq.levels

def autoPowerOffArgs (param : SystemParamAutoPowerOff) : CallbackArgs :=
  .autoPowerOff (param.elementId ≠ .powerOffDisable) param.selectTimeElementId

def buttonPresetsArgs (param : SystemParamAssignableSettings) : CallbackArgs :=
  .buttonPresets param.numPresets param.presets

/-! ## Result callbacks -/

/-- `mdr_device_init_result_supported_function`; the flags that it sets are those of
`SupportedFunctions.add`. -/
def initResultSupportedFunction (packet : Packet) : Option (Option CallbackArgs) := do
  let _ ← packet.connectRetSupportFunction?
  return some .nothing

def getModelNameResult (packet : Packet) : Option (Option CallbackArgs) := do
  return some (stringArgs (← (← packet.connectRetDeviceInfo?).modelName?))

def getFwVersionResult (packet : Packet) : Option (Option CallbackArgs) := do
  return some (stringArgs (← (← packet.connectRetDeviceInfo?).fwVersion?))

def getSeriesAndColorResult (packet : Packet) : Option (Option CallbackArgs) := do
  let info ← (← packet.connectRetDeviceInfo?).seriesAndColor?
  return some (.seriesAndColor info.series info.color)

def getBatteryLevelResult (packet : Packet) : Option (Option CallbackArgs) := do
  return some (batteryArgs (← (← packet.commonRetBatteryLevel?).battery?))

def getLeftRightBatteryLevelResult (packet : Packet) : Option (Option CallbackArgs) := do
  return some (leftRightBatteryArgs (← (← packet.commonRetBatteryLevel?).leftRightBattery?))

def getCradleBatteryLevelResult (packet : Packet) : Option (Option CallbackArgs) := do
  return some (batteryArgs (← (← packet.commonRetBatteryLevel?).cradleBattery?))

def getLeftRightConnectionStatusResult (packet : Packet) : Option (Option CallbackArgs) := do
  return some (connectionArgs (← (← packet.commonRetConnectionStatus?).leftRight?))

def getNoiseCancellingEnabledResult (packet : Packet) : Option (Option CallbackArgs) := do
  noiseCancellingArgs (← packet.ncasmRetParam?)

def getAmbientSoundModeSettingsResult (packet : Packet) : Option (Option CallbackArgs) := do
  ambientSoundModeArgs (← packet.ncasmRetParam?)

def getEqCapabilitiesResult (packet : Packet) : Option (Option CallbackArgs) := do
  let eq ← (← packet.eqebbRetCapability?).eq?
  let presets := (eq.presets.take eq.numPresets.toNat).map EqebbCapabilityEqPresetName.presetId
  return some (.eqCapabilities eq.bandCount eq.levelSteps eq.numPresets presets)

def getEqPresetAndLevelsResult (packet : Packet) : Option (Option CallbackArgs) := do
  return some (eqPresetAndLevelsArgs (← (← packet.eqebbRetParam?).eq?))

def settingGetAutoPowerOffTimeoutsResult (packet : Packet) : Option (Option CallbackArgs) := do
  let capability ← (← packet.systemRetCapability?).autoPowerOff?
  return some (.timeouts capability.elementIdCount capability.elementIds)

def settingGetAutoPowerOffResult (packet : Packet) : Option (Option CallbackArgs) := do
  return some (autoPowerOffArgs (← (← packet.systemRetParam?).autoPowerOff?))

def settingGetAvailableButtonPresetsResult (packet : Packet) : Option (Option CallbackArgs) := do
  let capability ← (← packet.systemRetCapability?).assignableSettings?
  return some (.buttonKeys capability.numCapabilityKeys capability.capabilityKeys)

def settingGetActiveButtonPresetsResult (packet : Packet) : Option (Option CallbackArgs) := do
  return some (buttonPresetsArgs (← (← packet.systemRetParam?).assignableSettings?))

def playbackGetVolumeResult (packet : Packet) : Option (Option CallbackArgs) := do
  return some (.volume (← (← packet.playRetParam?).volume?))

/-! ## Update callbacks -/

def subscribeBatteryLevelUpdate (packet : Packet) : Option (Option CallbackArgs) := do
  return some (batteryArgs (← (← packet.commonNtfyBatteryLevel?).battery?))

def subscribeLeftRightBatteryLevelUpdate (packet : Packet) : Option (Option CallbackArgs) := do
  return some (leftRightBatteryArgs (← (← packet.commonNtfyBatteryLevel?).leftRightBattery?))

def subscribeCradleBatteryLevelUpdate (packet : Packet) : Option (Option CallbackArgs) := do
  return some (batteryArgs (← (← packet.commonNtfyBatteryLevel?).cradleBattery?))

def subscribeLeftRightConnectionStatusUpdate (packet : Packet) :
    Option (Option CallbackArgs) := do
  return some (connectionArgs (← (← packet.commonNtfyConnectionStatus?).leftRight?))

def subscribeNoiseCancellingEnabledUpdate (packet : Packet) : Option (Option CallbackArgs) := do
  noiseCancellingArgs (← packet.ncasmNtfyParam?)

def subscribeAmbientSoundModeSettingsUpdate (packet : Packet) : Option (Option CallbackArgs) := do
  ambientSoundModeArgs (← packet.ncasmNtfyParam?)

def subscribeEqPresetAndLevelsUpdate (packet : Packet) : Option (Option CallbackArgs) := do
  return some (eqPresetAndLevelsArgs (← (← packet.eqebbNtfyParam?).eq?))

def settingSubscribeAutoPowerOffUpdate (packet : Packet) : Option (Option CallbackArgs) := do
  return some (autoPowerOffArgs (← (← packet.systemNtfyParam?).autoPowerOff?))

def settingSubscribeActiveButtonPresetsUpdate (packet : Packet) :
    Option (Option CallbackArgs) := do
  return some (buttonPresetsArgs (← (← packet.systemNtfyParam?).assignableSettings?))

def playbackSubscribeVolumeUpdate (packet : Packet) : Option (Option CallbackArgs) := do
  return some (.volume (← (← packet.playNtfyParam?).volume?))

end Device

/-! ## Function pointers -/

/-- The functions of `device.c` that are passed as `device_result_callback` of a request. -/
inductive ResultCallback
  | successCallbackPassthrough | initResultProtocolInfo | initResultSupportedFunction
  | getModelNameResult | getFwVersionResult | getSeriesAndColorResult | getBatteryLevelResult
  | getLeftRightBatteryLevelResult | getCradleBatteryLevelResult
  | getLeftRightConnectionStatusResult | getNoiseCancellingEnabledResult
  | getAmbientSoundModeSettingsResult | getEqCapabilitiesResult | getEqPresetAndLevelsResult
  | settingGetAutoPowerOffTimeoutsResult | settingGetAutoPowerOffResult
  | settingGetAvailableButtonPresetsResult | settingGetActiveButtonPresetsResult
  | playbackGetVolumeResult
  deriving DecidableEq, Repr

namespace ResultCallback

/-- What the function reads of a packet and passes on. The first two read nothing;
`mdr_device_init_result_protocol_info` makes a second request instead of a call. -/
def read : ResultCallback → Packet → Option (Option CallbackArgs)
  | successCallbackPassthrough => fun _ => some (some .nothing)
  | initResultProtocolInfo => fun _ => some none
  | initResultSupportedFunction => Device.initResultSupportedFunction
  | getModelNameResult => Device.getModelNameResult
  | getFwVersionResult => Device.getFwVersionResult
  | getSeriesAndColorResult => Device.getSeriesAndColorResult
  | getBatteryLevelResult => Device.getBatteryLevelResult
  | getLeftRightBatteryLevelResult => Device.getLeftRightBatteryLevelResult
  | getCradleBatteryLevelResult => Device.getCradleBatteryLevelResult
  | getLeftRightConnectionStatusResult => Device.getLeftRightConnectionStatusResult
  | getNoiseCancellingEnabledResult => Device.getNoiseCancellingEnabledResult
  | getAmbientSoundModeSettingsResult => Device.getAmbientSoundModeSettingsResult
  | getEqCapabilitiesResult => Device.getEqCapabilitiesResult
  | getEqPresetAndLevelsResult => Device.getEqPresetAndLevelsResult
  | settingGetAutoPowerOffTimeoutsResult => Device.settingGetAutoPowerOffTimeoutsResult
  | settingGetAutoPowerOffResult => Device.settingGetAutoPowerOffResult
  | settingGetAvailableButtonPresetsResult => Device.settingGetAvailableButtonPresetsResult
  | settingGetActiveButtonPresetsResult => Device.settingGetActiveButtonPresetsResult
  | playbackGetVolumeResult => Device.playbackGetVolumeResult

def values : List ResultCallback :=
  [successCallbackPassthrough, initResultProtocolInfo, initResultSupportedFunction,
    getModelNameResult, getFwVersionResult, getSeriesAndColorResult, getBatteryLevelResult,
    getLeftRightBatteryLevelResult, getCradleBatteryLevelResult,
    getLeftRightConnectionStatusResult, getNoiseCancellingEnabledResult,
    getAmbientSoundModeSettingsResult, getEqCapabilitiesResult, getEqPresetAndLevelsResult,
    settingGetAutoPowerOffTimeoutsResult, settingGetAutoPowerOffResult,
    settingGetAvailableButtonPresetsResult, settingGetActiveButtonPresetsResult,
    playbackGetVolumeResult]

/-- The function's address, and the function at an address. -/
def fnPtr (callback : ResultCallback) : FnPtr := values.idxOf callback

def ofFnPtr (fn : FnPtr) : Option ResultCallback := values[fn]?

/-- A callback can be told from its address. -/
theorem ofFnPtr_fnPtr (callback : ResultCallback) : ofFnPtr callback.fnPtr = some callback := by
  cases callback <;> rfl

end ResultCallback

/-- The functions that are passed as `device_result_callback` of a subscription. -/
inductive UpdateCallback
  | subscribeBatteryLevelUpdate | subscribeLeftRightBatteryLevelUpdate
  | subscribeCradleBatteryLevelUpdate | subscribeLeftRightConnectionStatusUpdate
  | subscribeNoiseCancellingEnabledUpdate | subscribeAmbientSoundModeSettingsUpdate
  | subscribeEqPresetAndLevelsUpdate | settingSubscribeAutoPowerOffUpdate
  | settingSubscribeActiveButtonPresetsUpdate | playbackSubscribeVolumeUpdate
  deriving DecidableEq, Repr

namespace UpdateCallback

def read : UpdateCallback → Packet → Option (Option CallbackArgs)
  | subscribeBatteryLevelUpdate => Device.subscribeBatteryLevelUpdate
  | subscribeLeftRightBatteryLevelUpdate => Device.subscribeLeftRightBatteryLevelUpdate
  | subscribeCradleBatteryLevelUpdate => Device.subscribeCradleBatteryLevelUpdate
  | subscribeLeftRightConnectionStatusUpdate => Device.subscribeLeftRightConnectionStatusUpdate
  | subscribeNoiseCancellingEnabledUpdate => Device.subscribeNoiseCancellingEnabledUpdate
  | subscribeAmbientSoundModeSettingsUpdate => Device.subscribeAmbientSoundModeSettingsUpdate
  | subscribeEqPresetAndLevelsUpdate => Device.subscribeEqPresetAndLevelsUpdate
  | settingSubscribeAutoPowerOffUpdate => Device.settingSubscribeAutoPowerOffUpdate
  | settingSubscribeActiveButtonPresetsUpdate => Device.settingSubscribeActiveButtonPresetsUpdate
  | playbackSubscribeVolumeUpdate => Device.playbackSubscribeVolumeUpdate

def values : List UpdateCallback :=
  [subscribeBatteryLevelUpdate, subscribeLeftRightBatteryLevelUpdate,
    subscribeCradleBatteryLevelUpdate, subscribeLeftRightConnectionStatusUpdate,
    subscribeNoiseCancellingEnabledUpdate, subscribeAmbientSoundModeSettingsUpdate,
    subscribeEqPresetAndLevelsUpdate, settingSubscribeAutoPowerOffUpdate,
    settingSubscribeActiveButtonPresetsUpdate, playbackSubscribeVolumeUpdate]

def fnPtr (callback : UpdateCallback) : FnPtr := values.idxOf callback

def ofFnPtr (fn : FnPtr) : Option UpdateCallback := values[fn]?

/-- A callback can be told from its address. -/
theorem ofFnPtr_fnPtr (callback : UpdateCallback) : ofFnPtr callback.fnPtr = some callback := by
  cases callback <;> rfl

end UpdateCallback

/-- The address of `error_callback_passthrough`. -/
def errorCallbackPassthroughPtr : FnPtr := ResultCallback.values.length

end Libmdr
