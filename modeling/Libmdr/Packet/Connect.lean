import Libmdr.Packet.Codec

/-!
# CONNECT packets

Protocol info, device info and the supported functions
(`include/mdr/packet/connect_*.h`, `src/packet/connect.h`).
-/

namespace Libmdr
set_option autoImplicit false

/-- `mdr_packet_device_info_inquired_type_t`. -/
inductive DeviceInfoInquiredType
  | modelName | fwVersion | seriesAndColor | instructionGuide
  deriving DecidableEq, Repr

instance : ByteEnum DeviceInfoInquiredType where
  byte
    | .modelName => 0x01
    | .fwVersion => 0x02
    | .seriesAndColor => 0x03
    | .instructionGuide => 0x04
  values := [.modelName, .fwVersion, .seriesAndColor, .instructionGuide]
  complete value := by cases value <;> decide
  nodup := by decide

/-- `mdr_packet_device_info_model_series_t`. -/
inductive DeviceInfoModelSeries
  | noSeries | extraBass | hear | premium | sports | casual
  deriving DecidableEq, Repr

instance : ByteEnum DeviceInfoModelSeries where
  byte
    | .noSeries => 0x00
    | .extraBass => 0x10
    | .hear => 0x20
    | .premium => 0x30
    | .sports => 0x40
    | .casual => 0x50
  values := [.noSeries, .extraBass, .hear, .premium, .sports, .casual]
  complete value := by cases value <;> decide
  nodup := by decide

/-- `mdr_packet_device_info_model_color_t`. -/
inductive DeviceInfoModelColor
  | default | black | white | silver | red | blue | pink | yellow | green | gray | gold | cream
  | orange | brown | violet
  deriving DecidableEq, Repr

instance : ByteEnum DeviceInfoModelColor where
  byte
    | .default => 0x00
    | .black => 0x01
    | .white => 0x02
    | .silver => 0x03
    | .red => 0x04
    | .blue => 0x05
    | .pink => 0x06
    | .yellow => 0x07
    | .green => 0x08
    | .gray => 0x09
    | .gold => 0x0a
    | .cream => 0x0b
    | .orange => 0x0c
    | .brown => 0x0d
    | .violet => 0x0e
  values := [.default, .black, .white, .silver, .red, .blue, .pink, .yellow, .green, .gray, .gold,
    .cream, .orange, .brown, .violet]
  complete value := by cases value <;> decide
  nodup := by decide

/-- `mdr_packet_device_info_guidance_category_t`. -/
inductive DeviceInfoGuidanceCategory
  | changeEarpiece | wearEarphone | playButtonOperation | touchPadOperation | mainBodyOperation
  | quickAttention | assignableButtonSettings
  deriving DecidableEq, Repr

instance : ByteEnum DeviceInfoGuidanceCategory where
  byte
    | .changeEarpiece => 0x00
    | .wearEarphone => 0x10
    | .playButtonOperation => 0x20
    | .touchPadOperation => 0x30
    | .mainBodyOperation => 0x40
    | .quickAttention => 0x50
    | .assignableButtonSettings => 0x60
  values := [.changeEarpiece, .wearEarphone, .playButtonOperation, .touchPadOperation,
    .mainBodyOperation, .quickAttention, .assignableButtonSettings]
  complete value := by cases value <;> decide
  nodup := by decide

/-- `mdr_packet_support_function_type_t`. -/
inductive SupportFunctionType
  | noUse | batteryLevel | upscalingIndicator | codecIndicator | bleSetup | leftRightBatteryLevel
  | leftRightConnectionStatus | cradleBatteryLevel | powerOff | conciergeData | tandemKeepAlive
  | fwUpdate | pairingDeviceManagementClassicBt | voiceGuidance | vpt | soundPosition | presetEq
  | ebb | presetEqNoncustomizable | noiseCancelling | noiseCancellingAndAmbientSoundMode
  | ambientSoundMode | autoNcAsm | ncOptimizer | vibratorAlertNotification | playbackController
  | trainingMode | actionLogNotifier | generalSetting1 | generalSetting2 | generalSetting3
  | connectionMode | upscaling | vibrator | powerSavingMode | controlByWearing | autoPowerOff
  | smartTalkingMode | assignableSettings
  deriving DecidableEq, Repr

instance : ByteEnum SupportFunctionType where
  byte
    | .noUse => 0x00
    | .batteryLevel => 0x11
    | .upscalingIndicator => 0x12
    | .codecIndicator => 0x13
    | .bleSetup => 0x14
    | .leftRightBatteryLevel => 0x15
    | .leftRightConnectionStatus => 0x17
    | .cradleBatteryLevel => 0x18
    | .powerOff => 0x21
    | .conciergeData => 0x22
    | .tandemKeepAlive => 0x23
    | .fwUpdate => 0x30
    | .pairingDeviceManagementClassicBt => 0x38
    | .voiceGuidance => 0x39
    | .vpt => 0x41
    | .soundPosition => 0x42
    | .presetEq => 0x51
    | .ebb => 0x52
    | .presetEqNoncustomizable => 0x53
    | .noiseCancelling => 0x61
    | .noiseCancellingAndAmbientSoundMode => 0x62
    | .ambientSoundMode => 0x63
    | .autoNcAsm => 0x71
    | .ncOptimizer => 0x81
    | .vibratorAlertNotification => 0x92
    | .playbackController => 0xa1
    | .trainingMode => 0xb1
    | .actionLogNotifier => 0xc1
    | .generalSetting1 => 0xd1
    | .generalSetting2 => 0xd2
    | .generalSetting3 => 0xd3
    | .connectionMode => 0xe1
    | .upscaling => 0xe2
    | .vibrator => 0xf1
    | .powerSavingMode => 0xf2
    | .controlByWearing => 0xf3
    | .autoPowerOff => 0xf4
    | .smartTalkingMode => 0xf5
    | .assignableSettings => 0xf6
  values := [.noUse, .batteryLevel, .upscalingIndicator, .codecIndicator, .bleSetup,
    .leftRightBatteryLevel, .leftRightConnectionStatus, .cradleBatteryLevel, .powerOff,
    .conciergeData, .tandemKeepAlive, .fwUpdate, .pairingDeviceManagementClassicBt,
    .voiceGuidance, .vpt, .soundPosition, .presetEq, .ebb, .presetEqNoncustomizable,
    .noiseCancelling, .noiseCancellingAndAmbientSoundMode, .ambientSoundMode, .autoNcAsm,
    .ncOptimizer, .vibratorAlertNotification, .playbackController, .trainingMode,
    .actionLogNotifier, .generalSetting1, .generalSetting2, .generalSetting3, .connectionMode,
    .upscaling, .vibrator, .powerSavingMode, .controlByWearing, .autoPowerOff, .smartTalkingMode,
    .assignableSettings]
  complete value := by cases value <;> decide
  nodup := by decide

/-- `mdr_packet_connect_get_protocol_info_t`. -/
structure ConnectGetProtocolInfo where
  fixedValue : UInt8
  deriving DecidableEq, Repr

/-- `mdr_packet_connect_ret_protocol_info_t`. -/
structure ConnectRetProtocolInfo where
  fixedValue : UInt8
  versionHigh : UInt8
  versionLow : UInt8
  deriving DecidableEq, Repr

/-- `mdr_packet_connect_get_device_info_t`. -/
structure ConnectGetDeviceInfo where
  inquiredType : DeviceInfoInquiredType
  deriving DecidableEq, Repr

/-- `mdr_packet_device_info_string_t`. -/
structure DeviceInfoString where
  len : UInt8
  string : List UInt8
  deriving DecidableEq, Repr

/-- `mdr_packet_device_info_series_and_color_t`. -/
structure DeviceInfoSeriesAndColor where
  series : DeviceInfoModelSeries
  color : DeviceInfoModelColor
  deriving DecidableEq, Repr

/-- `mdr_packet_device_info_instruction_guide_t`. -/
structure DeviceInfoInstructionGuide where
  numGuidanceCategories : UInt8
  guidanceCategories : List DeviceInfoGuidanceCategory
  deriving DecidableEq, Repr

/-- `mdr_packet_connect_ret_device_info_t`: the inquired type selects the member
of the union. -/
inductive ConnectRetDeviceInfo
  | modelName (name : DeviceInfoString)
  | fwVersion (version : DeviceInfoString)
  | seriesAndColor (info : DeviceInfoSeriesAndColor)
  | instructionGuide (guide : DeviceInfoInstructionGuide)
  deriving DecidableEq, Repr

def ConnectRetDeviceInfo.inquiredType : ConnectRetDeviceInfo → DeviceInfoInquiredType
  | .modelName _ => .modelName
  | .fwVersion _ => .fwVersion
  | .seriesAndColor _ => .seriesAndColor
  | .instructionGuide _ => .instructionGuide

/-- `mdr_packet_connect_get_support_function_t`. -/
structure ConnectGetSupportFunction where
  fixedValue : UInt8
  deriving DecidableEq, Repr

/-- `mdr_packet_connect_ret_support_function_t`. -/
structure ConnectRetSupportFunction where
  fixedValue : UInt8
  numFunctionTypes : UInt8
  functionTypes : List SupportFunctionType
  deriving DecidableEq, Repr

/-! ## Parsing -/

def parseConnectGetProtocolInfo : Parse ConnectGetProtocolInfo := do
  let fixedValue ← Parse.fixedValue
  return { fixedValue }

def parseConnectRetProtocolInfo : Parse ConnectRetProtocolInfo := do
  let fixedValue ← Parse.fixedValue
  let versionHigh ← Parse.byte
  let versionLow ← Parse.byte
  return { fixedValue, versionHigh, versionLow }

def parseConnectGetDeviceInfo : Parse ConnectGetDeviceInfo := do
  let inquiredType ← Parse.enum
  return { inquiredType }

/-- A string of the device info. At most 128 bytes are taken, but `len` stays
what the frame says; the buffer allocated first is replaced by a second one. -/
def parseDeviceInfoString : Parse DeviceInfoString := do
  let len ← Parse.byte
  Parse.alloc
  let string ← Parse.bytes (if 128 < len then 128 else len)
  return { len, string }

def parseDeviceInfoSeriesAndColor : Parse DeviceInfoSeriesAndColor := do
  let series ← Parse.enum
  let color ← Parse.enum
  return { series, color }

def parseDeviceInfoInstructionGuide : Parse DeviceInfoInstructionGuide := do
  let numGuidanceCategories ← Parse.byte
  let guidanceCategories ← Parse.forEach numGuidanceCategories Parse.enum
  return { numGuidanceCategories, guidanceCategories }

/-- The RET_DEVICE_INFO branch of `mdr_packet_connect_from_frame`. -/
def parseConnectRetDeviceInfo : Parse ConnectRetDeviceInfo := do
  match ← (Parse.enum : Parse DeviceInfoInquiredType) with
  | .modelName => return .modelName (← parseDeviceInfoString)
  | .fwVersion => return .fwVersion (← parseDeviceInfoString)
  | .seriesAndColor => return .seriesAndColor (← parseDeviceInfoSeriesAndColor)
  | .instructionGuide => return .instructionGuide (← parseDeviceInfoInstructionGuide)

def parseConnectGetSupportFunction : Parse ConnectGetSupportFunction := do
  let fixedValue ← Parse.fixedValue
  return { fixedValue }

def parseConnectRetSupportFunction : Parse ConnectRetSupportFunction := do
  let fixedValue ← Parse.fixedValue
  let numFunctionTypes ← Parse.byte
  let functionTypes ← Parse.forEach numFunctionTypes Parse.enum
  return { fixedValue, numFunctionTypes, functionTypes }

/-! ## Writing -/

def writeConnectGetProtocolInfo (packet : ConnectGetProtocolInfo) : Option (List Layout) :=
  some [⟨1, [packet.fixedValue]⟩]

def writeConnectRetProtocolInfo (packet : ConnectRetProtocolInfo) : Option (List Layout) :=
  some [⟨3, [packet.fixedValue, packet.versionHigh, packet.versionLow]⟩]

def writeConnectGetDeviceInfo (packet : ConnectGetDeviceInfo) : Option (List Layout) :=
  some [⟨1, [ByteEnum.byte packet.inquiredType]⟩]

/-- The RET_DEVICE_INFO branch of `mdr_packet_connect_to_frame`. -/
def writeConnectRetDeviceInfo (packet : ConnectRetDeviceInfo) : Option (List Layout) :=
  let inquiredType := ByteEnum.byte packet.inquiredType
  match packet with
  | .modelName name | .fwVersion name => do
    let string ← counted name.len name.string
    return [⟨2 + name.len.toNat, [inquiredType, name.len] ++ string⟩]
  | .seriesAndColor info =>
    some [⟨3, [inquiredType, ByteEnum.byte info.series, ByteEnum.byte info.color]⟩]
  | .instructionGuide guide => do
    let categories ← counted guide.numGuidanceCategories guide.guidanceCategories
    return [⟨2 + guide.numGuidanceCategories.toNat,
      [inquiredType, guide.numGuidanceCategories] ++ categories.map ByteEnum.byte⟩]

def writeConnectGetSupportFunction (packet : ConnectGetSupportFunction) : Option (List Layout) :=
  some [⟨1, [packet.fixedValue]⟩]

def writeConnectRetSupportFunction (packet : ConnectRetSupportFunction) :
    Option (List Layout) := do
  let types ← counted packet.numFunctionTypes packet.functionTypes
  return [⟨2 + packet.numFunctionTypes.toNat,
    [packet.fixedValue, packet.numFunctionTypes] ++ types.map ByteEnum.byte⟩]

end Libmdr
