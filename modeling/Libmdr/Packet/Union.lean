import Libmdr.Packet.Packet

/-!
# Members of the unions of a packet

`packet->data` is a union, and so are the parameters and capabilities in it. The type of the
packet selects the member of the one, the inquired type (for PLAY the detailed data type) the
member of the other. Code that names a member reads it whatever is selected; here the read of
a member that is not selected is `none`.
-/

namespace Libmdr
set_option autoImplicit false

/-! ## `packet->data` -/

namespace Packet

def connectRetDeviceInfo? : Packet → Option ConnectRetDeviceInfo
  | .connectRetDeviceInfo data => some data
  | _ => none

def connectRetSupportFunction? : Packet → Option ConnectRetSupportFunction
  | .connectRetSupportFunction data => some data
  | _ => none

def commonRetBatteryLevel? : Packet → Option CommonRetBatteryLevel
  | .commonRetBatteryLevel data => some data
  | _ => none

def commonNtfyBatteryLevel? : Packet → Option CommonRetBatteryLevel
  | .commonNtfyBatteryLevel data => some data
  | _ => none

def commonRetConnectionStatus? : Packet → Option CommonRetConnectionStatus
  | .commonRetConnectionStatus data => some data
  | _ => none

def commonNtfyConnectionStatus? : Packet → Option CommonRetConnectionStatus
  | .commonNtfyConnectionStatus data => some data
  | _ => none

def eqebbRetCapability? : Packet → Option EqebbRetCapability
  | .eqebbRetCapability data => some data
  | _ => none

def eqebbRetParam? : Packet → Option EqebbRetParam
  | .eqebbRetParam data => some data
  | _ => none

def eqebbNtfyParam? : Packet → Option EqebbRetParam
  | .eqebbNtfyParam data => some data
  | _ => none

def ncasmRetParam? : Packet → Option NcasmRetParam
  | .ncasmRetParam data => some data
  | _ => none

def ncasmNtfyParam? : Packet → Option NcasmRetParam
  | .ncasmNtfyParam data => some data
  | _ => none

def playRetParam? : Packet → Option PlayRetParam
  | .playRetParam data => some data
  | _ => none

def playNtfyParam? : Packet → Option PlayRetParam
  | .playNtfyParam data => some data
  | _ => none

def systemRetCapability? : Packet → Option SystemRetCapability
  | .systemRetCapability data => some data
  | _ => none

def systemRetParam? : Packet → Option SystemRetParam
  | .systemRetParam data => some data
  | _ => none

def systemNtfyParam? : Packet → Option SystemRetParam
  | .systemNtfyParam data => some data
  | _ => none

end Packet

/-! ## The unions inside -/

namespace ConnectRetDeviceInfo

def modelName? : ConnectRetDeviceInfo → Option DeviceInfoString
  | .modelName name => some name
  | _ => none

def fwVersion? : ConnectRetDeviceInfo → Option DeviceInfoString
  | .fwVersion version => some version
  | _ => none

def seriesAndColor? : ConnectRetDeviceInfo → Option DeviceInfoSeriesAndColor
  | .seriesAndColor info => some info
  | _ => none

end ConnectRetDeviceInfo

namespace CommonRetBatteryLevel

def battery? : CommonRetBatteryLevel → Option BatteryStatus
  | .battery status => some status
  | _ => none

def leftRightBattery? : CommonRetBatteryLevel → Option BatteryStatusLeftRight
  | .leftRightBattery status => some status
  | _ => none

def cradleBattery? : CommonRetBatteryLevel → Option BatteryStatus
  | .cradleBattery status => some status
  | _ => none

end CommonRetBatteryLevel

def CommonRetConnectionStatus.leftRight? :
    CommonRetConnectionStatus → Option ConnectionStatusLeftRightStatus
  | .leftRight status => some status

namespace NcasmRetParam

def noiseCancelling? : NcasmRetParam → Option NcasmParamNoiseCancelling
  | .noiseCancelling param => some param
  | _ => none

def noiseCancellingAsm? : NcasmRetParam → Option NcasmParamNoiseCancellingAsm
  | .noiseCancellingAsm param => some param
  | _ => none

def ambientSoundMode? : NcasmRetParam → Option NcasmParamAsm
  | .ambientSoundMode param => some param
  | _ => none

end NcasmRetParam

/-- The member `eq` is that of two inquired types. -/
def EqebbRetCapability.eq? : EqebbRetCapability → Option EqebbCapabilityEq
  | .presetEq eq | .presetEqNoncustomizable eq => some eq
  | .ebb _ => none

def EqebbRetParam.eq? : EqebbRetParam → Option EqebbParamEq
  | .presetEq eq | .presetEqNoncustomizable eq => some eq
  | .ebb _ => none

def PlayRetParam.volume? (param : PlayRetParam) : Option UInt8 :=
  match param.value with
  | .volume volume => some volume
  | _ => none

namespace SystemRetCapability

def autoPowerOff? : SystemRetCapability → Option SystemCapabilityAutoPowerOff
  | .autoPowerOff capability => some capability
  | _ => none

def assignableSettings? : SystemRetCapability → Option SystemCapabilityAssignableSettings
  | .assignableSettings capability => some capability
  | _ => none

end SystemRetCapability

namespace SystemRetParam

def autoPowerOff? : SystemRetParam → Option SystemParamAutoPowerOff
  | .autoPowerOff param => some param
  | _ => none

def assignableSettings? : SystemRetParam → Option SystemParamAssignableSettings
  | .assignableSettings param => some param
  | _ => none

end SystemRetParam

end Libmdr
