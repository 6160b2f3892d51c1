import Libmdr.Packet.Codec

/-!
# COMMON packets

Battery level, power off and connection status (`include/mdr/packet/common_*.h`,
`src/packet/common.h`).
-/

namespace Libmdr
set_option autoImplicit false

/-- `mdr_packet_battery_inquired_type_t`. -/
inductive BatteryInquiredType
  | battery | leftRightBattery | cradleBattery
  deriving DecidableEq, Repr

instance : ByteEnum BatteryInquiredType where
  byte
    | .battery => 0x00
    | .leftRightBattery => 0x01
    | .cradleBattery => 0x02
  values := [.battery, .leftRightBattery, .cradleBattery]
  complete value := by cases value <;> decide
  nodup := by decide

/-- `mdr_packet_connection_status_inquired_type_t`. -/
inductive ConnectionStatusInquiredType
  | leftRight
  deriving DecidableEq, Repr

instance : ByteEnum ConnectionStatusInquiredType where
  byte
    | .leftRight => 0x01
  values := [.leftRight]
  complete value := by cases value; decide
  nodup := by decide

/-- `mdr_packet_connection_status_connection_status_t`. -/
inductive ConnectionStatusConnectionStatus
  | notConnected | connected
  deriving DecidableEq, Repr

instance : ByteEnum ConnectionStatusConnectionStatus where
  byte
    | .notConnected => 0x00
    | .connected => 0x01
  values := [.notConnected, .connected]
  complete value := by cases value <;> decide
  nodup := by decide

/-- `mdr_packet_common_power_off_inquired_type_t`. -/
inductive CommonPowerOffInquiredType
  | fixedValue
  deriving DecidableEq, Repr

instance : ByteEnum CommonPowerOffInquiredType where
  byte
    | .fixedValue => 0x00
  values := [.fixedValue]
  complete value := by cases value; decide
  nodup := by decide

/-- `mdr_packet_common_power_off_setting_value_t`. -/
inductive CommonPowerOffSettingValue
  | userPowerOff
  deriving DecidableEq, Repr

instance : ByteEnum CommonPowerOffSettingValue where
  byte
    | .userPowerOff => 0x01
  values := [.userPowerOff]
  complete value := by cases value; decide
  nodup := by decide

/-- `mdr_packet_battery_status_t`. -/
structure BatteryStatus where
  level : UInt8
  charging : UInt8
  deriving DecidableEq, Repr

/-- `mdr_packet_battery_status_left_right_t`. -/
structure BatteryStatusLeftRight where
  left : BatteryStatus
  right : BatteryStatus
  deriving DecidableEq, Repr

/-- `mdr_packet_common_get_battery_level_t`. -/
structure CommonGetBatteryLevel where
  inquiredType : BatteryInquiredType
  deriving DecidableEq, Repr

/-- `mdr_packet_common_ret_battery_level_t`, also for NTFY. -/
inductive CommonRetBatteryLevel
  | battery (status : BatteryStatus)
  | leftRightBattery (status : BatteryStatusLeftRight)
  | cradleBattery (status : BatteryStatus)
  deriving DecidableEq, Repr

def CommonRetBatteryLevel.inquiredType : CommonRetBatteryLevel → BatteryInquiredType
  | .battery _ => .battery
  | .leftRightBattery _ => .leftRightBattery
  | .cradleBattery _ => .cradleBattery

/-- `mdr_packet_common_set_power_off_t`. -/
structure CommonSetPowerOff where
  inquiredType : CommonPowerOffInquiredType
  settingValue : CommonPowerOffSettingValue
  deriving DecidableEq, Repr

/-- `mdr_packet_connection_status_left_right_status_t`. -/
structure ConnectionStatusLeftRightStatus where
  leftStatus : ConnectionStatusConnectionStatus
  rightStatus : ConnectionStatusConnectionStatus
  deriving DecidableEq, Repr

/-- `mdr_packet_common_get_connection_status_t`. -/
structure CommonGetConnectionStatus where
  inquiredType : ConnectionStatusInquiredType
  deriving DecidableEq, Repr

/-- `mdr_packet_common_ret_connection_status_t`, also for NTFY. -/
inductive CommonRetConnectionStatus
  | leftRight (status : ConnectionStatusLeftRightStatus)
  deriving DecidableEq, Repr

def CommonRetConnectionStatus.inquiredType :
    CommonRetConnectionStatus → ConnectionStatusInquiredType
  | .leftRight _ => .leftRight

/-! ## Parsing -/

def parseCommonGetBatteryLevel : Parse CommonGetBatteryLevel := do
  let inquiredType ← Parse.enum
  return { inquiredType }

def parseBatteryStatus : Parse BatteryStatus := do
  let level ← Parse.byte
  let charging ← Parse.byte
  return { level, charging }

/-- The RET and NTFY_BATTERY_LEVEL branch of `mdr_packet_common_from_frame`. -/
def parseCommonRetBatteryLevel : Parse CommonRetBatteryLevel := do
  match ← (Parse.enum : Parse BatteryInquiredType) with
  | .battery => return .battery (← parseBatteryStatus)
  | .cradleBattery => return .cradleBattery (← parseBatteryStatus)
  | .leftRightBattery => do
    let left ← parseBatteryStatus
    let right ← parseBatteryStatus
    return .leftRightBattery { left, right }

def parseCommonSetPowerOff : Parse CommonSetPowerOff := do
  let inquiredType ← Parse.enum
  let settingValue ← Parse.enum
  return { inquiredType, settingValue }

def parseCommonGetConnectionStatus : Parse CommonGetConnectionStatus := do
  let inquiredType ← Parse.enum
  return { inquiredType }

/-- The RET and NTFY_CONNECTION_STATUS branch of `mdr_packet_common_from_frame`. -/
def parseCommonRetConnectionStatus : Parse CommonRetConnectionStatus := do
  match ← (Parse.enum : Parse ConnectionStatusInquiredType) with
  | .leftRight => do
    let leftStatus ← Parse.enum
    let rightStatus ← Parse.enum
    return .leftRight { leftStatus, rightStatus }

/-! ## Writing -/

def writeCommonGetBatteryLevel (packet : CommonGetBatteryLevel) : Option (List Layout) :=
  some [⟨1, [ByteEnum.byte packet.inquiredType]⟩]

/-- The RET and NTFY_BATTERY_LEVEL branch of `mdr_packet_common_to_frame`. The
inquired type is counted in the size but not written. -/
def writeCommonRetBatteryLevel : CommonRetBatteryLevel → Option (List Layout)
  | .battery status | .cradleBattery status => some [⟨3, [status.level, status.charging]⟩]
  | .leftRightBattery status =>
    some [⟨5, [status.left.level, status.left.charging, status.right.level,
      status.right.charging]⟩]

def writeCommonSetPowerOff (packet : CommonSetPowerOff) : Option (List Layout) :=
  some [⟨2, [ByteEnum.byte packet.inquiredType, ByteEnum.byte packet.settingValue]⟩]

def writeCommonGetConnectionStatus (packet : CommonGetConnectionStatus) : Option (List Layout) :=
  some [⟨1, [ByteEnum.byte packet.inquiredType]⟩]

def writeCommonRetConnectionStatus (packet : CommonRetConnectionStatus) : Option (List Layout) :=
  let inquiredType := ByteEnum.byte packet.inquiredType
  match packet with
  | .leftRight status =>
    some [⟨3, [inquiredType, ByteEnum.byte status.leftStatus, ByteEnum.byte status.rightStatus]⟩]

end Libmdr
