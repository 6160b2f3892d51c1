import Libmdr.Packet.Connect
import Libmdr.Packet.Common
import Libmdr.Packet.Eqebb
import Libmdr.Packet.Ncasm
import Libmdr.Packet.Play
import Libmdr.Packet.System

/-!
# MDR packets

`mdr_packet_t` (`include/mdr/packet.h`) and the two conversions of `src/packet.c`.
`mdr_packet_from_frame` and `mdr_packet_to_frame` choose a family by the type and
the family's function switches on the type again; the two switches list the same
types and are one `match` here.
-/

namespace Libmdr
set_option autoImplicit false

/-- `mdr_packet_type_t`. -/
inductive PacketType
  | connectGetProtocolInfo | connectRetProtocolInfo | connectGetDeviceInfo | connectRetDeviceInfo
  | connectGetSupportFunction | connectRetSupportFunction | commonGetBatteryLevel
  | commonRetBatteryLevel | commonNtfyBatteryLevel | commonSetPowerOff
  | commonGetConnectionStatus | commonRetConnectionStatus | commonNtfyConnectionStatus
  | eqebbGetCapability | eqebbRetCapability | eqebbGetParam | eqebbRetParam | eqebbSetParam
  | eqebbNtfyParam | ncasmGetParam | ncasmRetParam | ncasmSetParam | ncasmNtfyParam
  | playGetParam | playRetParam | playSetParam | playNtfyParam | systemGetCapability
  | systemRetCapability | systemGetParam | systemRetParam | systemSetParam | systemNtfyParam
  deriving DecidableEq, Repr

instance : ByteEnum PacketType where
  byte
    | .connectGetProtocolInfo => 0x00
    | .connectRetProtocolInfo => 0x01
    | .connectGetDeviceInfo => 0x04
    | .connectRetDeviceInfo => 0x05
    | .connectGetSupportFunction => 0x06
    | .connectRetSupportFunction => 0x07
    | .commonGetBatteryLevel => 0x10
    | .commonRetBatteryLevel => 0x11
    | .commonNtfyBatteryLevel => 0x13
    | .commonSetPowerOff => 0x22
    | .commonGetConnectionStatus => 0x24
    | .commonRetConnectionStatus => 0x25
    | .commonNtfyConnectionStatus => 0x27
    | .eqebbGetCapability => 0x50
    | .eqebbRetCapability => 0x51
    | .eqebbGetParam => 0x56
    | .eqebbRetParam => 0x57
    | .eqebbSetParam => 0x58
    | .eqebbNtfyParam => 0x59
    | .ncasmGetParam => 0x66
    | .ncasmRetParam => 0x67
    | .ncasmSetParam => 0x68
    | .ncasmNtfyParam => 0x69
    | .playGetParam => 0xa6
    | .playRetParam => 0xa7
    | .playSetParam => 0xa8
    | .playNtfyParam => 0xa9
    | .systemGetCapability => 0xf0
    | .systemRetCapability => 0xf1
    | .systemGetParam => 0xf6
    | .systemRetParam => 0xf7
    | .systemSetParam => 0xf8
    | .systemNtfyParam => 0xf9
  values := [.connectGetProtocolInfo, .connectRetProtocolInfo, .connectGetDeviceInfo,
    .connectRetDeviceInfo, .connectGetSupportFunction, .connectRetSupportFunction,
    .commonGetBatteryLevel, .commonRetBatteryLevel, .commonNtfyBatteryLevel, .commonSetPowerOff,
    .commonGetConnectionStatus, .commonRetConnectionStatus, .commonNtfyConnectionStatus,
    .eqebbGetCapability, .eqebbRetCapability, .eqebbGetParam, .eqebbRetParam, .eqebbSetParam,
    .eqebbNtfyParam, .ncasmGetParam, .ncasmRetParam, .ncasmSetParam, .ncasmNtfyParam,
    .playGetParam, .playRetParam, .playSetParam, .playNtfyParam, .systemGetCapability,
    .systemRetCapability, .systemGetParam, .systemRetParam, .systemSetParam, .systemNtfyParam]
  complete value := by cases value <;> decide
  nodup := by decide

/-- `mdr_packet_t`: the type selects the member of the union. -/
inductive Packet
  | connectGetProtocolInfo (data : ConnectGetProtocolInfo)
  | connectRetProtocolInfo (data : ConnectRetProtocolInfo)
  | connectGetDeviceInfo (data : ConnectGetDeviceInfo)
  | connectRetDeviceInfo (data : ConnectRetDeviceInfo)
  | connectGetSupportFunction (data : ConnectGetSupportFunction)
  | connectRetSupportFunction (data : ConnectRetSupportFunction)
  | commonGetBatteryLevel (data : CommonGetBatteryLevel)
  | commonRetBatteryLevel (data : CommonRetBatteryLevel)
  | commonNtfyBatteryLevel (data : CommonRetBatteryLevel)
  | commonSetPowerOff (data : CommonSetPowerOff)
  | commonGetConnectionStatus (data : CommonGetConnectionStatus)
  | commonRetConnectionStatus (data : CommonRetConnectionStatus)
  | commonNtfyConnectionStatus (data : CommonRetConnectionStatus)
  | eqebbGetCapability (data : EqebbGetCapability)
  | eqebbRetCapability (data : EqebbRetCapability)
  | eqebbGetParam (data : EqebbGetParam)
  | eqebbRetParam (data : EqebbRetParam)
  | eqebbSetParam (data : EqebbRetParam)
  | eqebbNtfyParam (data : EqebbRetParam)
  | ncasmGetParam (data : NcasmGetParam)
  | ncasmRetParam (data : NcasmRetParam)
  | ncasmSetParam (data : NcasmRetParam)
  | ncasmNtfyParam (data : NcasmRetParam)
  | playGetParam (data : PlayGetParam)
  | playRetParam (data : PlayRetParam)
  | playSetParam (data : PlayRetParam)
  | playNtfyParam (data : PlayRetParam)
  | systemGetCapability (data : SystemGetCapability)
  | systemRetCapability (data : SystemRetCapability)
  | systemGetParam (data : SystemGetParam)
  | systemRetParam (data : SystemRetParam)
  | systemSetParam (data : SystemRetParam)
  | systemNtfyParam (data : SystemRetParam)
  deriving DecidableEq, Repr

namespace Packet

/-- The `type` field. -/
def type : Packet → PacketType
  | .connectGetProtocolInfo _ => .connectGetProtocolInfo
  | .connectRetProtocolInfo _ => .connectRetProtocolInfo
  | .connectGetDeviceInfo _ => .connectGetDeviceInfo
  | .connectRetDeviceInfo _ => .connectRetDeviceInfo
  | .connectGetSupportFunction _ => .connectGetSupportFunction
  | .connectRetSupportFunction _ => .connectRetSupportFunction
  | .commonGetBatteryLevel _ => .commonGetBatteryLevel
  | .commonRetBatteryLevel _ => .commonRetBatteryLevel
  | .commonNtfyBatteryLevel _ => .commonNtfyBatteryLevel
  | .commonSetPowerOff _ => .commonSetPowerOff
  | .commonGetConnectionStatus _ => .commonGetConnectionStatus
  | .commonRetConnectionStatus _ => .commonRetConnectionStatus
  | .commonNtfyConnectionStatus _ => .commonNtfyConnectionStatus
  | .eqebbGetCapability _ => .eqebbGetCapability
  | .eqebbRetCapability _ => .eqebbRetCapability
  | .eqebbGetParam _ => .eqebbGetParam
  | .eqebbRetParam _ => .eqebbRetParam
  | .eqebbSetParam _ => .eqebbSetParam
  | .eqebbNtfyParam _ => .eqebbNtfyParam
  | .ncasmGetParam _ => .ncasmGetParam
  | .ncasmRetParam _ => .ncasmRetParam
  | .ncasmSetParam _ => .ncasmSetParam
  | .ncasmNtfyParam _ => .ncasmNtfyParam
  | .playGetParam _ => .playGetParam
  | .playRetParam _ => .playRetParam
  | .playSetParam _ => .playSetParam
  | .playNtfyParam _ => .playNtfyParam
  | .systemGetCapability _ => .systemGetCapability
  | .systemRetCapability _ => .systemRetCapability
  | .systemGetParam _ => .systemGetParam
  | .systemRetParam _ => .systemRetParam
  | .systemSetParam _ => .systemSetParam
  | .systemNtfyParam _ => .systemNtfyParam

/-! ## Reading a packet from a frame -/

/-- What follows `PARSE_INIT` for a type. -/
def parseData : PacketType → Parse Packet
  | .connectGetProtocolInfo => return .connectGetProtocolInfo (← parseConnectGetProtocolInfo)
  | .connectRetProtocolInfo => return .connectRetProtocolInfo (← parseConnectRetProtocolInfo)
  | .connectGetDeviceInfo => return .connectGetDeviceInfo (← parseConnectGetDeviceInfo)
  | .connectRetDeviceInfo => return .connectRetDeviceInfo (← parseConnectRetDeviceInfo)
  | .connectGetSupportFunction => return .connectGetSupportFunction (← parseConnectGetSupportFunction)
  | .connectRetSupportFunction => return .connectRetSupportFunction (← parseConnectRetSupportFunction)
  | .commonGetBatteryLevel => return .commonGetBatteryLevel (← parseCommonGetBatteryLevel)
  | .commonRetBatteryLevel => return .commonRetBatteryLevel (← parseCommonRetBatteryLevel)
  | .commonNtfyBatteryLevel => return .commonNtfyBatteryLevel (← parseCommonRetBatteryLevel)
  | .commonSetPowerOff => return .commonSetPowerOff (← parseCommonSetPowerOff)
  | .commonGetConnectionStatus => return .commonGetConnectionStatus (← parseCommonGetConnectionStatus)
  | .commonRetConnectionStatus => return .commonRetConnectionStatus (← parseCommonRetConnectionStatus)
  | .commonNtfyConnectionStatus => return .commonNtfyConnectionStatus (← parseCommonRetConnectionStatus)
  | .eqebbGetCapability => return .eqebbGetCapability (← parseEqebbGetCapability)
  | .eqebbRetCapability => return .eqebbRetCapability (← parseEqebbRetCapability)
  | .eqebbGetParam => return .eqebbGetParam (← parseEqebbGetParam)
  | .eqebbRetParam => return .eqebbRetParam (← parseEqebbRetParam)
  | .eqebbSetParam => return .eqebbSetParam (← parseEqebbRetParam)
  | .eqebbNtfyParam => return .eqebbNtfyParam (← parseEqebbRetParam)
  | .ncasmGetParam => return .ncasmGetParam (← parseNcasmGetParam)
  | .ncasmRetParam => return .ncasmRetParam (← parseNcasmRetParam)
  | .ncasmSetParam => return .ncasmSetParam (← parseNcasmRetParam)
  | .ncasmNtfyParam => return .ncasmNtfyParam (← parseNcasmRetParam)
  | .playGetParam => return .playGetParam (← parsePlayGetParam)
  | .playRetParam => return .playRetParam (← parsePlayRetParam)
  | .playSetParam => return .playSetParam (← parsePlayRetParam)
  | .playNtfyParam => return .playNtfyParam (← parsePlayRetParam)
  | .systemGetCapability => return .systemGetCapability (← parseSystemGetCapability)
  | .systemRetCapability => return .systemRetCapability (← parseSystemRetCapability)
  | .systemGetParam => return .systemGetParam (← parseSystemGetParam)
  | .systemRetParam => return .systemRetParam (← parseSystemRetParam)
  | .systemSetParam => return .systemSetParam (← parseSystemRetParam)
  | .systemNtfyParam => return .systemNtfyParam (← parseSystemRetParam)

/-- `PARSE_INIT` for a non-empty payload: the packet is allocated, and parsing
starts behind the type byte. -/
def parse (type : PacketType) : Parse Packet := do
  Parse.alloc
  parseData type

/-- `mdr_packet_from_frame`. `none` stands for a read outside the frame. -/
def fromFrame (heap : Heap) (frame : Frame) (h : Host) : Option (Option Packet × Host) :=
  if frame.dataType ≠ frameDataTypeDataMdr then
    some (none, { h with errno := mdrEInvalidPacket })
  else if frame.payloadLength < 1 then
    some (none, { h with errno := mdrEInvalidFrame })
  else
    match frame.body[0]? with
    | none => none
    | some first =>
      match (ByteEnum.ofByte first : Option PacketType) with
      | none => some (none, { h with errno := mdrEInvalidFrame })
      | some type =>
        match parse type heap frame
            { offset := 1, errno := h.errno, mallocs := h.mallocs, reads := [⟨0, 1⟩] } with
        | (.ok packet, cursor) => some (some packet, cursor.onHost h)
        | (.error .outOfBounds, _) => none
        | (.error .invalidFrame, cursor) => some (none, cursor.onHost h)
        | (.error .noMemory, cursor) => some (none, cursor.onHost h)

/-! ## Writing a packet to a frame -/

/-- The frames that the encoder of a packet makes. -/
def layouts : Packet → Option (List Layout)
  | .connectGetProtocolInfo data => writeConnectGetProtocolInfo data
  | .connectRetProtocolInfo data => writeConnectRetProtocolInfo data
  | .connectGetDeviceInfo data => writeConnectGetDeviceInfo data
  | .connectRetDeviceInfo data => writeConnectRetDeviceInfo data
  | .connectGetSupportFunction data => writeConnectGetSupportFunction data
  | .connectRetSupportFunction data => writeConnectRetSupportFunction data
  | .commonGetBatteryLevel data => writeCommonGetBatteryLevel data
  | .commonRetBatteryLevel data => writeCommonRetBatteryLevel data
  | .commonNtfyBatteryLevel data => writeCommonRetBatteryLevel data
  | .commonSetPowerOff data => writeCommonSetPowerOff data
  | .commonGetConnectionStatus data => writeCommonGetConnectionStatus data
  | .commonRetConnectionStatus data => writeCommonRetConnectionStatus data
  | .commonNtfyConnectionStatus data => writeCommonRetConnectionStatus data
  | .eqebbGetCapability data => writeEqebbGetCapability data
  | .eqebbRetCapability data => writeEqebbRetCapability data
  | .eqebbGetParam data => writeEqebbGetParam data
  | .eqebbRetParam data => writeEqebbRetParam data
  | .eqebbSetParam data => writeEqebbRetParam data
  | .eqebbNtfyParam data => writeEqebbRetParam data
  | .ncasmGetParam data => writeNcasmGetParam data
  | .ncasmRetParam data => writeNcasmRetParam data
  | .ncasmSetParam data => writeNcasmRetParam data
  | .ncasmNtfyParam data => writeNcasmRetParam data
  | .playGetParam data => writePlayGetParam data
  | .playRetParam data => writePlayRetParam data
  | .playSetParam data => writePlayRetParam data
  | .playNtfyParam data => writePlayRetParam data
  | .systemGetCapability data => writeSystemGetCapability data
  | .systemRetCapability data => writeSystemRetCapability data
  | .systemGetParam data => writeSystemGetParam data
  | .systemRetParam data => writeSystemRetParam data
  | .systemSetParam data => writeSystemRetParam data
  | .systemNtfyParam data => writeSystemRetParam data

/-- `mdr_packet_to_frame`. `none` stands for an access outside an allocation. -/
def toFrame (heap : Heap) (packet : Packet) (h : Host) : Option (Option Frame × Host) := do
  writeFrames heap (ByteEnum.byte packet.type) (← packet.layouts) h

end Packet

end Libmdr
