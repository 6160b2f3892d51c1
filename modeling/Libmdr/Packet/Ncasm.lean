import Libmdr.Packet.Codec

/-!
# NCASM packets

Noise cancelling and ambient sound mode (`include/mdr/packet/ncasm.h`,
`src/packet/ncasm.h`).
-/

namespace Libmdr
set_option autoImplicit false

/-- `mdr_packet_ncasm_inquired_type_t`. -/
inductive NcasmInquiredType
  | noiseCancelling | noiseCancellingAndAsm | asm
  deriving DecidableEq, Repr

instance : ByteEnum NcasmInquiredType where
  byte
    | .noiseCancelling => 0x01
    | .noiseCancellingAndAsm => 0x02
    | .asm => 0x03
  values := [.noiseCancelling, .noiseCancellingAndAsm, .asm]
  complete value := by cases value <;> decide
  nodup := by decide

/-- `mdr_packet_ncasm_nc_setting_type_t`. -/
inductive NcasmNcSettingType
  | onOff | levelAdjustment
  deriving DecidableEq, Repr

instance : ByteEnum NcasmNcSettingType where
  byte
    | .onOff => 0x00
    | .levelAdjustment => 0x01
  values := [.onOff, .levelAdjustment]
  complete value := by cases value <;> decide
  nodup := by decide

/-- `mdr_packet_ncasm_nc_setting_value_t`. -/
inductive NcasmNcSettingValue
  | off | on
  deriving DecidableEq, Repr

instance : ByteEnum NcasmNcSettingValue where
  byte
    | .off => 0x00
    | .on => 0x01
  values := [.off, .on]
  complete value := by cases value <;> decide
  nodup := by decide

/-- `mdr_packet_ncasm_ncasm_effect_t`. -/
inductive NcasmNcasmEffect
  | off | on | adjustementInProgress | adjustementCompletion
  deriving DecidableEq, Repr

instance : ByteEnum NcasmNcasmEffect where
  byte
    | .off => 0x00
    | .on => 0x01
    | .adjustementInProgress => 0x10
    | .adjustementCompletion => 0x11
  values := [.off, .on, .adjustementInProgress, .adjustementCompletion]
  complete value := by cases value <;> decide
  nodup := by decide

/-- `mdr_packet_ncasm_ncasm_setting_type_t`. -/
inductive NcasmNcasmSettingType
  | onOff | levelAdjustment | dualSingleOff
  deriving DecidableEq, Repr

instance : ByteEnum NcasmNcasmSettingType where
  byte
    | .onOff => 0x00
    | .levelAdjustment => 0x01
    | .dualSingleOff => 0x02
  values := [.onOff, .levelAdjustment, .dualSingleOff]
  complete value := by cases value <;> decide
  nodup := by decide

/-- `mdr_packet_ncasm_asm_setting_type_t`. -/
inductive NcasmAsmSettingType
  | onOff | levelAdjustment
  deriving DecidableEq, Repr

instance : ByteEnum NcasmAsmSettingType where
  byte
    | .onOff => 0x00
    | .levelAdjustment => 0x01
  values := [.onOff, .levelAdjustment]
  complete value := by cases value <;> decide
  nodup := by decide

/-- `mdr_packet_ncasm_asm_id_t`. -/
inductive NcasmAsmId
  | normal | voice
  deriving DecidableEq, Repr

instance : ByteEnum NcasmAsmId where
  byte
    | .normal => 0x00
    | .voice => 0x01
  values := [.normal, .voice]
  complete value := by cases value <;> decide
  nodup := by decide

/-- `mdr_packet_ncasm_param_noise_cancelling_t`. -/
structure NcasmParamNoiseCancelling where
  ncSettingType : NcasmNcSettingType
  ncSettingValue : NcasmNcSettingValue
  deriving DecidableEq, Repr

/-- `mdr_packet_ncasm_param_noise_cancelling_asm_t`. -/
structure NcasmParamNoiseCancellingAsm where
  ncasmEffect : NcasmNcasmEffect
  ncasmSettingType : NcasmNcasmSettingType
  ncasmAmount : UInt8
  asmSettingType : NcasmAsmSettingType
  asmId : NcasmAsmId
  asmAmount : UInt8
  deriving DecidableEq, Repr

/-- `mdr_packet_ncasm_param_asm_t`. -/
structure NcasmParamAsm where
  ncasmEffect : NcasmNcasmEffect
  asmSettingType : NcasmAsmSettingType
  asmId : NcasmAsmId
  asmAmount : UInt8
  deriving DecidableEq, Repr

/-- `mdr_packet_ncasm_get_param_t`. -/
structure NcasmGetParam where
  inquiredType : NcasmInquiredType
  deriving DecidableEq, Repr

/-- `mdr_packet_ncasm_ret_param_t`, also for SET and NTFY: the inquired type
selects the member of the union. -/
inductive NcasmRetParam
  | noiseCancelling (param : NcasmParamNoiseCancelling)
  | noiseCancellingAsm (param : NcasmParamNoiseCancellingAsm)
  | ambientSoundMode (param : NcasmParamAsm)
  deriving DecidableEq, Repr

def NcasmRetParam.inquiredType : NcasmRetParam → NcasmInquiredType
  | .noiseCancelling _ => .noiseCancelling
  | .noiseCancellingAsm _ => .noiseCancellingAndAsm
  | .ambientSoundMode _ => .asm

/-! ## Parsing -/

def parseNcasmGetParam : Parse NcasmGetParam := do
  let inquiredType ← Parse.enum
  return { inquiredType }

def parseNcasmParamNoiseCancelling : Parse NcasmParamNoiseCancelling := do
  let ncSettingType ← Parse.enum
  let ncSettingValue ← Parse.enum
  return { ncSettingType, ncSettingValue }

def parseNcasmParamNoiseCancellingAsm : Parse NcasmParamNoiseCancellingAsm := do
  let ncasmEffect ← Parse.enum
  let ncasmSettingType ← Parse.enum
  let ncasmAmount ← Parse.byte
  let asmSettingType ← Parse.enum
  let asmId ← Parse.enum
  let asmAmount ← Parse.byte
  return { ncasmEffect, ncasmSettingType, ncasmAmount, asmSettingType, asmId, asmAmount }

def parseNcasmParamAsm : Parse NcasmParamAsm := do
  let ncasmEffect ← Parse.enum
  let asmSettingType ← Parse.enum
  let asmId ← Parse.enum
  let asmAmount ← Parse.byte
  return { ncasmEffect, asmSettingType, asmId, asmAmount }

/-- The RET, SET and NTFY branch of `mdr_packet_ncasm_from_frame`. -/
def parseNcasmRetParam : Parse NcasmRetParam := do
  match ← (Parse.enum : Parse NcasmInquiredType) with
  | .noiseCancelling => return .noiseCancelling (← parseNcasmParamNoiseCancelling)
  | .noiseCancellingAndAsm => return .noiseCancellingAsm (← parseNcasmParamNoiseCancellingAsm)
  | .asm => return .ambientSoundMode (← parseNcasmParamAsm)

/-! ## Writing -/

def writeNcasmGetParam (packet : NcasmGetParam) : Option (List Layout) :=
  some [⟨1, [ByteEnum.byte packet.inquiredType]⟩]

/-- The RET, SET and NTFY branch of `mdr_packet_ncasm_to_frame`. For ambient
sound the last byte written is the ASM id once more, not the amount. -/
def writeNcasmRetParam (packet : NcasmRetParam) : Option (List Layout) :=
  let inquiredType := ByteEnum.byte packet.inquiredType
  match packet with
  | .noiseCancelling param =>
    some [⟨3, [inquiredType, ByteEnum.byte param.ncSettingType, ByteEnum.byte param.ncSettingValue]⟩]
  | .noiseCancellingAsm param =>
    some [⟨7, [inquiredType, ByteEnum.byte param.ncasmEffect, ByteEnum.byte param.ncasmSettingType,
      param.ncasmAmount, ByteEnum.byte param.asmSettingType, ByteEnum.byte param.asmId,
      param.asmAmount]⟩]
  | .ambientSoundMode param =>
    some [⟨5, [inquiredType, ByteEnum.byte param.ncasmEffect, ByteEnum.byte param.asmSettingType,
      ByteEnum.byte param.asmId, ByteEnum.byte param.asmId]⟩]

end Libmdr
