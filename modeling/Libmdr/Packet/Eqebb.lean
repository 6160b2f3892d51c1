import Libmdr.Packet.Codec

/-!
# EQEBB packets

The equalizer and the electro bass booster (`include/mdr/packet/eqebb.h`,
`src/packet/eqebb.h`).
-/

namespace Libmdr
set_option autoImplicit false

/-- `mdr_packet_eqebb_inquired_type_t`. -/
inductive EqebbInquiredType
  | presetEq | ebb | presetEqNoncustomizable
  deriving DecidableEq, Repr

instance : ByteEnum EqebbInquiredType where
  byte
    | .presetEq => 0x01
    | .ebb => 0x02
    | .presetEqNoncustomizable => 0x03
  values := [.presetEq, .ebb, .presetEqNoncustomizable]
  complete value := by cases value <;> decide
  nodup := by decide

/-- `mdr_packet_eqebb_display_language_t`. -/
inductive EqebbDisplayLanguage
  | undefinedLanguage | english | french | german | spanish | italian | portuguese | dutch
  | swedish | finnish | russian | japanese | simplifiedChinese | brazilianPortuguese
  | traditionalChinese | korean | turkish | chinese
  deriving DecidableEq, Repr

instance : ByteEnum EqebbDisplayLanguage where
  byte
    | .undefinedLanguage => 0x00
    | .english => 0x01
    | .french => 0x02
    | .german => 0x03
    | .spanish => 0x04
    | .italian => 0x05
    | .portuguese => 0x06
    | .dutch => 0x07
    | .swedish => 0x08
    | .finnish => 0x09
    | .russian => 0x0a
    | .japanese => 0x0b
    | .simplifiedChinese => 0x0c
    | .brazilianPortuguese => 0x0d
    | .traditionalChinese => 0x0e
    | .korean => 0x0f
    | .turkish => 0x10
    | .chinese => 0xf0
  values := [.undefinedLanguage, .english, .french, .german, .spanish, .italian, .portuguese,
    .dutch, .swedish, .finnish, .russian, .japanese, .simplifiedChinese, .brazilianPortuguese,
    .traditionalChinese, .korean, .turkish, .chinese]
  complete value := by cases value <;> decide
  nodup := by decide

/-- `mdr_packet_eqebb_eq_preset_id_t`. -/
inductive EqebbEqPresetId
  | off | rock | pop | jazz | dance | edm | rAndBHipHop | acoustic | reservedForFutureNo8
  | reservedForFutureNo9 | reservedForFutureNo10 | reservedForFutureNo11 | reservedForFutureNo12
  | reservedForFutureNo13 | reservedForFutureNo14 | reservedForFutureNo15 | bright | excited
  | mellow | relaxed | vocal | treble | bass | speech | reservedForFutureNo24
  | reservedForFutureNo25 | reservedForFutureNo26 | reservedForFutureNo27 | reservedForFutureNo28
  | reservedForFutureNo29 | reservedForFutureNo30 | reservedForFutureNo31 | custom | userSetting1
  | userSetting2 | userSetting3 | userSetting4 | userSetting5 | unspecified
  deriving DecidableEq, Repr

instance : ByteEnum EqebbEqPresetId where
  byte
    | .off => 0x00
    | .rock => 0x01
    | .pop => 0x02
    | .jazz => 0x03
    | .dance => 0x04
    | .edm => 0x05
    | .rAndBHipHop => 0x06
    | .acoustic => 0x07
    | .reservedForFutureNo8 => 0x08
    | .reservedForFutureNo9 => 0x09
    | .reservedForFutureNo10 => 0x0a
    | .reservedForFutureNo11 => 0x0b
    | .reservedForFutureNo12 => 0x0c
    | .reservedForFutureNo13 => 0x0d
    | .reservedForFutureNo14 => 0x0e
    | .reservedForFutureNo15 => 0x0f
    | .bright => 0x10
    | .excited => 0x11
    | .mellow => 0x12
    | .relaxed => 0x13
    | .vocal => 0x14
    | .treble => 0x15
    | .bass => 0x16
    | .speech => 0x17
    | .reservedForFutureNo24 => 0x18
    | .reservedForFutureNo25 => 0x19
    | .reservedForFutureNo26 => 0x1a
    | .reservedForFutureNo27 => 0x1b
    | .reservedForFutureNo28 => 0x1c
    | .reservedForFutureNo29 => 0x1d
    | .reservedForFutureNo30 => 0x1e
    | .reservedForFutureNo31 => 0x1f
    | .custom => 0xa0
    | .userSetting1 => 0xa1
    | .userSetting2 => 0xa2
    | .userSetting3 => 0xa3
    | .userSetting4 => 0xa4
    | .userSetting5 => 0xa5
    | .unspecified => 0xff
  values := [.off, .rock, .pop, .jazz, .dance, .edm, .rAndBHipHop, .acoustic,
    .reservedForFutureNo8, .reservedForFutureNo9, .reservedForFutureNo10, .reservedForFutureNo11,
    .reservedForFutureNo12, .reservedForFutureNo13, .reservedForFutureNo14,
    .reservedForFutureNo15, .bright, .excited, .mellow, .relaxed, .vocal, .treble, .bass, .speech,
    .reservedForFutureNo24, .reservedForFutureNo25, .reservedForFutureNo26,
    .reservedForFutureNo27, .reservedForFutureNo28, .reservedForFutureNo29,
    .reservedForFutureNo30, .reservedForFutureNo31, .custom, .userSetting1, .userSetting2,
    .userSetting3, .userSetting4, .userSetting5, .unspecified]
  complete value := by cases value <;> decide
  nodup := by decide

/-- `mdr_packet_eqebb_capability_eq_preset_name_t`. -/
structure EqebbCapabilityEqPresetName where
  presetId : EqebbEqPresetId
  nameLen : UInt8
  name : List UInt8
  deriving DecidableEq, Repr

/-- `mdr_packet_eqebb_capability_eq_t`. -/
structure EqebbCapabilityEq where
  bandCount : UInt8
  levelSteps : UInt8
  numPresets : UInt8
  presets : List EqebbCapabilityEqPresetName
  deriving DecidableEq, Repr

/-- `mdr_packet_eqebb_capability_ebb_t`. -/
structure EqebbCapabilityEbb where
  minLevel : UInt8
  maxLevel : UInt8
  deriving DecidableEq, Repr

/-- `mdr_packet_eqebb_param_eq_t`. -/
structure EqebbParamEq where
  presetId : EqebbEqPresetId
  numLevels : UInt8
  levels : List UInt8
  deriving DecidableEq, Repr

/-- `mdr_packet_eqebb_param_ebb_t`. -/
structure EqebbParamEbb where
  level : UInt8
  deriving DecidableEq, Repr

/-- `mdr_packet_eqebb_get_capability_t`. -/
structure EqebbGetCapability where
  inquiredType : EqebbInquiredType
  displayLanguage : EqebbDisplayLanguage
  deriving DecidableEq, Repr

/-- `mdr_packet_eqebb_ret_capability_t`: the inquired type selects the member of
the union, `eq` for two of them. -/
inductive EqebbRetCapability
  | presetEq (eq : EqebbCapabilityEq)
  | ebb (ebb : EqebbCapabilityEbb)
  | presetEqNoncustomizable (eq : EqebbCapabilityEq)
  deriving DecidableEq, Repr

def EqebbRetCapability.inquiredType : EqebbRetCapability → EqebbInquiredType
  | .presetEq _ => .presetEq
  | .ebb _ => .ebb
  | .presetEqNoncustomizable _ => .presetEqNoncustomizable

/-- `mdr_packet_eqebb_get_param_t`. -/
structure EqebbGetParam where
  inquiredType : EqebbInquiredType
  deriving DecidableEq, Repr

/-- `mdr_packet_eqebb_ret_param_t`, also for SET and NTFY. -/
inductive EqebbRetParam
  | presetEq (eq : EqebbParamEq)
  | ebb (ebb : EqebbParamEbb)
  | presetEqNoncustomizable (eq : EqebbParamEq)
  deriving DecidableEq, Repr

def EqebbRetParam.inquiredType : EqebbRetParam → EqebbInquiredType
  | .presetEq _ => .presetEq
  | .ebb _ => .ebb
  | .presetEqNoncustomizable _ => .presetEqNoncustomizable

/-! ## Parsing -/

def parseEqebbGetCapability : Parse EqebbGetCapability := do
  let inquiredType ← Parse.enum
  let displayLanguage ← Parse.enum
  return { inquiredType, displayLanguage }

def parseEqebbCapabilityEqPresetName : Parse EqebbCapabilityEqPresetName := do
  let presetId ← Parse.enum
  let nameLen ← Parse.byte
  let name ← Parse.bytes nameLen
  return { presetId, nameLen, name }

def parseEqebbCapabilityEq : Parse EqebbCapabilityEq := do
  let bandCount ← Parse.byte
  let levelSteps ← Parse.byte
  let numPresets ← Parse.byte
  let presets ← Parse.forEach numPresets parseEqebbCapabilityEqPresetName
  return { bandCount, levelSteps, numPresets, presets }

def parseEqebbCapabilityEbb : Parse EqebbCapabilityEbb := do
  let minLevel ← Parse.byte
  let maxLevel ← Parse.byte
  return { minLevel, maxLevel }

/-- The RET_CAPABILITY branch of `mdr_packet_eqebb_from_frame`. -/
def parseEqebbRetCapability : Parse EqebbRetCapability := do
  match ← (Parse.enum : Parse EqebbInquiredType) with
  | .presetEq => return .presetEq (← parseEqebbCapabilityEq)
  | .presetEqNoncustomizable => return .presetEqNoncustomizable (← parseEqebbCapabilityEq)
  | .ebb => return .ebb (← parseEqebbCapabilityEbb)

def parseEqebbGetParam : Parse EqebbGetParam := do
  let inquiredType ← Parse.enum
  return { inquiredType }

def parseEqebbParamEq : Parse EqebbParamEq := do
  let presetId ← Parse.enum
  let numLevels ← Parse.byte
  let levels ← Parse.bytes numLevels
  return { presetId, numLevels, levels }

/-- The RET, SET and NTFY_PARAM branch of `mdr_packet_eqebb_from_frame`. -/
def parseEqebbRetParam : Parse EqebbRetParam := do
  match ← (Parse.enum : Parse EqebbInquiredType) with
  | .presetEq => return .presetEq (← parseEqebbParamEq)
  | .presetEqNoncustomizable => return .presetEqNoncustomizable (← parseEqebbParamEq)
  | .ebb => return .ebb { level := ← Parse.byte }

/-! ## Writing -/

def writeEqebbGetCapability (packet : EqebbGetCapability) : Option (List Layout) :=
  some [⟨2, [ByteEnum.byte packet.inquiredType, ByteEnum.byte packet.displayLanguage]⟩]

def writeEqebbCapabilityEqPresetName (preset : EqebbCapabilityEqPresetName) :
    Option (List UInt8) := do
  let name ← counted preset.nameLen preset.name
  return [ByteEnum.byte preset.presetId, preset.nameLen] ++ name

/-- The equalizer's capability: `length` is added up over the presets first. -/
def writeEqebbCapabilityEq (inquiredType : UInt8) (eq : EqebbCapabilityEq) :
    Option (List Layout) := do
  let presets ← counted eq.numPresets eq.presets
  let length := 4 + (presets.map fun preset => 2 + preset.nameLen.toNat).sum
  let names ← presets.mapM writeEqebbCapabilityEqPresetName
  return [⟨length, [inquiredType, eq.bandCount, eq.levelSteps, eq.numPresets] ++ names.flatten⟩]

/-- The RET_CAPABILITY branch of `mdr_packet_eqebb_to_frame`. -/
def writeEqebbRetCapability (packet : EqebbRetCapability) : Option (List Layout) :=
  let inquiredType := ByteEnum.byte packet.inquiredType
  match packet with
  | .presetEq eq | .presetEqNoncustomizable eq => writeEqebbCapabilityEq inquiredType eq
  | .ebb ebb => some [⟨3, [inquiredType, ebb.minLevel, ebb.maxLevel]⟩]

def writeEqebbGetParam (packet : EqebbGetParam) : Option (List Layout) :=
  some [⟨1, [ByteEnum.byte packet.inquiredType]⟩]

/-- The RET, SET and NTFY_PARAM branch of `mdr_packet_eqebb_to_frame`. -/
def writeEqebbRetParam (packet : EqebbRetParam) : Option (List Layout) :=
  let inquiredType := ByteEnum.byte packet.inquiredType
  match packet with
  | .presetEq eq | .presetEqNoncustomizable eq => do
    let levels ← counted eq.numLevels eq.levels
    return [⟨3 + eq.numLevels.toNat,
      [inquiredType, ByteEnum.byte eq.presetId, eq.numLevels] ++ levels⟩]
  | .ebb ebb => some [⟨2, [inquiredType, ebb.level]⟩]

end Libmdr
