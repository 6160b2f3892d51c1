import Libmdr.Packet.Packet

/-!
# Well-formed packets

What a packet promises to whoever reads it: every count or length is the number of
elements of the array or string it describes, at every level. The enumerated fields
have the declared values for types, so there is nothing to say about them; only
`fixed_value` is kept as a byte, and the one value declared for it is 0.
-/

namespace Libmdr
set_option autoImplicit false

/-! ## Counts at the levels of one family -/

def DeviceInfoString.CountsMatch (string : DeviceInfoString) : Prop :=
  string.string.length = string.len.toNat

def DeviceInfoInstructionGuide.CountsMatch (guide : DeviceInfoInstructionGuide) : Prop :=
  guide.guidanceCategories.length = guide.numGuidanceCategories.toNat

def ConnectRetDeviceInfo.CountsMatch : ConnectRetDeviceInfo → Prop
  | .modelName name => name.CountsMatch
  | .fwVersion version => version.CountsMatch
  | .seriesAndColor _ => True
  | .instructionGuide guide => guide.CountsMatch

def ConnectRetSupportFunction.CountsMatch (packet : ConnectRetSupportFunction) : Prop :=
  packet.functionTypes.length = packet.numFunctionTypes.toNat

def EqebbCapabilityEqPresetName.CountsMatch (preset : EqebbCapabilityEqPresetName) : Prop :=
  preset.name.length = preset.nameLen.toNat

def EqebbCapabilityEq.CountsMatch (eq : EqebbCapabilityEq) : Prop :=
  eq.presets.length = eq.numPresets.toNat ∧ ∀ preset ∈ eq.presets, preset.CountsMatch

def EqebbRetCapability.CountsMatch : EqebbRetCapability → Prop
  | .presetEq eq => eq.CountsMatch
  | .ebb _ => True
  | .presetEqNoncustomizable eq => eq.CountsMatch

def EqebbParamEq.CountsMatch (eq : EqebbParamEq) : Prop :=
  eq.levels.length = eq.numLevels.toNat

def EqebbRetParam.CountsMatch : EqebbRetParam → Prop
  | .presetEq eq => eq.CountsMatch
  | .ebb _ => True
  | .presetEqNoncustomizable eq => eq.CountsMatch

def PlayPlaybackString.CountsMatch (string : PlayPlaybackString) : Prop :=
  string.data.length = string.len.toNat

def PlayValue.CountsMatch : PlayValue → Prop
  | .trackName string | .albumName string | .artistName string | .genreName string
  | .playerName string => string.CountsMatch
  | .volume _ => True

/-- A name of the playback has at most the 128 bytes that a decoder takes. -/
def PlayValue.StringsFit : PlayValue → Prop
  | .trackName string | .albumName string | .artistName string | .genreName string
  | .playerName string => string.len.toNat ≤ 128
  | .volume _ => True

def SystemCapabilityAutoPowerOff.CountsMatch (capability : SystemCapabilityAutoPowerOff) : Prop :=
  capability.elementIds.length = capability.elementIdCount.toNat

def SystemAssignableSettingsCapabilityPreset.CountsMatch
    (preset : SystemAssignableSettingsCapabilityPreset) : Prop :=
  preset.capabilityActions.length = preset.numCapabilityActions.toNat

def SystemAssignableSettingsCapabilityKey.CountsMatch
    (key : SystemAssignableSettingsCapabilityKey) : Prop :=
  key.capabilityPresets.length = key.numCapabilityPresets.toNat ∧
    ∀ preset ∈ key.capabilityPresets, preset.CountsMatch

def SystemCapabilityAssignableSettings.CountsMatch
    (capability : SystemCapabilityAssignableSettings) : Prop :=
  capability.capabilityKeys.length = capability.numCapabilityKeys.toNat ∧
    ∀ key ∈ capability.capabilityKeys, key.CountsMatch

def SystemRetCapability.CountsMatch : SystemRetCapability → Prop
  | .autoPowerOff capability => capability.CountsMatch
  | .assignableSettings capability => capability.CountsMatch
  | .vibrator _ | .powerSavingMode _ | .controlByWearing _ | .smartTalkingMode _ => True

def SystemParamAssignableSettings.CountsMatch (param : SystemParamAssignableSettings) : Prop :=
  param.presets.length = param.numPresets.toNat

def SystemRetParam.CountsMatch : SystemRetParam → Prop
  | .assignableSettings param => param.CountsMatch
  | .vibrator _ | .powerSavingMode _ | .controlByWearing _ | .autoPowerOff _
  | .smartTalkingMode _ => True

/-! ## Packets -/

namespace Packet

/-- Every count or length is the number of elements stored, at every level. -/
def CountsMatch : Packet → Prop
  | .connectRetDeviceInfo data => data.CountsMatch
  | .connectRetSupportFunction data => data.CountsMatch
  | .eqebbRetCapability data => data.CountsMatch
  | .eqebbRetParam data | .eqebbSetParam data | .eqebbNtfyParam data => data.CountsMatch
  | .playRetParam data | .playSetParam data | .playNtfyParam data => data.value.CountsMatch
  | .systemRetCapability data => data.CountsMatch
  | .systemRetParam data | .systemSetParam data | .systemNtfyParam data => data.CountsMatch
  | .connectGetProtocolInfo _ | .connectRetProtocolInfo _ | .connectGetDeviceInfo _
  | .connectGetSupportFunction _ | .commonGetBatteryLevel _ | .commonRetBatteryLevel _
  | .commonNtfyBatteryLevel _ | .commonSetPowerOff _ | .commonGetConnectionStatus _
  | .commonRetConnectionStatus _ | .commonNtfyConnectionStatus _ | .eqebbGetCapability _
  | .eqebbGetParam _ | .ncasmGetParam _ | .ncasmRetParam _ | .ncasmSetParam _
  | .ncasmNtfyParam _ | .playGetParam _ | .systemGetCapability _ | .systemGetParam _ => True

/-- `fixed_value` is 0 wherever there is one. -/
def FixedValue : Packet → Prop
  | .connectGetProtocolInfo data => data.fixedValue = 0
  | .connectRetProtocolInfo data => data.fixedValue = 0
  | .connectGetSupportFunction data => data.fixedValue = 0
  | .connectRetSupportFunction data => data.fixedValue = 0
  | _ => True

/-- A string has at most the 128 bytes that a decoder takes. -/
def StringsFit : Packet → Prop
  | .connectRetDeviceInfo (.modelName name) | .connectRetDeviceInfo (.fwVersion name) =>
    name.len.toNat ≤ 128
  | .playRetParam data | .playSetParam data | .playNtfyParam data => data.value.StringsFit
  | _ => True

/-- A well-formed packet. -/
structure WellFormed (packet : Packet) : Prop where
  counts : packet.CountsMatch
  fixedValue : packet.FixedValue

end Packet

end Libmdr
