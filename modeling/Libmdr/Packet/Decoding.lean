import Libmdr.Packet.Encoding
import Libmdr.Packet.Reading

/-!
# Decoding packets

What each parser of the six families reads and returns. Every access of
`mdr_packet_from_frame` stays in the payload, and the packet it returns has counts
that match, but for one case: `mdr_packet_connect_from_frame` keeps the announced
length of a model name or firmware version and stores at most 128 bytes of it.
-/

namespace Libmdr
set_option autoImplicit false

open Parse

/-! ## CONNECT -/

theorem parseConnectGetProtocolInfo_reads :
    Reads parseConnectGetProtocolInfo 1 fun _ packet => packet.fixedValue = 0 := by
  refine .one .fixedValue ?_
  rintro value _ ⟨-, isZero⟩
  exact .pure isZero

theorem parseConnectRetProtocolInfo_reads :
    Reads parseConnectRetProtocolInfo 3 fun _ packet => packet.fixedValue = 0 := by
  refine .one .fixedValue ?_
  rintro value _ ⟨-, isZero⟩
  exact .one .byte fun _ _ _ => .one .byte fun _ _ _ => .pure isZero

theorem parseConnectGetDeviceInfo_reads : Reads parseConnectGetDeviceInfo 1 fun _ _ => True :=
  .one .enum fun _ _ _ => .pure trivial

/-- The string is cut at 128 bytes, the length is not. -/
theorem parseDeviceInfoString_reads :
    Reads parseDeviceInfoString 256 fun taken string =>
      taken = string.len :: string.string ∧ string.string.length = min 128 string.len.toNat := by
  refine .one .byte ?_
  rintro len _ rfl
  refine .bind (by omega) .alloc ?_
  rintro _ _ rfl
  have cut : (if 128 < len then 128 else len).toNat = min 128 len.toNat := by
    split
    next long =>
      rw [UInt8.lt_iff_toNat_lt] at long
      exact (Nat.min_eq_left (Nat.le_of_lt long)).symm
    next short =>
      rw [UInt8.lt_iff_toNat_lt] at short
      exact (Nat.min_eq_right (Nat.le_of_not_lt short)).symm
  refine .bind (by omega) (.bytes (if 128 < len then 128 else len)) ?_
  rintro value _ ⟨rfl, length⟩
  apply Reads.pure
  exact ⟨by simp, length.trans cut⟩

theorem parseDeviceInfoSeriesAndColor_reads :
    Reads parseDeviceInfoSeriesAndColor 2 fun taken _ => taken.length = 2 := by
  refine .one .enum ?_
  rintro series _ rfl
  refine .one .enum ?_
  rintro color _ rfl
  exact .pure rfl

theorem parseDeviceInfoInstructionGuide_reads :
    Reads parseDeviceInfoInstructionGuide 256 fun taken guide =>
      1 ≤ taken.length ∧ guide.CountsMatch := by
  refine .one .byte ?_
  rintro count _ rfl
  refine .bind (by omega) (.forEach .enum count) ?_
  rintro categories _ ⟨length, -⟩
  exact .pure ⟨Nat.le_add_left _ _, length⟩

/-- The bytes behind the type announce a model name or firmware version of more than 128
bytes. -/
def AnnouncesLongName (taken : List UInt8) : Prop :=
  ∃ inquired len rest, taken = ByteEnum.byte inquired :: len :: rest ∧
    (inquired = DeviceInfoInquiredType.modelName ∨ inquired = .fwVersion) ∧ 128 < len.toNat

theorem AnnouncesLongName.inquired {inquired : DeviceInfoInquiredType} {rest : List UInt8}
    (long : AnnouncesLongName (ByteEnum.byte inquired :: rest)) :
    inquired = .modelName ∨ inquired = .fwVersion := by
  obtain ⟨same, _, _, isTaken, isString, -⟩ := long
  rw [ByteEnum.byte_injective (List.cons.inj isTaken).1]
  exact isString

/-- A string that was cut has not the length it announces. -/
theorem DeviceInfoString.countsMatch_iff {inquired : DeviceInfoInquiredType}
    (isString : inquired = .modelName ∨ inquired = .fwVersion) {name : DeviceInfoString}
    (length : name.string.length = min 128 name.len.toNat) :
    name.CountsMatch ↔
      ¬ AnnouncesLongName (ByteEnum.byte inquired :: name.len :: name.string) := by
  have long : AnnouncesLongName (ByteEnum.byte inquired :: name.len :: name.string)
      ↔ 128 < name.len.toNat := by
    constructor
    · rintro ⟨_, len, _, isTaken, -, long⟩
      obtain ⟨rfl, -⟩ := List.cons.inj (List.cons.inj isTaken).2
      exact long
    · intro long
      exact ⟨inquired, name.len, name.string, rfl, isString, long⟩
  rw [long, CountsMatch, length]
  omega

theorem parseConnectRetDeviceInfo_reads :
    Reads parseConnectRetDeviceInfo 257 fun taken info =>
      2 ≤ taken.length ∧ (info.CountsMatch ↔ ¬ AnnouncesLongName taken) := by
  refine .one .enum ?_
  rintro inquired _ rfl
  cases inquired with
  | modelName | fwVersion =>
    refine .map (by omega) parseDeviceInfoString_reads ?_
    rintro _ string ⟨rfl, length⟩
    exact ⟨Nat.le_add_left _ _, DeviceInfoString.countsMatch_iff (by simp) length⟩
  | seriesAndColor =>
    refine .map (by omega) parseDeviceInfoSeriesAndColor_reads ?_
    intro taken info length
    refine ⟨?_, fun _ long => ?_, fun _ => trivial⟩
    · rw [List.length_append, length]
      decide
    · rcases long.inquired with isName | isVersion
      · cases isName
      · cases isVersion
  | instructionGuide =>
    refine .map (by omega) parseDeviceInfoInstructionGuide_reads ?_
    rintro taken guide ⟨length, counts⟩
    refine ⟨?_, fun _ long => ?_, fun _ => counts⟩
    · rw [List.length_append, List.length_singleton]
      omega
    · rcases long.inquired with isName | isVersion
      · cases isName
      · cases isVersion

theorem parseConnectGetSupportFunction_reads :
    Reads parseConnectGetSupportFunction 1 fun _ packet => packet.fixedValue = 0 := by
  refine .one .fixedValue ?_
  rintro value _ ⟨-, isZero⟩
  exact .pure isZero

theorem parseConnectRetSupportFunction_reads :
    Reads parseConnectRetSupportFunction 257 fun _ packet =>
      packet.fixedValue = 0 ∧ packet.CountsMatch := by
  refine .one .fixedValue ?_
  rintro value _ ⟨-, isZero⟩
  refine .one .byte fun count _ _ => .bind (by omega) (.forEach .enum count) ?_
  rintro types _ ⟨length, -⟩
  exact .pure ⟨isZero, length⟩

/-! ## COMMON -/

theorem parseCommonGetBatteryLevel_reads : Reads parseCommonGetBatteryLevel 1 fun _ _ => True :=
  .one .enum fun _ _ _ => .pure trivial

theorem parseBatteryStatus_reads :
    Reads parseBatteryStatus 2 fun taken status => taken = status.encoded := by
  refine .one .byte ?_
  rintro level _ rfl
  refine .one .byte ?_
  rintro charging _ rfl
  exact .pure rfl

/-- The decoder expects the inquired type in front of the levels. -/
theorem parseCommonRetBatteryLevel_reads :
    Reads parseCommonRetBatteryLevel 5 fun taken packet =>
      taken = ByteEnum.byte packet.inquiredType :: packet.encoded := by
  refine .one .enum ?_
  rintro inquired _ rfl
  cases inquired with
  | battery | cradleBattery =>
    refine .map (by omega) parseBatteryStatus_reads ?_
    rintro _ status rfl
    rfl
  | leftRightBattery =>
    refine .bind (by omega) parseBatteryStatus_reads ?_
    rintro left _ rfl
    refine .map (by omega) parseBatteryStatus_reads ?_
    rintro _ right rfl
    rfl

theorem parseCommonSetPowerOff_reads : Reads parseCommonSetPowerOff 2 fun _ _ => True :=
  .one .enum fun _ _ _ => .one .enum fun _ _ _ => .pure trivial

theorem parseCommonGetConnectionStatus_reads :
    Reads parseCommonGetConnectionStatus 1 fun _ _ => True :=
  .one .enum fun _ _ _ => .pure trivial

theorem parseCommonRetConnectionStatus_reads :
    Reads parseCommonRetConnectionStatus 3 fun _ _ => True := by
  refine .one .enum ?_
  intro inquired _ _
  cases inquired
  exact .one .enum fun _ _ _ => .one .enum fun _ _ _ => .pure trivial

/-! ## EQEBB: what is read is what the encoder would write -/

theorem parseEqebbGetCapability_reads :
    Reads parseEqebbGetCapability 2 fun taken packet =>
      writeEqebbGetCapability packet = some [⟨taken.length, taken⟩] := by
  refine .one .enum ?_
  rintro inquired _ rfl
  refine .one .enum ?_
  rintro language _ rfl
  exact .pure rfl

theorem parseEqebbCapabilityEqPresetName_reads :
    Reads parseEqebbCapabilityEqPresetName 257 fun taken preset =>
      preset.CountsMatch ∧ writeEqebbCapabilityEqPresetName preset = some taken := by
  refine .one .enum ?_
  rintro presetId _ rfl
  refine .one .byte ?_
  rintro nameLen _ rfl
  refine .bind (by omega) (.bytes nameLen) ?_
  rintro name _ ⟨rfl, length⟩
  apply Reads.pure
  refine ⟨length, ?_⟩
  rw [writeEqebbCapabilityEqPresetName, counted_of_length length, List.append_nil]
  rfl

/-- `taken` is what follows the inquired type. -/
theorem parseEqebbCapabilityEq_reads :
    Reads parseEqebbCapabilityEq (3 + 255 * 257) fun taken eq => eq.CountsMatch ∧
      ∀ inquiredType, writeEqebbCapabilityEq inquiredType eq
        = some [⟨1 + taken.length, inquiredType :: taken⟩] := by
  refine .one .byte ?_
  rintro bandCount _ rfl
  refine .one .byte ?_
  rintro levelSteps _ rfl
  refine .one .byte ?_
  rintro numPresets _ rfl
  refine .bind (by omega) (.forEach parseEqebbCapabilityEqPresetName_reads numPresets) ?_
  rintro _ _ ⟨length, items, rfl, rfl, isEach⟩
  apply Reads.pure
  refine ⟨⟨length, ?_⟩, ?_⟩
  · intro preset isIn
    obtain ⟨item, isItem, rfl⟩ := List.mem_map.mp isIn
    exact (isEach item isItem).1
  · intro inquiredType
    have written : (items.map Prod.snd).mapM writeEqebbCapabilityEqPresetName
        = some (items.map Prod.fst) := by
      rw [List.mapM_map]
      exact Pieces.mapM_of_forall fun item isItem => (isEach item isItem).2
    have sizes := Pieces.length_flatten_map written fun _ _ =>
      writeEqebbCapabilityEqPresetName_length
    rw [writeEqebbCapabilityEq, counted_of_length length]
    have size : ∀ rest : List UInt8,
        1 + ([bandCount] ++ ([levelSteps] ++ ([numPresets] ++ rest))).length = 4 + rest.length := by
      intro rest
      simp only [List.length_append, List.length_singleton]
      omega
    simp only [Option.bind_eq_bind, Option.bind_some, written, ← sizes, List.flatMap_def]
    rw [List.append_nil, size]
    rfl

theorem parseEqebbCapabilityEbb_reads :
    Reads parseEqebbCapabilityEbb 2 fun taken ebb => taken = [ebb.minLevel, ebb.maxLevel] := by
  refine .one .byte ?_
  rintro minLevel _ rfl
  refine .one .byte ?_
  rintro maxLevel _ rfl
  exact .pure rfl

theorem parseEqebbRetCapability_reads :
    Reads parseEqebbRetCapability (2 ^ 17) fun taken packet => packet.CountsMatch ∧
      writeEqebbRetCapability packet = some [⟨taken.length, taken⟩] := by
  refine .one .enum ?_
  rintro inquired _ rfl
  cases inquired with
  | presetEq | presetEqNoncustomizable =>
    refine .map (by omega) parseEqebbCapabilityEq_reads ?_
    rintro taken eq ⟨counts, written⟩
    rw [List.length_append]
    exact ⟨counts, written _⟩
  | ebb =>
    refine .map (by omega) parseEqebbCapabilityEbb_reads ?_
    rintro _ ebb rfl
    exact ⟨trivial, rfl⟩

theorem parseEqebbGetParam_reads :
    Reads parseEqebbGetParam 1 fun taken packet =>
      writeEqebbGetParam packet = some [⟨taken.length, taken⟩] := by
  refine .one .enum ?_
  rintro inquired _ rfl
  exact .pure rfl

theorem parseEqebbParamEq_reads :
    Reads parseEqebbParamEq 257 fun taken eq => eq.CountsMatch ∧
      taken = ByteEnum.byte eq.presetId :: eq.numLevels :: eq.levels := by
  refine .one .enum ?_
  rintro presetId _ rfl
  refine .one .byte ?_
  rintro numLevels _ rfl
  refine .bind (by omega) (.bytes numLevels) ?_
  rintro levels _ ⟨rfl, length⟩
  apply Reads.pure
  rw [List.append_nil]
  exact ⟨length, rfl⟩

theorem parseEqebbRetParam_reads :
    Reads parseEqebbRetParam 258 fun taken packet => packet.CountsMatch ∧
      writeEqebbRetParam packet = some [⟨taken.length, taken⟩] := by
  have ofEq : ∀ inquiredType (eq : EqebbParamEq), eq.CountsMatch →
      ((counted eq.numLevels eq.levels).bind fun levels => some [(⟨3 + eq.numLevels.toNat,
        [inquiredType, ByteEnum.byte eq.presetId, eq.numLevels] ++ levels⟩ : Layout)])
      = some [⟨([inquiredType] ++ ByteEnum.byte eq.presetId :: eq.numLevels :: eq.levels).length,
          [inquiredType] ++ ByteEnum.byte eq.presetId :: eq.numLevels :: eq.levels⟩] := by
    intro inquiredType eq counts
    have size : ([inquiredType] ++ ByteEnum.byte eq.presetId :: eq.numLevels :: eq.levels).length
        = 3 + eq.numLevels.toNat := by
      rw [← counts]
      simp only [List.length_append, List.length_cons, List.length_nil]
      omega
    rw [counted_of_length counts, size]
    rfl
  refine .one .enum ?_
  rintro inquired _ rfl
  cases inquired with
  | presetEq | presetEqNoncustomizable =>
    refine .map (by omega) parseEqebbParamEq_reads ?_
    rintro _ eq ⟨counts, rfl⟩
    exact ⟨counts, ofEq _ eq counts⟩
  | ebb =>
    refine .one .byte ?_
    rintro level _ rfl
    exact .pure ⟨trivial, rfl⟩

/-! ## NCASM -/

theorem parseNcasmGetParam_reads : Reads parseNcasmGetParam 1 fun _ _ => True :=
  .one .enum fun _ _ _ => .pure trivial

theorem parseNcasmParamNoiseCancelling_reads :
    Reads parseNcasmParamNoiseCancelling 2 fun _ _ => True :=
  .one .enum fun _ _ _ => .one .enum fun _ _ _ => .pure trivial

theorem parseNcasmParamNoiseCancellingAsm_reads :
    Reads parseNcasmParamNoiseCancellingAsm 6 fun _ _ => True :=
  .one .enum fun _ _ _ => .one .enum fun _ _ _ => .one .byte fun _ _ _ =>
    .one .enum fun _ _ _ => .one .enum fun _ _ _ => .one .byte fun _ _ _ => .pure trivial

theorem parseNcasmParamAsm_reads : Reads parseNcasmParamAsm 4 fun _ _ => True :=
  .one .enum fun _ _ _ => .one .enum fun _ _ _ => .one .enum fun _ _ _ =>
    .one .byte fun _ _ _ => .pure trivial

theorem parseNcasmRetParam_reads : Reads parseNcasmRetParam 7 fun _ _ => True := by
  refine .one .enum ?_
  intro inquired _ _
  cases inquired with
  | noiseCancelling =>
    exact .map (by omega) parseNcasmParamNoiseCancelling_reads fun _ _ _ => trivial
  | noiseCancellingAndAsm =>
    exact .map (by omega) parseNcasmParamNoiseCancellingAsm_reads fun _ _ _ => trivial
  | asm => exact .map (by omega) parseNcasmParamAsm_reads fun _ _ _ => trivial

/-! ## PLAY -/

theorem parsePlayGetParam_reads : Reads parsePlayGetParam 2 fun _ _ => True :=
  .one .enum fun _ _ _ => .one .enum fun _ _ _ => .pure trivial

/-- Here the length is cut together with the string. -/
theorem parsePlayPlaybackString_reads :
    Reads parsePlayPlaybackString 257 fun _ string =>
      string.CountsMatch ∧ string.len.toNat ≤ 128 := by
  refine .one .enum fun status _ _ => .one .byte fun announced _ _ => .bind (by omega) (.bytes _) ?_
  rintro data _ ⟨-, length⟩
  refine .pure ⟨length, ?_⟩
  dsimp only
  split
  next long => decide
  next short => exact Nat.le_of_not_lt fun long => short (UInt8.lt_iff_toNat_lt.mpr long)

theorem parsePlayRetParam_reads :
    Reads parsePlayRetParam 259 fun _ packet =>
      packet.value.CountsMatch ∧ packet.value.StringsFit := by
  refine .one .enum fun inquired _ _ => .one .enum ?_
  intro detailed _ _
  cases detailed with
  | volume => exact .one .byte fun _ _ _ => .pure ⟨trivial, trivial⟩
  | trackName | albumName | artistName | genreName | playerName =>
    exact .map (by omega) parsePlayPlaybackString_reads fun _ _ holds => holds

/-! ## SYSTEM -/

theorem parseSystemGetCapability_reads : Reads parseSystemGetCapability 1 fun _ _ => True :=
  .one .enum fun _ _ _ => .pure trivial

theorem parseSystemCapabilityAutoPowerOff_reads :
    Reads parseSystemCapabilityAutoPowerOff 256 fun _ capability => capability.CountsMatch := by
  refine .one .byte fun count _ _ => .bind (by omega) (.forEach .enum count) ?_
  rintro elementIds _ ⟨length, -⟩
  exact .pure length

theorem parseSystemCapabilitySmartTalkingMode_reads :
    Reads parseSystemCapabilitySmartTalkingMode 10 fun _ _ => True :=
  .one .enum fun _ _ _ => .one .enum fun _ _ _ => .one .enum fun _ _ _ =>
    .one .enum fun _ _ _ => .one .enum fun _ _ _ => .one .enum fun _ _ _ =>
      .one .byte fun _ _ _ => .one .byte fun _ _ _ => .one .byte fun _ _ _ =>
        .one .byte fun _ _ _ => .pure trivial

theorem parseSystemAssignableSettingsCapabilityAction_reads :
    Reads parseSystemAssignableSettingsCapabilityAction 2 fun taken action =>
      True ∧ taken = writeSystemAssignableSettingsCapabilityAction action := by
  refine .one .enum ?_
  rintro action _ rfl
  refine .one .enum ?_
  rintro function _ rfl
  exact .pure ⟨trivial, rfl⟩

theorem parseSystemAssignableSettingsCapabilityPreset_reads :
    Reads parseSystemAssignableSettingsCapabilityPreset 512 fun taken preset =>
      preset.CountsMatch ∧ taken = preset.encoded := by
  refine .one .enum ?_
  rintro preset _ rfl
  refine .one .byte ?_
  rintro count _ rfl
  refine .map (by omega)
    (.forEach_encoded parseSystemAssignableSettingsCapabilityAction_reads count) ?_
  rintro _ actions ⟨length, -, rfl⟩
  exact ⟨length, rfl⟩

theorem parseSystemAssignableSettingsCapabilityKey_reads :
    Reads parseSystemAssignableSettingsCapabilityKey (4 + 255 * 512) fun taken key =>
      key.CountsMatch ∧ taken = key.encoded := by
  refine .one .enum ?_
  rintro key _ rfl
  refine .one .enum ?_
  rintro keyType _ rfl
  refine .one .enum ?_
  rintro defaultPreset _ rfl
  refine .one .byte ?_
  rintro count _ rfl
  refine .map (by omega)
    (.forEach_encoded parseSystemAssignableSettingsCapabilityPreset_reads count) ?_
  rintro _ presets ⟨length, counts, rfl⟩
  exact ⟨⟨length, counts⟩, rfl⟩

theorem parseSystemCapabilityAssignableSettings_reads :
    Reads parseSystemCapabilityAssignableSettings (1 + 255 * (4 + 255 * 512))
      fun taken capability => capability.CountsMatch ∧ taken = capability.encoded := by
  refine .one .byte ?_
  rintro count _ rfl
  refine .map (by omega)
    (.forEach_encoded parseSystemAssignableSettingsCapabilityKey_reads count) ?_
  rintro _ keys ⟨length, counts, rfl⟩
  exact ⟨⟨length, counts⟩, rfl⟩

/-- Of assignable settings it is known what was read. -/
theorem parseSystemRetCapability_reads :
    Reads parseSystemRetCapability (2 ^ 25) fun taken packet => packet.CountsMatch ∧
      ∀ capability, packet = .assignableSettings capability →
        taken = ByteEnum.byte SystemInquiredType.assignableSettings :: capability.encoded := by
  refine .one .enum ?_
  rintro inquired _ rfl
  cases inquired with
  | vibrator => exact .one .enum fun _ _ _ => .pure ⟨trivial, nofun⟩
  | powerSavingMode => exact .one .enum fun _ _ _ => .pure ⟨trivial, nofun⟩
  | controlByWearing => exact .one .enum fun _ _ _ => .pure ⟨trivial, nofun⟩
  | autoPowerOff =>
    exact .map (by omega) parseSystemCapabilityAutoPowerOff_reads
      fun _ _ counts => ⟨counts, nofun⟩
  | smartTalkingMode =>
    exact .map (by omega) parseSystemCapabilitySmartTalkingMode_reads
      fun _ _ _ => ⟨trivial, nofun⟩
  | assignableSettings =>
    refine .map (by omega) parseSystemCapabilityAssignableSettings_reads ?_
    rintro _ capability ⟨counts, rfl⟩
    refine ⟨counts, ?_⟩
    rintro _ ⟨⟩
    rfl

theorem parseSystemGetParam_reads : Reads parseSystemGetParam 1 fun _ _ => True :=
  .one .enum fun _ _ _ => .pure trivial

theorem parseSystemParamVibrator_reads : Reads parseSystemParamVibrator 2 fun _ _ => True :=
  .one .enum fun _ _ _ => .one .enum fun _ _ _ => .pure trivial

theorem parseSystemParamPowerSavingMode_reads :
    Reads parseSystemParamPowerSavingMode 2 fun _ _ => True :=
  .one .enum fun _ _ _ => .one .enum fun _ _ _ => .pure trivial

theorem parseSystemParamControlByWearing_reads :
    Reads parseSystemParamControlByWearing 2 fun _ _ => True :=
  .one .enum fun _ _ _ => .one .enum fun _ _ _ => .pure trivial

theorem parseSystemParamSmartTalkingMode_reads :
    Reads parseSystemParamSmartTalkingMode 2 fun _ _ => True :=
  .one .enum fun _ _ _ => .one .enum fun _ _ _ => .pure trivial

theorem parseSystemParamAutoPowerOff_reads :
    Reads parseSystemParamAutoPowerOff 3 fun _ _ => True :=
  .one .enum fun _ _ _ => .one .enum fun _ _ _ => .one .enum fun _ _ _ => .pure trivial

theorem parseSystemParamAssignableSettings_reads :
    Reads parseSystemParamAssignableSettings 256 fun _ param => param.CountsMatch := by
  refine .one .byte fun count _ _ => .bind (by omega) (.forEach .enum count) ?_
  rintro presets _ ⟨length, -⟩
  exact .pure length

theorem parseSystemRetParam_reads :
    Reads parseSystemRetParam 257 fun _ packet => packet.CountsMatch := by
  refine .one .enum ?_
  intro inquired _ _
  cases inquired with
  | vibrator => exact .map (by omega) parseSystemParamVibrator_reads fun _ _ _ => trivial
  | powerSavingMode =>
    exact .map (by omega) parseSystemParamPowerSavingMode_reads fun _ _ _ => trivial
  | controlByWearing =>
    exact .map (by omega) parseSystemParamControlByWearing_reads fun _ _ _ => trivial
  | autoPowerOff => exact .map (by omega) parseSystemParamAutoPowerOff_reads fun _ _ _ => trivial
  | smartTalkingMode =>
    exact .map (by omega) parseSystemParamSmartTalkingMode_reads fun _ _ _ => trivial
  | assignableSettings =>
    exact .map (by omega) parseSystemParamAssignableSettings_reads fun _ _ counts => counts

/-! ## Packets -/

namespace Packet

/-- What a parser has read, between the type byte and where it stopped, and the packet
it returns. -/
structure Decodes (type : PacketType) (taken : List UInt8) (packet : Packet) : Prop where
  isType : packet.type = type
  fixedValue : packet.FixedValue
  counts : packet.CountsMatch ↔ ¬ (type = .connectRetDeviceInfo ∧ AnnouncesLongName taken)
  long : type = .connectRetDeviceInfo → 2 ≤ taken.length

theorem Decodes.of_counts {type : PacketType} {taken : List UInt8} {packet : Packet}
    (isType : packet.type = type) (other : type ≠ .connectRetDeviceInfo)
    (fixedValue : packet.FixedValue) (counts : packet.CountsMatch) :
    packet.Decodes type taken where
  isType := isType
  fixedValue := fixedValue
  counts := ⟨fun _ long => other long.1, fun _ => counts⟩
  long same := absurd same other

/-- All parsers of packets. -/
theorem parseData_reads (type : PacketType) :
    Reads (parseData type) (2 ^ 26) fun taken packet => packet.Decodes type taken := by
  cases type with
  | connectGetProtocolInfo =>
    exact .map (by decide) parseConnectGetProtocolInfo_reads
      fun _ _ isZero => .of_counts rfl (by decide) isZero trivial
  | connectRetProtocolInfo =>
    exact .map (by decide) parseConnectRetProtocolInfo_reads
      fun _ _ isZero => .of_counts rfl (by decide) isZero trivial
  | connectGetDeviceInfo =>
    exact .map (by decide) parseConnectGetDeviceInfo_reads
      fun _ _ _ => .of_counts rfl (by decide) trivial trivial
  | connectRetDeviceInfo =>
    refine .map (by decide) parseConnectRetDeviceInfo_reads ?_
    rintro taken info ⟨length, counts⟩
    exact ⟨rfl, trivial, counts.trans (by simp), fun _ => length⟩
  | connectGetSupportFunction =>
    exact .map (by decide) parseConnectGetSupportFunction_reads
      fun _ _ isZero => .of_counts rfl (by decide) isZero trivial
  | connectRetSupportFunction =>
    exact .map (by decide) parseConnectRetSupportFunction_reads
      fun _ _ holds => .of_counts rfl (by decide) holds.1 holds.2
  | commonGetBatteryLevel =>
    exact .map (by decide) parseCommonGetBatteryLevel_reads
      fun _ _ _ => .of_counts rfl (by decide) trivial trivial
  | commonRetBatteryLevel | commonNtfyBatteryLevel =>
    exact .map (by decide) parseCommonRetBatteryLevel_reads
      fun _ _ _ => .of_counts rfl (by decide) trivial trivial
  | commonSetPowerOff =>
    exact .map (by decide) parseCommonSetPowerOff_reads
      fun _ _ _ => .of_counts rfl (by decide) trivial trivial
  | commonGetConnectionStatus =>
    exact .map (by decide) parseCommonGetConnectionStatus_reads
      fun _ _ _ => .of_counts rfl (by decide) trivial trivial
  | commonRetConnectionStatus | commonNtfyConnectionStatus =>
    exact .map (by decide) parseCommonRetConnectionStatus_reads
      fun _ _ _ => .of_counts rfl (by decide) trivial trivial
  | eqebbGetCapability =>
    exact .map (by decide) parseEqebbGetCapability_reads
      fun _ _ _ => .of_counts rfl (by decide) trivial trivial
  | eqebbRetCapability =>
    exact .map (by decide) parseEqebbRetCapability_reads
      fun _ _ holds => .of_counts rfl (by decide) trivial holds.1
  | eqebbGetParam =>
    exact .map (by decide) parseEqebbGetParam_reads
      fun _ _ _ => .of_counts rfl (by decide) trivial trivial
  | eqebbRetParam | eqebbSetParam | eqebbNtfyParam =>
    exact .map (by decide) parseEqebbRetParam_reads
      fun _ _ holds => .of_counts rfl (by decide) trivial holds.1
  | ncasmGetParam =>
    exact .map (by decide) parseNcasmGetParam_reads
      fun _ _ _ => .of_counts rfl (by decide) trivial trivial
  | ncasmRetParam | ncasmSetParam | ncasmNtfyParam =>
    exact .map (by decide) parseNcasmRetParam_reads
      fun _ _ _ => .of_counts rfl (by decide) trivial trivial
  | playGetParam =>
    exact .map (by decide) parsePlayGetParam_reads
      fun _ _ _ => .of_counts rfl (by decide) trivial trivial
  | playRetParam | playSetParam | playNtfyParam =>
    exact .map (by decide) parsePlayRetParam_reads
      fun _ _ holds => .of_counts rfl (by decide) trivial holds.1
  | systemGetCapability =>
    exact .map (by decide) parseSystemGetCapability_reads
      fun _ _ _ => .of_counts rfl (by decide) trivial trivial
  | systemRetCapability =>
    exact .map (by decide) parseSystemRetCapability_reads
      fun _ _ holds => .of_counts rfl (by decide) trivial holds.1
  | systemGetParam =>
    exact .map (by decide) parseSystemGetParam_reads
      fun _ _ _ => .of_counts rfl (by decide) trivial trivial
  | systemRetParam | systemSetParam | systemNtfyParam =>
    exact .map (by decide) parseSystemRetParam_reads
      fun _ _ counts => .of_counts rfl (by decide) trivial counts

theorem parse_reads (type : PacketType) :
    Reads (parse type) (2 ^ 26) fun taken packet => packet.Decodes type taken := by
  refine .bind (by omega) .alloc ?_
  rintro _ _ rfl
  exact parseData_reads type

/-! ## Frames -/

/-- Where the parser of a family starts: payload byte 0 has been read. -/
def start (h : Host) : Cursor :=
  { offset := 1, errno := h.errno, mallocs := h.mallocs, reads := [⟨0, 1⟩] }

/-- The accesses to the payload that `mdr_packet_from_frame` makes. -/
def fromFrameReads (heap : Heap) (frame : Frame) (h : Host) : List PayloadRead :=
  if frame.dataType ≠ frameDataTypeDataMdr then []
  else if frame.payloadLength < 1 then []
  else
    match frame.body[0]? with
    | none => [⟨0, 1⟩]
    | some first =>
      match (ByteEnum.ofByte first : Option PacketType) with
      | none => [⟨0, 1⟩]
      | some type => (parse type heap frame (start h)).2.reads

theorem start_room {frame : Frame} (h : Host)
    (holds : frame.payloadLength.toNat ≤ frame.body.length) (nonempty : ¬ frame.payloadLength < 1) :
    (start h).Room frame (2 ^ 26) where
  body := holds
  inside := by
    rw [UInt32.lt_iff_toNat_lt] at nonempty
    exact Nat.le_of_not_lt nonempty
  wrap := by
    change 1 + 2 ^ 26 < 2 ^ 32
    decide

section

variable {type : PacketType} {heap : Heap} {frame : Frame} {h : Host} {cursor : Cursor}

/-- A packet of the parser that belongs to the type byte. -/
theorem fromFrame_ok {packet : Packet} (isData : frame.dataType = frameDataTypeDataMdr)
    (nonempty : ¬ frame.payloadLength < 1) (isFirst : frame.body[0]? = some (ByteEnum.byte type))
    (ran : parse type heap frame (start h) = (.ok packet, cursor)) :
    fromFrame heap frame h = some (some packet, cursor.onHost h) := by
  rw [fromFrame, if_neg (not_not_intro isData), if_neg nonempty, isFirst]
  unfold start at ran
  simp only [ByteEnum.ofByte_byte, ran]

/-- A failure of the parser that belongs to the type byte. -/
theorem fromFrame_error {failure : ParseFailure} (isData : frame.dataType = frameDataTypeDataMdr)
    (nonempty : ¬ frame.payloadLength < 1) (isFirst : frame.body[0]? = some (ByteEnum.byte type))
    (ran : parse type heap frame (start h) = (.error failure, cursor)) :
    fromFrame heap frame h =
      if failure = .outOfBounds then none else some (none, cursor.onHost h) := by
  rw [fromFrame, if_neg (not_not_intro isData), if_neg nonempty, isFirst]
  unfold start at ran
  simp only [ByteEnum.ofByte_byte, ran]
  cases failure <;> rfl

end

/-- On a frame that holds its payload `mdr_packet_from_frame` reads nothing else. -/
theorem fromFrame_returns (heap : Heap) {frame : Frame} (h : Host)
    (holds : frame.payloadLength.toNat ≤ frame.body.length) :
    ∃ result, fromFrame heap frame h = some result := by
  by_cases isData : frame.dataType ≠ frameDataTypeDataMdr
  · rw [fromFrame, if_pos isData]
    exact ⟨_, rfl⟩
  by_cases isEmpty : frame.payloadLength < 1
  · rw [fromFrame, if_neg isData, if_pos isEmpty]
    exact ⟨_, rfl⟩
  have room := start_room h holds isEmpty
  obtain ⟨first, isFirst⟩ : ∃ first, frame.body[0]? = some first :=
    ⟨_, List.getElem?_eq_getElem (Nat.lt_of_lt_of_le room.inside holds)⟩
  cases isType : (ByteEnum.ofByte first : Option PacketType) with
  | none =>
    rw [fromFrame, if_neg isData, if_neg isEmpty, isFirst]
    simp only [isType]
    exact ⟨_, rfl⟩
  | some type =>
    obtain rfl := ByteEnum.byte_of_ofByte isType
    have safe := (parse_reads type heap frame (start h) room).safe
    rcases ran : parse type heap frame (start h) with ⟨failure | packet, cursor⟩
    · have notOut : failure ≠ .outOfBounds := by
        intro isOut
        rw [ran, isOut] at safe
        exact absurd rfl safe
      rw [fromFrame_error (not_not.mp isData) isEmpty isFirst ran, if_neg notOut]
      exact ⟨_, rfl⟩
    · exact ⟨_, fromFrame_ok (not_not.mp isData) isEmpty isFirst ran⟩

/-- The accesses are one behind the other, from byte 0 on. -/
theorem fromFrameReads_contiguous (heap : Heap) {frame : Frame} (h : Host)
    (holds : frame.payloadLength.toNat ≤ frame.body.length) :
    ∃ stop, stop ≤ frame.payloadLength.toNat ∧
      Contiguous 0 (fromFrameReads heap frame h) stop := by
  unfold fromFrameReads
  by_cases isData : frame.dataType ≠ frameDataTypeDataMdr
  · rw [if_pos isData]
    exact ⟨0, Nat.zero_le _, rfl⟩
  rw [if_neg isData]
  by_cases isEmpty : frame.payloadLength < 1
  · rw [if_pos isEmpty]
    exact ⟨0, Nat.zero_le _, rfl⟩
  rw [if_neg isEmpty]
  have room := start_room h holds isEmpty
  have one : 1 ≤ frame.payloadLength.toNat := room.inside
  obtain ⟨first, isFirst⟩ : ∃ first, frame.body[0]? = some first :=
    ⟨_, List.getElem?_eq_getElem (Nat.lt_of_lt_of_le one holds)⟩
  rw [isFirst]
  simp only
  cases (ByteEnum.ofByte first : Option PacketType) with
  | none => exact ⟨1, one, rfl, rfl⟩
  | some type =>
    have outcome := parse_reads type heap frame (start h) room
    obtain ⟨reads, isReads, contiguous⟩ := outcome.advances.reads
    refine ⟨_, outcome.advances.inside, ?_⟩
    simp only
    rw [isReads]
    exact ⟨rfl, contiguous⟩

/-- `mdr_packet_from_frame` on a frame that holds its payload: it reads one byte behind
the other from byte 0 on, all before byte `payload_length`, and never outside the frame. -/
theorem fromFrame_reads_in_payload (heap : Heap) (frame : Frame) (h : Host)
    (holds : frame.payloadLength.toNat ≤ frame.body.length) :
    (∃ result, fromFrame heap frame h = some result) ∧
      (∀ read ∈ fromFrameReads heap frame h,
        read.offset.toNat + read.length.toNat ≤ frame.payloadLength.toNat) ∧
      ∃ stop, stop ≤ frame.payloadLength.toNat ∧
        Contiguous 0 (fromFrameReads heap frame h) stop := by
  obtain ⟨stop, inside, contiguous⟩ := fromFrameReads_contiguous heap h holds
  refine ⟨fromFrame_returns heap h holds, ?_, stop, inside, contiguous⟩
  intro read isRead
  exact Nat.le_trans (contiguous.end_le isRead) inside

/-- `fromFrame_reads_in_payload` on the frame of an equalizer with two presets, one of them with a
name. -/
theorem fromFrame_reads_in_payload_presets :
    let frame : Frame :=
      ⟨0x0c, 0, 12, [0x51, 1, 5, 21, 2, 0, 3, 0x4f, 0x66, 0x66, 0xa0, 0, 0]⟩
    let h : Host := ⟨0, [], [], 0, [], []⟩
    (fromFrameReads (fun _ => some []) frame h).length = 11 ∧
      (∃ result, fromFrame (fun _ => some []) frame h = some result) ∧
      (∀ read ∈ fromFrameReads (fun _ => some []) frame h,
        read.offset.toNat + read.length.toNat ≤ 12) ∧
      ∃ stop, stop ≤ 12 ∧ Contiguous 0 (fromFrameReads (fun _ => some []) frame h) stop := by
  intro frame h
  exact ⟨by decide +kernel, fromFrame_reads_in_payload _ frame h (by decide)⟩

/-- Only a data frame is accepted. -/
theorem isData_of_fromFrame {heap : Heap} {frame : Frame} {h h' : Host} {packet : Packet}
    (accepted : fromFrame heap frame h = some (some packet, h')) :
    frame.dataType = frameDataTypeDataMdr := by
  by_contra other
  rw [fromFrame, if_pos other] at accepted
  cases accepted

/-- A payload with a first byte is not empty and has that byte at its start. -/
theorem payload_cons {frame : Frame} {first : UInt8} {rest : List UInt8}
    (isPayload : frame.payload = first :: rest) :
    1 ≤ frame.payloadLength.toNat ∧ ¬ frame.payloadLength < 1 ∧
      frame.body[0]? = some first := by
  have one : 1 ≤ frame.payloadLength.toNat := by
    have length := congrArg List.length isPayload
    rw [List.length_cons, Frame.payload, List.length_take] at length
    omega
  refine ⟨one, ?_, ?_⟩
  · rw [UInt32.lt_iff_toNat_lt]
    exact Nat.not_lt.mpr one
  · have isHead : frame.payload[0]? = some first := by
      rw [isPayload]
      rfl
    rwa [Frame.payload, List.getElem?_take_of_lt one] at isHead

/-- An accepted frame has a known type byte, and whatever the parser of that type promises
holds of the bytes behind it and the packet. -/
theorem fromFrame_parsed {heap : Heap} {frame : Frame} {h h' : Host} {packet : Packet}
    (holds : frame.payloadLength.toNat ≤ frame.body.length)
    (accepted : fromFrame heap frame h = some (some packet, h')) :
    ∃ type rest, frame.payload = ByteEnum.byte type :: rest ∧
      ∀ post, (parse type).Reads (2 ^ 26) post → ∃ taken, taken <+: rest ∧ post taken packet := by
  have isData := isData_of_fromFrame accepted
  by_cases isEmpty : frame.payloadLength < 1
  · rw [fromFrame, if_neg (not_not_intro isData), if_pos isEmpty] at accepted
    cases accepted
  have room := start_room h holds isEmpty
  have one : 1 ≤ frame.payloadLength.toNat := room.inside
  obtain ⟨first, tail, isBody⟩ : ∃ first tail, frame.body = first :: tail :=
    List.exists_cons_of_length_pos (Nat.lt_of_lt_of_le one holds)
  have isFirst : frame.body[0]? = some first := by rw [isBody]; rfl
  cases isType : (ByteEnum.ofByte first : Option PacketType) with
  | none =>
    rw [fromFrame, if_neg (not_not_intro isData), if_neg isEmpty, isFirst] at accepted
    simp only [isType] at accepted
    cases accepted
  | some type =>
    obtain rfl := ByteEnum.byte_of_ofByte isType
    refine ⟨type, tail.take (frame.payloadLength.toNat - 1), ?_, ?_⟩
    · rw [Frame.payload, isBody]
      conv_lhs => rw [show frame.payloadLength.toNat = frame.payloadLength.toNat - 1 + 1 by omega]
      rw [List.take_succ_cons]
    · intro post reads
      have outcome := reads heap frame (start h) room
      rcases ran : parse type heap frame (start h) with ⟨failure | result, cursor⟩
      · rw [fromFrame_error isData isEmpty isFirst ran] at accepted
        split at accepted <;> cases accepted
      · rw [fromFrame_ok isData isEmpty isFirst ran] at accepted
        rw [ran] at outcome
        obtain ⟨isPacket, -⟩ := Prod.mk.inj (Option.some.inj accepted)
        obtain rfl := Option.some.inj isPacket
        refine ⟨_, ?_, outcome.sound result rfl⟩
        have inside := outcome.advances.inside
        simp only at inside
        rw [Frame.between, isBody]
        change (tail.take _) <+: _
        exact List.take_prefix_take_left (Nat.sub_le_sub_right inside 1)

/-- A frame whose payload starts with bytes that the parser of its type accepts is
accepted. -/
theorem fromFrame_of_accepts {type : PacketType} {bytes : List UInt8} {packet : Packet}
    (accepts : (parse type).Accepts bytes packet) {frame : Frame}
    (isData : frame.dataType = frameDataTypeDataMdr)
    (front : ByteEnum.byte type :: bytes <+: frame.payload) {heap : Heap} (never : heap.NeverFails)
    (h : Host) : ∃ h', fromFrame heap frame h = some (some packet, h') := by
  obtain ⟨more, isPayload⟩ := front
  obtain ⟨one, nonempty, isFirst⟩ := payload_cons isPayload.symm
  have isNext : bytes <+: frame.payload.drop (start h).offset.toNat := by
    rw [← isPayload]
    exact List.prefix_append bytes more
  obtain ⟨after, ran, -⟩ := accepts heap frame (start h) never one isNext
  exact ⟨_, fromFrame_ok isData nonempty isFirst ran⟩

/-- The payload is an answer about the device that announces a model name or firmware
version of more than 128 bytes. -/
def LongDeviceName (frame : Frame) : Prop :=
  ∃ rest, frame.payload = ByteEnum.byte PacketType.connectRetDeviceInfo :: rest ∧
    AnnouncesLongName rest

/-- The two bytes that announce a name are among those that were read. -/
theorem announcesLongName_append {taken more : List UInt8} (length : 2 ≤ taken.length) :
    AnnouncesLongName (taken ++ more) ↔ AnnouncesLongName taken := by
  constructor
  · rintro ⟨inquired, len, rest, isTaken, isString, long⟩
    rcases taken with _ | ⟨a, _ | ⟨b, tail⟩⟩
    · cases length
    · simp at length
    · obtain ⟨rfl, isRest⟩ := List.cons.inj isTaken
      obtain ⟨rfl, -⟩ := List.cons.inj isRest
      exact ⟨inquired, b, tail, rfl, isString, long⟩
  · rintro ⟨inquired, len, rest, rfl, isString, long⟩
    exact ⟨inquired, len, rest ++ more, rfl, isString, long⟩

/-- What `mdr_packet_from_frame` returns is well formed, but for the answer about the
device with a name of more than 128 bytes: its length is more than what is stored. -/
theorem fromFrame_wellFormed_iff {heap : Heap} {frame : Frame} {h h' : Host} {packet : Packet}
    (holds : frame.payloadLength.toNat ≤ frame.body.length)
    (accepted : fromFrame heap frame h = some (some packet, h')) :
    packet.WellFormed ↔ ¬ LongDeviceName frame := by
  obtain ⟨type, rest, isPayload, parsed⟩ := fromFrame_parsed holds accepted
  obtain ⟨taken, ⟨more, rfl⟩, decodes⟩ := parsed _ (parse_reads type)
  have long : LongDeviceName frame ↔
      type = .connectRetDeviceInfo ∧ AnnouncesLongName taken := by
    constructor
    · rintro ⟨rest, isRest, announces⟩
      obtain ⟨isByte, rfl⟩ := List.cons.inj (isPayload.symm.trans isRest)
      have isType := ByteEnum.byte_injective isByte
      exact ⟨isType, (announcesLongName_append (decodes.long isType)).mp announces⟩
    · rintro ⟨rfl, announces⟩
      exact ⟨_, isPayload, (announcesLongName_append (decodes.long rfl)).mpr announces⟩
  rw [long, ← decodes.counts]
  constructor
  · intro wellFormed
    exact wellFormed.counts
  · intro counts
    exact ⟨counts, decodes.fixedValue⟩

/-- A model name of 129 bytes: 128 of them are stored, and the length says 129. -/
theorem fromFrame_not_wellFormed_model_name :
    fromFrame (fun _ => some [])
        ⟨0x0c, 0, 132, 0x05 :: 0x01 :: 129 :: List.replicate 130 0x41⟩ ⟨0, [], [], 0, [], []⟩
      = some (some (.connectRetDeviceInfo (.modelName ⟨129, List.replicate 128 0x41⟩)),
        ⟨0, [], [], 3, [], []⟩) ∧
      ¬ WellFormed (.connectRetDeviceInfo (.modelName ⟨129, List.replicate 128 0x41⟩)) := by
  refine ⟨by decide +kernel, ?_⟩
  intro wellFormed
  have length : (List.replicate 128 (0x41 : UInt8)).length = (129 : UInt8).toNat :=
    wellFormed.counts
  rw [List.length_replicate] at length
  exact absurd length (by decide)

/-- `fromFrame_wellFormed_iff` on an equalizer with two presets, one of them with a name, and on a
model name of 129 bytes. -/
theorem fromFrame_wellFormed_iff_presets :
    (WellFormed (.eqebbRetCapability (.presetEq
        ⟨5, 21, 2, [⟨.off, 3, [0x4f, 0x66, 0x66]⟩, ⟨.custom, 0, []⟩]⟩)) ↔
      ¬ LongDeviceName
        ⟨0x0c, 0, 12, [0x51, 1, 5, 21, 2, 0, 3, 0x4f, 0x66, 0x66, 0xa0, 0, 0]⟩) ∧
      (WellFormed (.connectRetDeviceInfo (.modelName ⟨129, List.replicate 128 0x41⟩)) ↔
        ¬ LongDeviceName
          ⟨0x0c, 0, 132, 0x05 :: 0x01 :: 129 :: List.replicate 130 0x41⟩) := by
  constructor
  · exact @fromFrame_wellFormed_iff (fun _ => some [])
      ⟨0x0c, 0, 12, [0x51, 1, 5, 21, 2, 0, 3, 0x4f, 0x66, 0x66, 0xa0, 0, 0]⟩
      ⟨0, [], [], 0, [], []⟩ ⟨0, [], [], 4, [], []⟩ _ (by decide) (by decide +kernel)
  · exact @fromFrame_wellFormed_iff (fun _ => some [])
      ⟨0x0c, 0, 132, 0x05 :: 0x01 :: 129 :: List.replicate 130 0x41⟩
      ⟨0, [], [], 0, [], []⟩ ⟨0, [], [], 3, [], []⟩ _ (by decide +kernel) (by decide +kernel)

end Packet

end Libmdr
