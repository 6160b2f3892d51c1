import Libmdr.Packet.Decoding
import Libmdr.Packet.Prefix

/-!
# Packets determined by a prefix of the payload

Every parser of the six families is built from the `PARSE_*` macros, and so is
determined by the bytes it takes, through tags and through counted loops. For frames:
a payload that is cut off within these bytes is refused, and bytes behind them change
nothing.
-/

namespace Libmdr
set_option autoImplicit false

open Parse

/-! ## CONNECT -/

theorem parseConnectGetProtocolInfo_determined :
    PrefixDetermined parseConnectGetProtocolInfo 1 :=
  .one .fixedValue fun _ => .pure _

theorem parseConnectRetProtocolInfo_determined :
    PrefixDetermined parseConnectRetProtocolInfo 3 :=
  .one .fixedValue fun _ => .one .byte fun _ => .one .byte fun _ => .pure _

theorem parseConnectGetDeviceInfo_determined : PrefixDetermined parseConnectGetDeviceInfo 1 :=
  .one .enum fun _ => .pure _

/-- The length byte, and up to 128 bytes: longer strings are cut. -/
theorem parseDeviceInfoString_determined : PrefixDetermined parseDeviceInfoString 256 :=
  .one .byte fun len => .bind (Nat.zero_le _) .alloc fun _ =>
    .map (Nat.le_refl _) (.bytes (if 128 < len then 128 else len))

theorem parseDeviceInfoSeriesAndColor_determined :
    PrefixDetermined parseDeviceInfoSeriesAndColor 2 :=
  .one .enum fun _ => .one .enum fun _ => .pure _

/-- A count, and up to 255 categories. -/
theorem parseDeviceInfoInstructionGuide_determined :
    PrefixDetermined parseDeviceInfoInstructionGuide 256 :=
  .one .byte fun count => .map (by omega) (.forEach .enum count)

/-- The inquired type and one of the four infos behind it. -/
theorem parseConnectRetDeviceInfo_determined : PrefixDetermined parseConnectRetDeviceInfo 257 := by
  refine .one .enum ?_
  intro inquired
  cases inquired with
  | modelName | fwVersion => exact .map (by omega) parseDeviceInfoString_determined
  | seriesAndColor => exact .map (by omega) parseDeviceInfoSeriesAndColor_determined
  | instructionGuide => exact .map (by omega) parseDeviceInfoInstructionGuide_determined

theorem parseConnectGetSupportFunction_determined :
    PrefixDetermined parseConnectGetSupportFunction 1 :=
  .one .fixedValue fun _ => .pure _

/-- The fixed byte, a count, and up to 255 functions. -/
theorem parseConnectRetSupportFunction_determined :
    PrefixDetermined parseConnectRetSupportFunction 257 :=
  .one .fixedValue fun _ => .one .byte fun count => .map (by omega) (.forEach .enum count)

/-! ## COMMON -/

theorem parseCommonGetBatteryLevel_determined : PrefixDetermined parseCommonGetBatteryLevel 1 :=
  .one .enum fun _ => .pure _

theorem parseBatteryStatus_determined : PrefixDetermined parseBatteryStatus 2 :=
  .one .byte fun _ => .one .byte fun _ => .pure _

/-- The inquired type, and one battery or two. -/
theorem parseCommonRetBatteryLevel_determined :
    PrefixDetermined parseCommonRetBatteryLevel 5 := by
  refine .one .enum ?_
  intro inquired
  cases inquired with
  | battery | cradleBattery => exact .map (by omega) parseBatteryStatus_determined
  | leftRightBattery =>
    exact .bind (by omega) parseBatteryStatus_determined fun _ =>
      .map (by omega) parseBatteryStatus_determined

theorem parseCommonSetPowerOff_determined : PrefixDetermined parseCommonSetPowerOff 2 :=
  .one .enum fun _ => .one .enum fun _ => .pure _

theorem parseCommonGetConnectionStatus_determined :
    PrefixDetermined parseCommonGetConnectionStatus 1 :=
  .one .enum fun _ => .pure _

/-- The inquired type and the status of both sides. -/
theorem parseCommonRetConnectionStatus_determined :
    PrefixDetermined parseCommonRetConnectionStatus 3 := by
  refine .one .enum ?_
  intro inquired
  cases inquired
  exact .one .enum fun _ => .one .enum fun _ => .pure _

/-! ## EQEBB -/

theorem parseEqebbGetCapability_determined : PrefixDetermined parseEqebbGetCapability 2 :=
  .one .enum fun _ => .one .enum fun _ => .pure _

/-- The preset, the length of its name, and up to 255 bytes. -/
theorem parseEqebbCapabilityEqPresetName_determined :
    PrefixDetermined parseEqebbCapabilityEqPresetName 257 :=
  .one .enum fun _ => .one .byte fun nameLen => .map (by omega) (.bytes nameLen)

/-- Three bytes and up to 255 presets with their names. -/
theorem parseEqebbCapabilityEq_determined :
    PrefixDetermined parseEqebbCapabilityEq (3 + 255 * 257) :=
  .one .byte fun _ => .one .byte fun _ => .one .byte fun numPresets =>
    .map (by omega) (.forEach parseEqebbCapabilityEqPresetName_determined numPresets)

theorem parseEqebbCapabilityEbb_determined : PrefixDetermined parseEqebbCapabilityEbb 2 :=
  .one .byte fun _ => .one .byte fun _ => .pure _

/-- The inquired type and a capability. The bound is a round number. -/
theorem parseEqebbRetCapability_determined :
    PrefixDetermined parseEqebbRetCapability (2 ^ 17) := by
  refine .one .enum ?_
  intro inquired
  cases inquired with
  | presetEq | presetEqNoncustomizable => exact .map (by omega) parseEqebbCapabilityEq_determined
  | ebb => exact .map (by omega) parseEqebbCapabilityEbb_determined

theorem parseEqebbGetParam_determined : PrefixDetermined parseEqebbGetParam 1 :=
  .one .enum fun _ => .pure _

/-- The preset, a count, and up to 255 levels. -/
theorem parseEqebbParamEq_determined : PrefixDetermined parseEqebbParamEq 257 :=
  .one .enum fun _ => .one .byte fun numLevels => .map (by omega) (.bytes numLevels)

/-- The inquired type, and the levels of a preset or the one of EBB. -/
theorem parseEqebbRetParam_determined : PrefixDetermined parseEqebbRetParam 258 := by
  refine .one .enum ?_
  intro inquired
  cases inquired with
  | presetEq | presetEqNoncustomizable => exact .map (by omega) parseEqebbParamEq_determined
  | ebb => exact .one .byte fun _ => .pure _

/-! ## NCASM -/

theorem parseNcasmGetParam_determined : PrefixDetermined parseNcasmGetParam 1 :=
  .one .enum fun _ => .pure _

theorem parseNcasmParamNoiseCancelling_determined :
    PrefixDetermined parseNcasmParamNoiseCancelling 2 :=
  .one .enum fun _ => .one .enum fun _ => .pure _

theorem parseNcasmParamNoiseCancellingAsm_determined :
    PrefixDetermined parseNcasmParamNoiseCancellingAsm 6 :=
  .one .enum fun _ => .one .enum fun _ => .one .byte fun _ =>
    .one .enum fun _ => .one .enum fun _ => .one .byte fun _ => .pure _

theorem parseNcasmParamAsm_determined : PrefixDetermined parseNcasmParamAsm 4 :=
  .one .enum fun _ => .one .enum fun _ => .one .enum fun _ => .one .byte fun _ => .pure _

/-- The inquired type, and up to six settings. -/
theorem parseNcasmRetParam_determined : PrefixDetermined parseNcasmRetParam 7 := by
  refine .one .enum ?_
  intro inquired
  cases inquired with
  | noiseCancelling => exact .map (by omega) parseNcasmParamNoiseCancelling_determined
  | noiseCancellingAndAsm => exact .map (by omega) parseNcasmParamNoiseCancellingAsm_determined
  | asm => exact .map (by omega) parseNcasmParamAsm_determined

/-! ## PLAY -/

theorem parsePlayGetParam_determined : PrefixDetermined parsePlayGetParam 2 :=
  .one .enum fun _ => .one .enum fun _ => .pure _

/-- The status, the length byte, and up to 128 bytes: longer strings are cut. -/
theorem parsePlayPlaybackString_determined : PrefixDetermined parsePlayPlaybackString 257 :=
  .one .enum fun _ => .one .byte fun _ => .map (by omega) (.bytes _)

/-- The inquired type, the kind of data, and a string or the volume. -/
theorem parsePlayRetParam_determined : PrefixDetermined parsePlayRetParam 259 := by
  refine .one .enum fun inquired => .one .enum ?_
  intro detailed
  cases detailed with
  | volume => exact .one .byte fun _ => .pure _
  | trackName | albumName | artistName | genreName | playerName =>
    exact .map (by omega) parsePlayPlaybackString_determined

/-! ## SYSTEM -/

theorem parseSystemGetCapability_determined : PrefixDetermined parseSystemGetCapability 1 :=
  .one .enum fun _ => .pure _

/-- A count, and up to 255 times. -/
theorem parseSystemCapabilityAutoPowerOff_determined :
    PrefixDetermined parseSystemCapabilityAutoPowerOff 256 :=
  .one .byte fun count => .map (by omega) (.forEach .enum count)

theorem parseSystemCapabilitySmartTalkingMode_determined :
    PrefixDetermined parseSystemCapabilitySmartTalkingMode 10 :=
  .one .enum fun _ => .one .enum fun _ => .one .enum fun _ => .one .enum fun _ =>
    .one .enum fun _ => .one .enum fun _ => .one .byte fun _ => .one .byte fun _ =>
      .one .byte fun _ => .one .byte fun _ => .pure _

theorem parseSystemAssignableSettingsCapabilityAction_determined :
    PrefixDetermined parseSystemAssignableSettingsCapabilityAction 2 :=
  .one .enum fun _ => .one .enum fun _ => .pure _

/-- The preset, a count, and up to 255 actions of two bytes. -/
theorem parseSystemAssignableSettingsCapabilityPreset_determined :
    PrefixDetermined parseSystemAssignableSettingsCapabilityPreset 512 :=
  .one .enum fun _ => .one .byte fun count =>
    .map (by omega) (.forEach parseSystemAssignableSettingsCapabilityAction_determined count)

/-- Three bytes for the key, a count, and up to 255 presets. -/
theorem parseSystemAssignableSettingsCapabilityKey_determined :
    PrefixDetermined parseSystemAssignableSettingsCapabilityKey (4 + 255 * 512) :=
  .one .enum fun _ => .one .enum fun _ => .one .enum fun _ => .one .byte fun count =>
    .map (by omega) (.forEach parseSystemAssignableSettingsCapabilityPreset_determined count)

/-- The outermost of the three counted loops. -/
theorem parseSystemCapabilityAssignableSettings_determined :
    PrefixDetermined parseSystemCapabilityAssignableSettings (1 + 255 * (4 + 255 * 512)) :=
  .one .byte fun count =>
    .map (by omega) (.forEach parseSystemAssignableSettingsCapabilityKey_determined count)

/-- The inquired type and a capability. The bound is a round number. -/
theorem parseSystemRetCapability_determined :
    PrefixDetermined parseSystemRetCapability (2 ^ 25) := by
  refine .one .enum ?_
  intro inquired
  cases inquired with
  | vibrator => exact .one .enum fun _ => .pure _
  | powerSavingMode => exact .one .enum fun _ => .pure _
  | controlByWearing => exact .one .enum fun _ => .pure _
  | autoPowerOff => exact .map (by omega) parseSystemCapabilityAutoPowerOff_determined
  | smartTalkingMode => exact .map (by omega) parseSystemCapabilitySmartTalkingMode_determined
  | assignableSettings => exact .map (by omega) parseSystemCapabilityAssignableSettings_determined

theorem parseSystemGetParam_determined : PrefixDetermined parseSystemGetParam 1 :=
  .one .enum fun _ => .pure _

theorem parseSystemParamVibrator_determined : PrefixDetermined parseSystemParamVibrator 2 :=
  .one .enum fun _ => .one .enum fun _ => .pure _

theorem parseSystemParamPowerSavingMode_determined :
    PrefixDetermined parseSystemParamPowerSavingMode 2 :=
  .one .enum fun _ => .one .enum fun _ => .pure _

theorem parseSystemParamControlByWearing_determined :
    PrefixDetermined parseSystemParamControlByWearing 2 :=
  .one .enum fun _ => .one .enum fun _ => .pure _

theorem parseSystemParamSmartTalkingMode_determined :
    PrefixDetermined parseSystemParamSmartTalkingMode 2 :=
  .one .enum fun _ => .one .enum fun _ => .pure _

theorem parseSystemParamAutoPowerOff_determined :
    PrefixDetermined parseSystemParamAutoPowerOff 3 :=
  .one .enum fun _ => .one .enum fun _ => .one .enum fun _ => .pure _

theorem parseSystemParamAssignableSettings_determined :
    PrefixDetermined parseSystemParamAssignableSettings 256 :=
  .one .byte fun count => .map (by omega) (.forEach .enum count)

/-- The inquired type and its setting. -/
theorem parseSystemRetParam_determined : PrefixDetermined parseSystemRetParam 257 := by
  refine .one .enum ?_
  intro inquired
  cases inquired with
  | vibrator => exact .map (by omega) parseSystemParamVibrator_determined
  | powerSavingMode => exact .map (by omega) parseSystemParamPowerSavingMode_determined
  | controlByWearing => exact .map (by omega) parseSystemParamControlByWearing_determined
  | autoPowerOff => exact .map (by omega) parseSystemParamAutoPowerOff_determined
  | smartTalkingMode => exact .map (by omega) parseSystemParamSmartTalkingMode_determined
  | assignableSettings => exact .map (by omega) parseSystemParamAssignableSettings_determined

/-! ## Packets -/

namespace Packet

/-- All parsers of packets. -/
theorem parseData_determined (type : PacketType) : PrefixDetermined (parseData type) (2 ^ 26) := by
  cases type with
  | connectGetProtocolInfo => exact .map (by decide) parseConnectGetProtocolInfo_determined
  | connectRetProtocolInfo => exact .map (by decide) parseConnectRetProtocolInfo_determined
  | connectGetDeviceInfo => exact .map (by decide) parseConnectGetDeviceInfo_determined
  | connectRetDeviceInfo => exact .map (by decide) parseConnectRetDeviceInfo_determined
  | connectGetSupportFunction => exact .map (by decide) parseConnectGetSupportFunction_determined
  | connectRetSupportFunction => exact .map (by decide) parseConnectRetSupportFunction_determined
  | commonGetBatteryLevel => exact .map (by decide) parseCommonGetBatteryLevel_determined
  | commonRetBatteryLevel | commonNtfyBatteryLevel =>
    exact .map (by decide) parseCommonRetBatteryLevel_determined
  | commonSetPowerOff => exact .map (by decide) parseCommonSetPowerOff_determined
  | commonGetConnectionStatus => exact .map (by decide) parseCommonGetConnectionStatus_determined
  | commonRetConnectionStatus | commonNtfyConnectionStatus =>
    exact .map (by decide) parseCommonRetConnectionStatus_determined
  | eqebbGetCapability => exact .map (by decide) parseEqebbGetCapability_determined
  | eqebbRetCapability => exact .map (by decide) parseEqebbRetCapability_determined
  | eqebbGetParam => exact .map (by decide) parseEqebbGetParam_determined
  | eqebbRetParam | eqebbSetParam | eqebbNtfyParam =>
    exact .map (by decide) parseEqebbRetParam_determined
  | ncasmGetParam => exact .map (by decide) parseNcasmGetParam_determined
  | ncasmRetParam | ncasmSetParam | ncasmNtfyParam =>
    exact .map (by decide) parseNcasmRetParam_determined
  | playGetParam => exact .map (by decide) parsePlayGetParam_determined
  | playRetParam | playSetParam | playNtfyParam =>
    exact .map (by decide) parsePlayRetParam_determined
  | systemGetCapability => exact .map (by decide) parseSystemGetCapability_determined
  | systemRetCapability => exact .map (by decide) parseSystemRetCapability_determined
  | systemGetParam => exact .map (by decide) parseSystemGetParam_determined
  | systemRetParam | systemSetParam | systemNtfyParam =>
    exact .map (by decide) parseSystemRetParam_determined

/-- The packet is allocated before its first byte is read. -/
theorem parse_determined (type : PacketType) : PrefixDetermined (parse type) (2 ^ 26) :=
  .bind (Nat.zero_le _) .alloc fun _ => parseData_determined type

/-- A frame whose payload ends within bytes that its parser refuses is refused. -/
theorem fromFrame_of_rejects {type : PacketType} {bytes : List UInt8}
    (rejects : (parse type).Rejects bytes) {frame : Frame} (holds : frame.Holds)
    (isPayload : frame.payload = ByteEnum.byte type :: bytes) {heap : Heap}
    (never : heap.NeverFails) (h : Host) : ∃ h', fromFrame heap frame h = some (none, h') := by
  obtain ⟨⟨found, h'⟩, ran⟩ := fromFrame_returns heap h holds.body
  cases found with
  | none => exact ⟨h', ran⟩
  | some packet =>
    exfalso
    obtain ⟨parsedType, rest, isParsed, -⟩ := fromFrame_parsed holds.body ran
    obtain ⟨isByte, rfl⟩ := List.cons.inj (isPayload.symm.trans isParsed)
    obtain rfl := ByteEnum.byte_injective isByte
    obtain ⟨one, nonempty, isFirst⟩ := payload_cons isPayload
    have isData := isData_of_fromFrame ran
    have isRest : frame.payload.drop (start h).offset.toNat = bytes := by
      rw [isPayload]
      rfl
    have refused := rejects heap frame (start h) never holds one isRest
    rcases parsed : parse type heap frame (start h) with ⟨failure | result, cursor⟩
    · rw [fromFrame_error isData nonempty isFirst parsed] at ran
      split at ran <;> cases ran
    · exact refused result (by rw [parsed])

/-- **Parsing is determined by a prefix.** Of every accepted payload the first `k` bytes,
for some `k`, decide the packet: any payload that starts with them gives the same one, and
one that ends within them is refused. -/
theorem fromFrame_prefix_determined {heap : Heap} {frame : Frame} {h h' : Host} {packet : Packet}
    (holds : frame.payloadLength.toNat ≤ frame.body.length)
    (accepted : fromFrame heap frame h = some (some packet, h')) :
    ∃ k ≤ frame.payloadLength.toNat,
      (∀ (other : Frame) (heap' : Heap) (h₁ : Host), heap'.NeverFails →
        other.payloadLength.toNat ≤ other.body.length → other.dataType = frame.dataType →
        other.payload.take k = frame.payload.take k →
        ∃ h₂, fromFrame heap' other h₁ = some (some packet, h₂)) ∧
      ∀ (other : Frame) (heap' : Heap) (h₁ : Host), heap'.NeverFails →
        other.payloadLength.toNat ≤ other.body.length → other.dataType = frame.dataType →
        other.payload <+: frame.payload.take k → other.payload ≠ frame.payload.take k →
        ∃ h₂, fromFrame heap' other h₁ = some (none, h₂) := by
  obtain ⟨type, rest, isPayload, parsed⟩ := fromFrame_parsed holds accepted
  obtain ⟨taken, front, short, determines⟩ := parsed _ (parse_determined type).bounded
  have isData := isData_of_fromFrame accepted
  have isFront : frame.payload.take (1 + taken.length) = ByteEnum.byte type :: taken := by
    rw [isPayload, Nat.add_comm, List.take_succ_cons, ← List.prefix_iff_eq_take.mp front]
  refine ⟨1 + taken.length, ?_, ?_, ?_⟩
  · have length := congrArg List.length isPayload
    have within := front.length_le
    rw [Frame.payload, List.length_take, List.length_cons] at length
    omega
  · intro other heap' h₁ never _ sameType same
    refine fromFrame_of_accepts determines.accepts (sameType.trans isData) ?_ never h₁
    rw [← isFront, ← same]
    exact List.take_prefix _ _
  · intro other heap' h₁ never holdsOther sameType isShort differs
    rw [isFront] at isShort differs
    have left : other.payload.length = other.payloadLength.toNat := by
      rw [Frame.payload, List.length_take, Nat.min_eq_left holdsOther]
    have within := isShort.length_le
    rw [left, List.length_cons] at within
    rcases isOther : other.payload with _ | ⟨b, more⟩
    · have empty : other.payloadLength < 1 := by
        rw [isOther, List.length_nil] at left
        rw [UInt32.lt_iff_toNat_lt, ← left]
        decide
      rw [fromFrame, if_neg (not_not_intro (sameType.trans isData)), if_pos empty]
      exact ⟨_, rfl⟩
    · rw [isOther] at isShort differs
      obtain ⟨rfl, isMore⟩ := List.cons_prefix_cons.mp isShort
      refine fromFrame_of_rejects (determines.shorter more isMore ?_)
        ⟨holdsOther, by omega⟩ isOther never h₁
      rintro rfl
      exact differs rfl

/-- `fromFrame_prefix_determined` on the answer about the support functions, which names
two functions and has a byte more than it needs. -/
theorem fromFrame_prefix_determined_support_function :
    let frame : Frame := ⟨0x0c, 0, 6, [0x07, 0x00, 2, 0x51, 0xa1, 9, 0]⟩
    ∃ k ≤ frame.payloadLength.toNat,
      (∀ (other : Frame) (heap' : Heap) (h₁ : Host), heap'.NeverFails →
        other.payloadLength.toNat ≤ other.body.length → other.dataType = frame.dataType →
        other.payload.take k = frame.payload.take k →
        ∃ h₂, fromFrame heap' other h₁ = some (some (.connectRetSupportFunction
          ⟨0, 2, [.presetEq, .playbackController]⟩), h₂)) ∧
      ∀ (other : Frame) (heap' : Heap) (h₁ : Host), heap'.NeverFails →
        other.payloadLength.toNat ≤ other.body.length → other.dataType = frame.dataType →
        other.payload <+: frame.payload.take k → other.payload ≠ frame.payload.take k →
        ∃ h₂, fromFrame heap' other h₁ = some (none, h₂) := by
  intro frame
  have accepted : fromFrame (fun _ => some []) frame ⟨0, [], [], 0, [], []⟩
      = some (some (.connectRetSupportFunction ⟨0, 2, [.presetEq, .playbackController]⟩),
        ⟨0, [], [], 2, [], []⟩) := by decide +kernel
  exact fromFrame_prefix_determined (by decide) accepted

end Packet

end Libmdr
